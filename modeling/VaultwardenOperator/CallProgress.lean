import VaultwardenOperator.OneSnapshot

/-!
# Every call ends

A call of `fetch_secrets` pays for its steps from a budget that nothing refills: at
most one refresh, in it at most two renewals and two syncs, and one retry. So it
makes a bounded number of requests, whatever the other tasks do and whatever the
server answers.

Nor can calls block each other for good. The refresh lock is held exactly by the call
that is inside `refresh_if_due`, and that call never waits for another one. From any
reachable state, any call is brought to its end by its own steps and those of the
holder of the lock.
-/

namespace VaultwardenOperator.CallProgress

open Rust Crypto Sync Auth Machine VaultClient ClientSteps

/-! ## Budgets -/

/-- What a step costs, by what lets the task take it. -/
structure Prices where
  proceed : Nat
  token : Nat
  login : Nat
  sync : Nat

def Prices.of (prices : Prices) : Signal → Nat
  | .proceed | .stop => prices.proceed
  | .token _ => prices.token
  | .login _ => prices.login
  | .sync _ => prices.sync

/-- The most that a renewal can still cost. -/
def renewalBudget (prices : Prices) : VaultClient.Renewal → Nat
  | .checking => 3 * prices.proceed + prices.token + prices.login
  | .reading => 2 * prices.proceed + prices.token + prices.login
  | .granting _ => prices.proceed + prices.token + prices.login
  | .granted _ => prices.proceed
  | .authenticating => prices.proceed + prices.login
  | .authenticated _ => prices.proceed

/-- The most that a refresh can still cost. -/
def refreshBudget (prices : Prices) : Refresh → Nat
  | .ensuring renewal =>
    renewalBudget prices renewal +
      (6 * prices.proceed + prices.token + prices.login + 2 * prices.sync)
  | .readingToken => 6 * prices.proceed + prices.token + prices.login + 2 * prices.sync
  | .readingKey _ => 5 * prices.proceed + prices.token + prices.login + 2 * prices.sync
  | .syncing _ _ => 4 * prices.proceed + prices.token + prices.login + 2 * prices.sync
  | .renewing _ renewal => renewalBudget prices renewal + (2 * prices.proceed + prices.sync)
  | .rereadingToken _ => 2 * prices.proceed + prices.sync
  | .resyncing _ _ => prices.proceed + prices.sync
  | .installing _ _ => prices.proceed

/-- The most that a call can still cost. -/
def callBudget (prices : Prices) : Fetch → Nat
  | .idle => 13 * prices.proceed + 2 * prices.token + 2 * prices.login + 2 * prices.sync
  | .looking _ => 13 * prices.proceed + 2 * prices.token + 2 * prices.login + 2 * prices.sync
  | .queued _ _ => 12 * prices.proceed + 2 * prices.token + 2 * prices.login + 2 * prices.sync
  | .checking _ _ => 11 * prices.proceed + 2 * prices.token + 2 * prices.login + 2 * prices.sync
  | .refreshing _ _ refresh => refreshBudget prices refresh + prices.proceed
  | .retrying _ => prices.proceed
  | .returned _ _ => 0
  | .crashed => 0

/-- What is left of the budget of a renewal that goes on. -/
def renewalLeft (prices : Prices) : Progress VaultClient.Renewal (Call AuthError Unit) → Nat
  | .running renewal => renewalBudget prices renewal
  | .done _ => 0

def refreshLeft (prices : Prices) : Progress Refresh (Call VaultError Unit) → Nat
  | .running refresh => refreshBudget prices refresh
  | .done _ => 0

section
variable {RsaPrivateKey : Type} (client : Client RsaPrivateKey) (prices : Prices)

/-- A step of a renewal is paid from its budget. -/
theorem renewal_paid (now : Nat) (session next : Session) (renewal : VaultClient.Renewal)
    (signal : Signal) (progress : Progress VaultClient.Renewal (Call AuthError Unit))
    (taken : renewalStep client now session renewal signal = some (next, progress)) :
    renewalLeft prices progress + prices.of signal ≤ renewalBudget prices renewal := by
  cases renewal_move client now session next renewal signal progress taken with
  | _ =>
    simp only [renewalLeft, renewalBudget, Prices.of]
    omega

/-- A refresh goes on after a renewal for what the renewal leaves it. -/
theorem around_renewal_paid (stay : VaultClient.Renewal → Refresh) (goOn : Refresh)
    (progress : Progress VaultClient.Renewal (Call AuthError Unit)) (rest : Nat)
    (staying : ∀ renewal, refreshBudget prices (stay renewal) = renewalBudget prices renewal + rest)
    (going : refreshBudget prices goOn = rest) :
    refreshLeft prices (aroundRenewal stay goOn progress) ≤ renewalLeft prices progress + rest := by
  rcases progress with later | halt | _
  · exact le_of_eq (staying later)
  · exact Nat.zero_le _
  · simp only [aroundRenewal, refreshLeft, renewalLeft, going]
    omega

/-- A step of a refresh is paid from its budget. -/
theorem refresh_paid (now : Nat) (session next : Session) (refresh : Refresh) (signal : Signal)
    (progress : Progress Refresh (Call VaultError Unit))
    (taken : refreshStep client now session refresh signal = some (next, progress)) :
    refreshLeft prices progress + prices.of signal ≤ refreshBudget prices refresh := by
  cases refresh_move client now session next refresh signal progress taken with
  | ensure renewal signal next progress inside =>
    have paid := renewal_paid client prices now session next renewal signal progress inside
    have around := around_renewal_paid prices .ensuring .readingToken progress _ (fun _ => rfl) rfl
    simp only [refreshBudget] at around ⊢
    omega
  | renew symKey renewal signal next progress inside =>
    have paid := renewal_paid client prices now session next renewal signal progress inside
    have around := around_renewal_paid prices (.renewing symKey) (.rereadingToken symKey) progress
      _ (fun _ => rfl) rfl
    simp only [refreshBudget] at around ⊢
    omega
  | _ =>
    simp only [refreshLeft, refreshBudget, renewalBudget, Prices.of]
    omega

/-- A lookup that is handed on costs no more. -/
theorem settled_free (requests : List SecretRequest) (result : Call VaultError (List String)) :
    callBudget prices (settled requests result) = 0 := by
  rcases result with (_ | _) | _ <;> rfl

/-- After its first lookup, a call waits for its refresh at the most. -/
theorem first_lookup_paid (requests : List SecretRequest)
    (result : Call VaultError (List String)) :
    callBudget prices (afterFirstLookup requests result) + prices.proceed ≤
      13 * prices.proceed + 2 * prices.token + 2 * prices.login + 2 * prices.sync := by
  rcases OneSnapshot.first_lookup_cases requests result with ⟨miss, queued⟩ | ends
  · rw [queued]
    simp only [callBudget]
    omega
  · rw [ends, settled_free]
    omega

theorem after_on_demand_paid (requests : List SecretRequest) (miss : LookupError)
    (progress : Progress Refresh (Call VaultError Unit)) :
    callBudget prices (afterOnDemand requests miss progress) ≤
      refreshLeft prices progress + prices.proceed := by
  rcases progress with later | (error | panic) | _
  · exact le_refl _
  · exact Nat.zero_le _
  · exact Nat.zero_le _
  · exact Nat.le_add_left _ _

section
variable {ι : Type} [DecidableEq ι]

/-- What an event costs the call of one identity. -/
def turnPrice (id : ι) : VaultClient.Event ι → Nat
  | .fetch other signal => if other = id then prices.of signal else 0
  | _ => 0

/-- A step that changes one call is paid by that call. -/
theorem own_turn_paid (system next : System ι) (call id : ι) (fetch : Fetch) (signal : Signal)
    (fetches : next.fetches = (system.withFetch call fetch).fetches)
    (own : callBudget prices fetch + prices.of signal ≤
      callBudget prices (system.fetches call)) :
    callBudget prices (next.fetches id) + turnPrice prices id (.fetch call signal) ≤
      callBudget prices (system.fetches id) := by
  rw [fetches]
  by_cases same : id = call
  · subst same
    simpa [turnPrice] using own
  · have other : call ≠ id := Ne.symm same
    simp [turnPrice, other, with_fetch_other system call id fetch same]

/-- Every step of the system is paid from the budgets of the calls. -/
theorem move_paid (system next : System ι) (event : VaultClient.Event ι)
    (move : Move client system event next) (id : ι) :
    callBudget prices (next.fetches id) + turnPrice prices id event ≤
      callBudget prices (system.fetches id) := by
  cases move with
  | arrive call requests idle =>
    by_cases same : id = call
    · subst same
      simp [turnPrice, idle, callBudget]
    · simp [turnPrice, with_fetch_other system call id _ same]
  | look call requests looking =>
    refine own_turn_paid prices system _ call id _ .proceed rfl ?_
    rw [looking]
    exact first_lookup_paid prices requests _
  | lock call requests miss queued free =>
    refine own_turn_paid prices system _ call id _ .proceed rfl ?_
    rw [queued]
    simp only [callBudget, Prices.of]
    omega
  | skip call requests miss checking cooling =>
    refine own_turn_paid prices system _ call id _ .proceed rfl ?_
    rw [checking]
    simp only [callBudget, Prices.of]
    omega
  | start call requests miss checking due =>
    refine own_turn_paid prices system _ call id _ .proceed rfl ?_
    rw [checking]
    simp only [callBudget, refreshBudget, renewalBudget, Prices.of]
    omega
  | onDemand call requests miss refresh signal session progress refreshing taken =>
    refine own_turn_paid prices system _ call id _ signal rfl ?_
    have paid := refresh_paid client prices system.now system.session session refresh signal
      progress taken
    have left := after_on_demand_paid prices requests miss progress
    rw [refreshing]
    change _ ≤ refreshBudget prices refresh + prices.proceed
    omega
  | retry call requests retrying =>
    refine own_turn_paid prices system _ call id _ .proceed rfl ?_
    rw [retrying, settled_free]
    simp [callBudget, Prices.of]
  | elapse | tick | stop | background | tokenLoop => simp [turnPrice]

/-- What a call costs in a whole run. -/
theorem run_paid (initial last : System ι) (events : List (VaultClient.Event ι)) (id : ι)
    (ran : run (VaultClient.step client) initial events = some last) :
    callBudget prices (last.fetches id) + (events.map (turnPrice prices id)).sum ≤
      callBudget prices (initial.fetches id) := by
  apply run_budget (VaultClient.step client) (fun system => callBudget prices (system.fetches id))
    (turnPrice prices id) ?_ initial last events ran
  intro system event next taken
  exact move_paid client prices system next event (step_move client system next event taken) id

end

end

/-! ## Counting turns -/

/-- The signal is one that the call was waiting for, of the given kind. -/
def isTurn {ι : Type} [DecidableEq ι] (kind : Signal → Bool) (id : ι) :
    VaultClient.Event ι → Bool
  | .fetch other signal => decide (other = id) && kind signal
  | _ => false

def isToken : Signal → Bool
  | .token _ => true
  | _ => false

def isLogin : Signal → Bool
  | .login _ => true
  | _ => false

def isSync : Signal → Bool
  | .sync _ => true
  | _ => false

/-- A count of turns is what they cost at prices of one or nothing. -/
theorem count_turns {ι : Type} [DecidableEq ι] (kind : Signal → Bool) (prices : Prices) (id : ι)
    (events : List (VaultClient.Event ι))
    (priced : ∀ signal, (kind signal).toNat ≤ prices.of signal) :
    events.countP (isTurn kind id) ≤ (events.map (turnPrice prices id)).sum := by
  induction events with
  | nil => simp
  | cons event rest inductionHypothesis =>
    have one : (isTurn kind id event).toNat ≤ turnPrice prices id event := by
      cases event with
      | fetch other signal =>
        by_cases same : other = id
        · simpa [isTurn, turnPrice, same] using priced signal
        · simp [isTurn, turnPrice, same]
      | _ => simp [isTurn]
    rw [List.countP_cons, List.map_cons, List.sum_cons]
    cases turn : isTurn kind id event <;> simp [turn] at one ⊢ <;> omega

/-- No call starts with more than the whole budget. -/
theorem call_budget_bound (prices : Prices) (fetch : Fetch) :
    callBudget prices fetch ≤
      13 * prices.proceed + 2 * prices.token + 2 * prices.login + 2 * prices.sync := by
  cases fetch with
  | refreshing requests miss refresh =>
    have renewal : ∀ renewal, renewalBudget prices renewal ≤
        3 * prices.proceed + prices.token + prices.login := by
      intro renewal
      cases renewal <;> simp only [renewalBudget] <;> omega
    cases refresh with
    | ensuring inner =>
      have inside := renewal inner
      simp only [callBudget, refreshBudget]
      omega
    | renewing symKey inner =>
      have inside := renewal inner
      simp only [callBudget, refreshBudget]
      omega
    | _ =>
      simp only [callBudget, refreshBudget]
      omega
  | _ =>
    simp only [callBudget]
    omega

section
variable {RsaPrivateKey : Type} (client : Client RsaPrivateKey) {ι : Type} [DecidableEq ι]

theorem turns_bounded (kind : Signal → Bool) (prices : Prices)
    (priced : ∀ signal, (kind signal).toNat ≤ prices.of signal) (initial last : System ι)
    (events : List (VaultClient.Event ι)) (id : ι)
    (ran : run (VaultClient.step client) initial events = some last) :
    events.countP (isTurn kind id) ≤
      13 * prices.proceed + 2 * prices.token + 2 * prices.login + 2 * prices.sync := by
  have paid := run_paid client prices initial last events id ran
  have count := count_turns kind prices id events priced
  have bound := call_budget_bound prices (initial.fetches id)
  omega

/-- A call is short. In any run, from any state, whatever the server answers and whatever
the other calls and the loops do meanwhile, one call of `fetch_secrets` takes at most
nineteen steps, and of the server's answers it takes at most two to a refresh grant,
two to a full login and two to a sync. -/
theorem call_bounded (initial last : System ι) (events : List (VaultClient.Event ι)) (id : ι)
    (ran : run (VaultClient.step client) initial events = some last) :
    events.countP (isTurn (fun _ => true) id) ≤ 19 ∧ events.countP (isTurn isToken id) ≤ 2 ∧
      events.countP (isTurn isLogin id) ≤ 2 ∧ events.countP (isTurn isSync id) ≤ 2 := by
  refine ⟨?_, ?_, ?_, ?_⟩
  · refine turns_bounded client _ ⟨1, 1, 1, 1⟩ (fun signal => ?_) initial last events id ran
    cases signal <;> simp [Prices.of]
  · refine turns_bounded client _ ⟨0, 1, 0, 0⟩ (fun signal => ?_) initial last events id ran
    cases signal <;> simp [isToken, Prices.of]
  · refine turns_bounded client _ ⟨0, 0, 1, 0⟩ (fun signal => ?_) initial last events id ran
    cases signal <;> simp [isLogin, Prices.of]
  · refine turns_bounded client _ ⟨0, 0, 0, 1⟩ (fun signal => ?_) initial last events id ran
    cases signal <;> simp [isSync, Prices.of]

end

/-- A system whose token has expired. -/
def expiredSystem : System Bool :=
  { sampleSystem Bool with session := { (sampleSystem Bool).session with tokenExpiresAt := 0 } }

/-- A call that finds nothing, whose token is about to expire, whose refresh grants fail
and whose first sync is unauthorized: nothing is spared it. -/
def longestCall : List (VaultClient.Event Bool) :=
  [.arrive false [⟨"db", none⟩], .fetch false .proceed, .fetch false .proceed,
    .fetch false .proceed, .fetch false .proceed, .fetch false .proceed,
    .fetch false (.token (.http "reset")), .fetch false (.login sampleLogin),
    .fetch false .proceed, .fetch false .proceed, .fetch false .proceed,
    .fetch false (.sync (.server 401 "")), .fetch false .proceed,
    .fetch false (.token (.http "reset")), .fetch false (.login sampleLogin),
    .fetch false .proceed, .fetch false .proceed,
    .fetch false (.sync (.body (sampleSync [sampleCipher]))), .fetch false .proceed,
    .fetch false .proceed]

/-- All four bounds are attained, in one run. -/
theorem longest_call_attains :
    (run (VaultClient.step sampleClient) expiredSystem longestCall).isSome = true ∧
      longestCall.countP (isTurn (fun _ => true) false) = 19 ∧
      longestCall.countP (isTurn isToken false) = 2 ∧
      longestCall.countP (isTurn isLogin false) = 2 ∧
      longestCall.countP (isTurn isSync false) = 2 := by
  decide +kernel

theorem call_bounded_sample :
    ∃ last, run (VaultClient.step sampleClient) expiredSystem longestCall = some last ∧
      longestCall.countP (isTurn (fun _ => true) false) ≤ 19 ∧
      longestCall.countP (isTurn isToken false) ≤ 2 ∧
      longestCall.countP (isTurn isLogin false) ≤ 2 ∧
      longestCall.countP (isTurn isSync false) ≤ 2 := by
  obtain ⟨last, reached⟩ := Option.isSome_iff_exists.mp longest_call_attains.1
  exact ⟨last, reached, call_bounded sampleClient expiredSystem last longestCall false reached⟩

/-! ## No deadlock -/

/-- What the server would answer, one answer for each kind of request. -/
structure ServerAnswers where
  token : Answer TokenResponse
  login : LoginAnswers
  sync : Answer SyncResponse

/-- What a task waits for. -/
def renewalAwaits (answers : ServerAnswers) : VaultClient.Renewal → Signal
  | .granting _ => .token answers.token
  | .authenticating => .login answers.login
  | _ => .proceed

def refreshAwaits (answers : ServerAnswers) : Refresh → Signal
  | .ensuring renewal => renewalAwaits answers renewal
  | .renewing _ renewal => renewalAwaits answers renewal
  | .syncing _ _ => .sync answers.sync
  | .resyncing _ _ => .sync answers.sync
  | _ => .proceed

def fetchAwaits (answers : ServerAnswers) : Fetch → Signal
  | .refreshing _ _ refresh => refreshAwaits answers refresh
  | _ => .proceed

/-- The call is over. -/
def Ended : Fetch → Prop
  | .returned _ _ => True
  | .crashed => True
  | _ => False

/-- The call has the lock, or is past it: it waits for no other call. -/
def Unblocked : Fetch → Prop
  | .checking _ _ => True
  | .refreshing _ _ _ => True
  | .retrying _ => True
  | _ => False

theorem inside_unblocked (fetch : Fetch) (inside : Inside fetch) : Unblocked fetch := by
  cases fetch with
  | checking | refreshing => trivial
  | _ => exact False.elim inside

theorem ended_outside (fetch : Fetch) (ended : Ended fetch) : ¬ Inside fetch := by
  cases fetch with
  | returned | crashed => exact id
  | _ => exact False.elim ended

section
variable {RsaPrivateKey : Type} (client : Client RsaPrivateKey)

/-- A renewal takes any answer of the server. -/
theorem renewal_ready (answers : ServerAnswers) (now : Nat) (session : Session)
    (renewal : VaultClient.Renewal) :
    ∃ result, renewalStep client now session renewal (renewalAwaits answers renewal) =
      some result := by
  cases renewal with
  | checking =>
    simp only [renewalAwaits, renewalStep]
    split_ifs <;> exact ⟨_, rfl⟩
  | granting refreshTok =>
    simp only [renewalAwaits, renewalStep]
    cases refreshToken refreshTok answers.token <;> exact ⟨_, rfl⟩
  | authenticating =>
    simp only [renewalAwaits, renewalStep]
    cases authenticate client.crypto client.unicode client.email client.password answers.login <;>
      exact ⟨_, rfl⟩
  | reading | granted | authenticated => exact ⟨_, rfl⟩

/-- So does a refresh. -/
theorem refresh_ready (answers : ServerAnswers) (now : Nat) (session : Session)
    (refresh : Refresh) :
    ∃ result, refreshStep client now session refresh (refreshAwaits answers refresh) =
      some result := by
  cases refresh with
  | ensuring renewal | renewing symKey renewal =>
    obtain ⟨result, taken⟩ := renewal_ready client answers now session renewal
    simp only [refreshAwaits, refreshStep, taken]
    exact ⟨_, rfl⟩
  | syncing accessToken symKey =>
    simp only [refreshAwaits, refreshStep]
    cases fetchSync answers.sync with
    | ok response => exact ⟨_, rfl⟩
    | error error => cases error <;> exact ⟨_, rfl⟩
  | resyncing accessToken symKey =>
    simp only [refreshAwaits, refreshStep]
    cases fetchSync answers.sync <;> exact ⟨_, rfl⟩
  | installing response symKey =>
    simp only [refreshAwaits, refreshStep]
    cases decryptVault client.crypto client.unicode response symKey <;> exact ⟨_, rfl⟩
  | readingToken | readingKey | rereadingToken => exact ⟨_, rfl⟩

section
variable {ι : Type} [DecidableEq ι]

/-- The lock is held by a call that is inside `refresh_if_due`, or not at all. -/
def Locked (system : System ι) : Prop :=
  ∀ id, system.refreshLock = some id → Inside (system.fetches id)

/-- A step that changes one call keeps the lock with its holder. -/
theorem locked_update (system next : System ι) (call : ι) (fetch : Fetch) (locked : Locked system)
    (fetches : next.fetches = (system.withFetch call fetch).fetches)
    (own : next.refreshLock = some call → Inside fetch)
    (others : ∀ other, other ≠ call → next.refreshLock = some other →
      system.refreshLock = some other) : Locked next := by
  intro id held
  rw [fetches]
  by_cases same : id = call
  · subst same
    rw [with_fetch_self]
    exact own held
  · rw [with_fetch_other system call id fetch same]
    exact locked id (others id same held)

theorem move_locked (system next : System ι) (event : VaultClient.Event ι)
    (locked : Locked system) (move : Move client system event next) : Locked next := by
  -- A call that is not inside before its step does not hold the lock.
  have free : ∀ call, ¬ Inside (system.fetches call) → system.refreshLock ≠ some call :=
    fun call outside held => outside (locked call held)
  cases move with
  | arrive call requests idle =>
    refine locked_update system _ call _ locked rfl ?_ (fun _ _ held => held)
    exact fun held => absurd held (free call (by rw [idle]; exact id))
  | look call requests looking =>
    refine locked_update system _ call _ locked rfl ?_ (fun _ _ held => held)
    exact fun held => absurd held (free call (by rw [looking]; exact id))
  | lock call requests miss queued unheld =>
    refine locked_update system _ call _ locked rfl (fun _ => trivial) ?_
    exact fun other distinct held => absurd (Option.some.inj held).symm distinct
  | skip call requests miss checking cooling =>
    exact locked_update system _ call _ locked rfl (fun held => by cases held)
      (fun _ _ held => by cases held)
  | start call requests miss checking due =>
    exact locked_update system _ call _ locked rfl (fun _ => trivial) (fun _ _ held => held)
  | onDemand call requests miss refresh signal session progress refreshing taken =>
    refine locked_update system _ call _ locked rfl ?_ ?_
    · intro held
      rcases progress with later | result
      · trivial
      · cases held
    · intro other distinct held
      rcases progress with later | result
      · exact absurd (Option.some.inj held).symm distinct
      · cases held
  | retry call requests retrying =>
    refine locked_update system _ call _ locked rfl ?_ (fun _ _ held => held)
    exact fun held => absurd held (free call (by rw [retrying]; exact id))
  | elapse | tick | stop | background | tokenLoop => exact locked

/-- A turn of one call, with the server's answer where it waits for one. -/
def turn (server : System ι → ServerAnswers) (system : System ι) (id : ι) :
    VaultClient.Event ι :=
  .fetch id (fetchAwaits (server system) (system.fetches id))

/-- A step of a call that has the lock, or is past it, ends in such a state or ends the
call; it keeps the others, and the lock, or gives it back. -/
structure Advanced (system next : System ι) (id : ι) : Prop where
  goesOn : Unblocked (next.fetches id) ∨ Ended (next.fetches id)
  others : ∀ other, other ≠ id → next.fetches other = system.fetches other
  lock : next.refreshLock = system.refreshLock ∨ next.refreshLock = none ∨
    next.refreshLock = some id

theorem advanced_update (system next : System ι) (id : ι) (fetch : Fetch)
    (fetches : next.fetches = (system.withFetch id fetch).fetches)
    (goesOn : Unblocked fetch ∨ Ended fetch)
    (lock : next.refreshLock = system.refreshLock ∨ next.refreshLock = none ∨
      next.refreshLock = some id) : Advanced system next id := by
  refine ⟨?_, ?_, lock⟩
  · rwa [fetches, with_fetch_self]
  · intro other distinct
    rw [fetches, with_fetch_other system id other fetch distinct]

omit [DecidableEq ι] in
theorem settled_ended (requests : List SecretRequest) (result : Call VaultError (List String)) :
    Ended (settled requests result) := by
  rcases result with (_ | _) | _ <;> trivial

/-- A call that has the lock, or is past it, can always take its turn. -/
theorem unblocked_turn (server : System ι → ServerAnswers) (system : System ι) (id : ι)
    (unblocked : Unblocked (system.fetches id)) :
    ∃ next, VaultClient.step client system (turn server system id) = some next ∧
      Advanced system next id := by
  simp only [turn, VaultClient.step, fetchStep]
  cases phase : system.fetches id with
  | checking requests miss =>
    simp only [fetchAwaits]
    split_ifs
    · exact ⟨_, rfl, advanced_update system _ id _ rfl (.inr trivial) (.inr (.inl rfl))⟩
    · exact ⟨_, rfl, advanced_update system _ id _ rfl (.inl trivial) (.inl rfl)⟩
  | refreshing requests miss refresh =>
    obtain ⟨⟨session, progress⟩, taken⟩ :=
      refresh_ready client (server system) system.now system.session refresh
    simp only [fetchAwaits, taken, Option.map_some]
    refine ⟨_, rfl, advanced_update system _ id _ rfl ?_ ?_⟩
    · rcases progress with later | (error | panic) | _
      · exact .inl trivial
      · exact .inr trivial
      · exact .inr trivial
      · exact .inl trivial
    · rcases progress with later | result
      · exact .inr (.inr rfl)
      · exact .inr (.inl rfl)
  | retrying requests =>
    exact ⟨_, rfl, advanced_update system _ id _ rfl (.inr (settled_ended requests _)) (.inl rfl)⟩
  | _ =>
    rw [phase] at unblocked
    exact False.elim unblocked

/-- Every step of a call costs one. -/
def unitPrices : Prices := ⟨1, 1, 1, 1⟩

omit [DecidableEq ι] in
theorem unit_price (signal : Signal) : unitPrices.of signal = 1 := by
  cases signal <;> rfl

theorem unit_budget (fetch : Fetch) : callBudget unitPrices fetch ≤ 19 := by
  have bound := call_budget_bound unitPrices fetch
  simpa [unitPrices] using bound

/-- Some turns that bring a call to its end, each the turn of one of the given calls. -/
structure Completed (server : System ι → ServerAnswers) (calls : ι → Prop) (id : ι)
    (system last : System ι) (events : List (VaultClient.Event ι)) : Prop where
  ran : run (VaultClient.step client) system events = some last
  turns : Meets (VaultClient.step client)
    (fun system event => ∃ call, calls call ∧ event = turn server system call) system events
  ended : Ended (last.fetches id)

/-- A call that has the lock, or is past it, ends by its own turns alone. When the lock is
its own or free, it is free at the end. -/
theorem unblocked_ends (server : System ι → ServerAnswers) (id : ι) (budget : Nat)
    (system : System ι) (sound : Sound system) (locked : Locked system)
    (unblocked : Unblocked (system.fetches id))
    (enough : callBudget unitPrices (system.fetches id) ≤ budget) :
    ∃ events last, Completed client server (· = id) id system last events ∧
      events.length ≤ budget ∧ Sound last ∧ Locked last ∧
      (∀ other, other ≠ id → last.fetches other = system.fetches other) ∧
      (system.refreshLock = none ∨ system.refreshLock = some id → last.refreshLock = none) := by
  induction budget generalizing system with
  | zero =>
    obtain ⟨next, taken, -⟩ := unblocked_turn client server system id unblocked
    have paid := move_paid client unitPrices system next _ (step_move client system next _ taken) id
    simp only [turn, turnPrice, if_true, unit_price] at paid
    omega
  | succ budget inductionHypothesis =>
    obtain ⟨next, taken, advanced⟩ := unblocked_turn client server system id unblocked
    have move := step_move client system next _ taken
    have paid := move_paid client unitPrices system next _ move id
    simp only [turn, turnPrice, if_true, unit_price] at paid
    have soundNext := move_sound client system next _ sound move
    have lockedNext := move_locked client system next _ locked move
    have ownLock : system.refreshLock = none ∨ system.refreshLock = some id →
        next.refreshLock = none ∨ next.refreshLock = some id := by
      intro own
      rcases advanced.lock with same | free | held
      · rwa [same]
      · exact .inl free
      · exact .inr held
    rcases advanced.goesOn with later | ended
    · obtain ⟨events, last, completed, short, soundLast, lockedLast, others, unlocked⟩ :=
        inductionHypothesis next soundNext lockedNext later (by omega)
      refine ⟨turn server system id :: events, last, ⟨?_, ?_, completed.ended⟩,
        Nat.succ_le_succ short, soundLast, lockedLast, ?_, fun own => unlocked (ownLock own)⟩
      · rw [run_next _ system next _ events taken]
        exact completed.ran
      · refine ⟨⟨id, rfl, rfl⟩, fun other takenToo => ?_⟩
        rw [taken] at takenToo
        cases takenToo
        exact completed.turns
      · intro other distinct
        rw [others other distinct, advanced.others other distinct]
    · refine ⟨[turn server system id], next, ⟨?_, ?_, ended⟩, by simp, soundNext, lockedNext,
        advanced.others, ?_⟩
      · rw [run_next _ system next _ [] taken]
        rfl
      · exact ⟨⟨id, rfl, rfl⟩, fun _ _ => trivial⟩
      · intro own
        rcases ownLock own with free | held
        · exact free
        · exact absurd (lockedNext id held) (ended_outside _ ended)

/-- A completion goes on from where a run of turns has led. -/
theorem completed_after (server : System ι → ServerAnswers) (first second calls : ι → Prop)
    (id : ι) (system middle last : System ι) (before after : List (VaultClient.Event ι))
    (ran : run (VaultClient.step client) system before = some middle)
    (turns : Meets (VaultClient.step client)
      (fun system event => ∃ call, first call ∧ event = turn server system call) system before)
    (completed : Completed client server second id middle last after)
    (firstCalls : ∀ call, first call → calls call)
    (secondCalls : ∀ call, second call → calls call) :
    Completed client server calls id system last (before ++ after) := by
  refine ⟨?_, ?_, completed.ended⟩
  · rw [run_append _ system middle before after ran]
    exact completed.ran
  · refine meets_append _ _ system middle before after ran ?_ ?_
    · refine meets_mono _ _ _ ?_ system before turns
      rintro state event ⟨call, member, same⟩
      exact ⟨call, firstCalls call member, same⟩
    · refine meets_mono _ _ _ ?_ middle after completed.turns
      rintro state event ⟨call, member, same⟩
      exact ⟨call, secondCalls call member, same⟩

/-- A call that waits for a free lock takes it and ends. -/
theorem queued_ends (server : System ι → ServerAnswers) (id : ι) (system : System ι)
    (requests : List SecretRequest) (miss : LookupError) (sound : Sound system)
    (locked : Locked system) (queued : system.fetches id = .queued requests miss)
    (free : system.refreshLock = none) :
    ∃ events last, Completed client server (· = id) id system last events ∧
      events.length ≤ 20 := by
  let next : System ι := { system.withFetch id (.checking requests miss) with refreshLock := some id }
  have taken : VaultClient.step client system (turn server system id) = some next := by
    simp only [turn, VaultClient.step, fetchStep, queued, fetchAwaits, free, if_true]
    rfl
  have move := step_move client system next _ taken
  have phase : next.fetches id = .checking requests miss := with_fetch_self system id _
  obtain ⟨events, last, completed, short, -⟩ := unblocked_ends client server id 19 next
    (move_sound client system next _ sound move) (move_locked client system next _ locked move)
    (by rw [phase]; trivial) (unit_budget _)
  refine ⟨[turn server system id] ++ events, last, ?_, Nat.succ_le_succ short⟩
  refine completed_after client server (· = id) (· = id) (· = id) id system next last _ events ?_ ?_
    completed (fun _ own => own) (fun _ own => own)
  · rw [run_next _ system next _ [] taken]
    rfl
  · exact ⟨⟨id, rfl, rfl⟩, fun _ _ => trivial⟩

/-- A call that waits for the lock ends after the call that holds it. -/
theorem waiting_ends (server : System ι → ServerAnswers) (id : ι) (system : System ι)
    (requests : List SecretRequest) (miss : LookupError) (sound : Sound system)
    (locked : Locked system) (queued : system.fetches id = .queued requests miss) :
    ∃ events last, Completed client server
        (fun call => call = id ∨ system.refreshLock = some call) id system last events ∧
      events.length ≤ 39 := by
  cases lock : system.refreshLock with
  | none =>
    obtain ⟨events, last, completed, short⟩ :=
      queued_ends client server id system requests miss sound locked queued lock
    refine ⟨events, last, ?_, by omega⟩
    exact completed_after client server (· = id) (· = id) _ id system system last [] events rfl
      trivial completed (fun _ => .inl) (fun _ => .inl)
  | some holder =>
    have inside := locked holder lock
    have distinct : id ≠ holder := by
      rintro rfl
      rw [queued] at inside
      exact inside
    obtain ⟨before, middle, held, short, soundMiddle, lockedMiddle, others, unlocked⟩ :=
      unblocked_ends client server holder 19 system sound locked (inside_unblocked _ inside)
        (unit_budget _)
    obtain ⟨after, last, completed, shortAfter⟩ := queued_ends client server id middle requests miss
      soundMiddle lockedMiddle (by rw [others id distinct, queued]) (unlocked (.inr lock))
    refine ⟨before ++ after, last, ?_, by simp only [List.length_append]; omega⟩
    exact completed_after client server (· = holder) (· = id) _ id system middle last before after
      held.ran held.turns completed (fun call same => .inr (by rw [same]))
      (fun _ => .inl)

omit [DecidableEq ι] in
/-- A call that has been made is over, goes on by itself, waits for the lock, or is about to
look up. -/
theorem call_phases (fetch : Fetch) (made : fetch ≠ .idle) :
    Ended fetch ∨ Unblocked fetch ∨ (∃ requests miss, fetch = .queued requests miss) ∨
      ∃ requests, fetch = .looking requests := by
  cases fetch with
  | idle => exact absurd rfl made
  | looking requests => exact .inr (.inr (.inr ⟨requests, rfl⟩))
  | queued requests miss => exact .inr (.inr (.inl ⟨requests, miss, rfl⟩))
  | checking | refreshing | retrying => exact .inr (.inl trivial)
  | returned | crashed => exact .inl trivial

/-- From any orderly state a call that has been made can be brought to its end. -/
theorem call_ends (server : System ι → ServerAnswers) (id : ι) (system : System ι)
    (sound : Sound system) (locked : Locked system) (made : system.fetches id ≠ .idle) :
    ∃ events last, Completed client server
        (fun call => call = id ∨ system.refreshLock = some call) id system last events ∧
      events.length ≤ 40 := by
  rcases call_phases _ made with ended | unblocked | ⟨requests, miss, queued⟩ | ⟨requests, looking⟩
  · exact ⟨[], system, ⟨rfl, trivial, ended⟩, Nat.zero_le _⟩
  · obtain ⟨events, last, completed, short, -⟩ :=
      unblocked_ends client server id 19 system sound locked unblocked (unit_budget _)
    refine ⟨events, last, ?_, by omega⟩
    exact completed_after client server (· = id) (· = id) _ id system system last [] events rfl
      trivial completed (fun _ => .inl) (fun _ => .inl)
  · obtain ⟨events, last, completed, short⟩ :=
      waiting_ends client server id system requests miss sound locked queued
    exact ⟨events, last, completed, by omega⟩
  · -- The first lookup settles the call, or sends it to the lock.
    let fetch := afterFirstLookup requests (tryFetchSecrets client system.session.vault requests)
    let next : System ι := system.withFetch id fetch
    have taken : VaultClient.step client system (turn server system id) = some next := by
      simp only [turn, VaultClient.step, fetchStep, looking, fetchAwaits]
      rfl
    have ran : run (VaultClient.step client) system [turn server system id] = some next := by
      rw [run_next _ system next _ [] taken]
      rfl
    have own : Meets (VaultClient.step client)
        (fun system event => ∃ call, call = id ∧ event = turn server system call) system
        [turn server system id] := ⟨⟨id, rfl, rfl⟩, fun _ _ => trivial⟩
    have move := step_move client system next _ taken
    have phase : next.fetches id = fetch := with_fetch_self system id fetch
    rcases OneSnapshot.first_lookup_cases requests
      (tryFetchSecrets client system.session.vault requests) with ⟨miss, queued⟩ | settles
    · obtain ⟨events, last, completed, short⟩ :=
        waiting_ends client server id next requests miss
          (move_sound client system next _ sound move) (move_locked client system next _ locked move)
          (by rw [phase]; exact queued)
      refine ⟨[turn server system id] ++ events, last, ?_, by
        simp only [List.length_append, List.length_singleton]; omega⟩
      exact completed_after client server (· = id) _ _ id system next last _ events ran own completed
        (fun _ => .inl) (fun _ member => member)
    · refine ⟨[turn server system id], next, ⟨ran, ?_, ?_⟩, by simp⟩
      · refine meets_mono _ _ _ ?_ system _ own
        rintro state event ⟨call, same, isTurn⟩
        exact ⟨call, .inl same, isTurn⟩
      · have same : fetch = settled requests _ := settles
        rw [phase, same]
        exact settled_ended requests _

/-- No call blocks for good. Take any run of any number of calls and of both loops over a
client, up to any state. There the refresh lock is held exactly by the call that is inside
`refresh_if_due`. And every call that has been made can be brought to its end from there,
in at most forty steps of its own and of the call that holds the lock, whatever the
server answers to each of their requests, and without a step of any other task. -/
theorem calls_never_block (initial middle : System ι) (before : List (VaultClient.Event ι))
    (server : System ι → ServerAnswers) (isInitial : Initial initial)
    (ran : run (VaultClient.step client) initial before = some middle) :
    (∀ id, middle.refreshLock = some id ↔ Inside (middle.fetches id)) ∧
      ∀ id, middle.fetches id ≠ .idle → ∃ events last,
        Completed client server (fun call => call = id ∨ middle.refreshLock = some call) id middle
          last events ∧ events.length ≤ 40 := by
  have kept : Sound middle ∧ Locked middle := by
    refine run_invariant (VaultClient.step client) (fun system => Sound system ∧ Locked system) ?_
      initial middle before ⟨initial_sound initial isInitial, ?_⟩ ran
    · rintro system event next ⟨sound, locked⟩ taken
      have move := step_move client system next event taken
      exact ⟨move_sound client system next event sound move,
        move_locked client system next event locked move⟩
    · intro id held
      rw [isInitial.unlocked] at held
      cases held
  exact ⟨fun id => ⟨kept.2 id, kept.1.exclusive id⟩,
    fun id made => call_ends client server id middle kept.1 kept.2 made⟩

end

end

/-- A server that refuses everything. -/
def refusingServer (_system : System Bool) : ServerAnswers where
  token := .http "reset"
  login := ⟨.http "reset", .http "reset", .http "reset"⟩
  sync := .http "reset"

/-- A call that has asked for a sync. -/
theorem calls_never_block_sample :
    ∃ middle, run (VaultClient.step sampleClient) (sampleSystem Bool) (missedLookup false) =
        some middle ∧ middle.fetches false ≠ .idle ∧
      ((∀ id, middle.refreshLock = some id ↔ Inside (middle.fetches id)) ∧
        ∀ id, middle.fetches id ≠ .idle → ∃ events last,
          Completed sampleClient refusingServer
            (fun call => call = id ∨ middle.refreshLock = some call) id middle last events ∧
          events.length ≤ 40) := by
  have ran : (run (VaultClient.step sampleClient) (sampleSystem Bool) (missedLookup false)).map
      (fun middle => decide (Inside (middle.fetches false))) = some true := by
    decide +kernel
  obtain ⟨middle, reached, inside⟩ := Option.map_eq_some_iff.mp ran
  refine ⟨middle, reached, ?_, calls_never_block sampleClient (sampleSystem Bool) middle
    (missedLookup false) refusingServer (sample_initial Bool) reached⟩
  intro idle
  rw [idle] at inside
  cases inside

end VaultwardenOperator.CallProgress
