import VaultwardenOperator.CallProgress
import VaultwardenOperator.LeaderExclusion

/-!
# The start of a leader

A replica that has just acquired the lease creates its vault client in up to three
attempts, each a login and a first refresh, with a growing pause before the second and
the third. Nothing renews the lease meanwhile.

The attempts share one budget of requests, so a start that is answered ends. The model
of leader election knows of a start only when an attempt fails, when a pause is over
and when a client has been created; every start is such a sequence.
-/

namespace VaultwardenOperator.Startup

open Rust Crypto Sync Auth Machine VaultClient ClientSteps CallProgress
open OneSnapshot (CreationSound creation_elapse creation_step_sound)
open Leader (maxRetries backoff leaseTtl Replica ReplicaEvent)

/-- Where `initialize_vault_client` is: inside `VaultClient::new`, in the pause before an
attempt, at its end, or past its loop, which its author marks as unreachable. -/
inductive Initialization where
  | attempting (attempt : Nat) (creation : Creation)
  | backingOff (wake attempt : Nat)
  | returned (result : Except VaultError Session)
  | crashed
  | pastLoop

inductive InitializationEvent where
  | elapse (duration : Nat)
  | signal (signal : Signal)
  | wake

/-- The loop after a step of `VaultClient::new`. -/
def afterCreation (now attempt : Nat) : Creation → Initialization
  | .returned (.ok session) => .returned (.ok session)
  | .returned (.error error) =>
    if attempt = maxRetries then .returned (.error error)
    else if attempt + 1 ≤ maxRetries then
      .backingOff (now + backoff (attempt + 1)) (attempt + 1)
    else .pastLoop
  | .crashed => .crashed
  | .authenticating => .attempting attempt .authenticating
  | .authenticated login => .attempting attempt (.authenticated login)
  | .syncing session refresh => .attempting attempt (.syncing session refresh)

/-- `initialize_vault_client` in time. -/
def initializeVaultClient {RsaPrivateKey : Type} (client : Client RsaPrivateKey) :
    Step (Nat × Initialization) InitializationEvent := fun (now, startup) event =>
  match event with
  | .elapse duration => some (now + duration, startup)
  | .signal signal =>
    match startup with
    | .attempting attempt creation =>
      (creationStep client now creation signal).map (fun next =>
        (now, afterCreation now attempt next))
    | _ => none
  | .wake =>
    match startup with
    | .backingOff wake attempt =>
      if wake ≤ now then some (now, .attempting attempt .authenticating) else none
    | _ => none

/-- The first iteration of the loop, which does not pause. -/
def begin : Initialization := .attempting 1 .authenticating

/-- Every step of a startup. -/
inductive InitializationMove {RsaPrivateKey : Type} (client : Client RsaPrivateKey) (now : Nat) :
    Initialization → InitializationEvent → Nat → Initialization → Prop where
  | elapse (startup : Initialization) (duration : Nat) :
      InitializationMove client now startup (.elapse duration) (now + duration) startup
  | create (attempt : Nat) (creation next : Creation) (signal : Signal)
      (taken : creationStep client now creation signal = some next) :
      InitializationMove client now (.attempting attempt creation) (.signal signal) now
        (afterCreation now attempt next)
  | wake (wake attempt : Nat) (elapsed : wake ≤ now) :
      InitializationMove client now (.backingOff wake attempt) .wake now
        (.attempting attempt .authenticating)

section
variable {RsaPrivateKey : Type} (client : Client RsaPrivateKey)

theorem initialization_move (now after : Nat) (startup next : Initialization) (event : InitializationEvent)
    (taken : initializeVaultClient client (now, startup) event = some (after, next)) :
    InitializationMove client now startup event after next := by
  cases event with
  | elapse duration =>
    cases taken
    exact .elapse startup duration
  | signal signal =>
    cases startup with
    | attempting attempt creation =>
      obtain ⟨reached, inside, same⟩ := Option.map_eq_some_iff.mp taken
      cases same
      exact .create attempt creation reached signal inside
    | backingOff | returned | crashed | pastLoop => cases taken
  | wake =>
    cases startup with
    | backingOff wake attempt =>
      simp only [initializeVaultClient] at taken
      split_ifs at taken with elapsed
      cases taken
      exact .wake wake attempt elapsed
    | attempting | returned | crashed | pastLoop => cases taken

end

/-! ## Times -/

/-- The pauses before an attempt, together. -/
def waited : Nat → Nat
  | 0 => 0
  | 1 => 0
  | attempt + 2 => waited (attempt + 1) + backoff (attempt + 2)

/-- The creation has a step to take. -/
def Ongoing : Creation → Prop
  | .returned _ => False
  | .crashed => False
  | _ => True

/-- The attempts are numbered from one, each begins after the pauses before it, and a
client that is returned has a cache, refreshed in the past. -/
def InitializationSound (start : Nat) : Nat × Initialization → Prop
  | (now, .attempting attempt creation) =>
    (1 ≤ attempt ∧ attempt ≤ maxRetries) ∧ start + waited attempt ≤ now ∧
      Ongoing creation ∧ CreationSound (now, creation)
  | (_, .backingOff wake attempt) =>
    (1 ≤ attempt ∧ attempt ≤ maxRetries) ∧ start + waited attempt ≤ wake
  | (now, .returned (.ok session)) => CreationSound (now, .returned (.ok session))
  | (now, .returned (.error _)) => start + waited maxRetries ≤ now
  | (_, .crashed) => True
  | (_, .pastLoop) => False

/-- The pause before a further attempt adds to the pauses. -/
theorem waited_next (attempt : Nat) (begun : 1 ≤ attempt) :
    waited (attempt + 1) = waited attempt + backoff (attempt + 1) := by
  obtain ⟨earlier, rfl⟩ := Nat.exists_eq_add_of_le' begun
  rfl

/-- An attempt goes on, ends the startup, or is followed by another one while there is
one left. -/
theorem after_creation_sound (start now attempt : Nat) (creation : Creation)
    (counted : 1 ≤ attempt ∧ attempt ≤ maxRetries) (past : start + waited attempt ≤ now)
    (sound : CreationSound (now, creation)) :
    InitializationSound start (now, afterCreation now attempt creation) := by
  cases creation with
  | authenticating | authenticated | syncing => exact ⟨counted, past, trivial, sound⟩
  | crashed => trivial
  | returned result =>
    cases result with
    | ok session => exact sound
    | error error =>
      simp only [afterCreation]
      by_cases last : attempt = maxRetries
      · rw [if_pos last]
        subst last
        exact past
      · have another : attempt + 1 ≤ maxRetries := by omega
        rw [if_neg last, if_pos another]
        refine ⟨⟨Nat.le_add_left 1 attempt, another⟩, ?_⟩
        rw [waited_next attempt counted.1]
        omega

section
variable {RsaPrivateKey : Type} (client : Client RsaPrivateKey)

theorem initialization_sound (start : Nat) (before after : Nat × Initialization)
    (event : InitializationEvent) (sound : InitializationSound start before)
    (taken : initializeVaultClient client before event = some after) :
    InitializationSound start after := by
  obtain ⟨now, startup⟩ := before
  obtain ⟨later, next⟩ := after
  cases initialization_move client now later startup next event taken with
  | elapse startup duration =>
    cases startup with
    | attempting attempt creation =>
      obtain ⟨counted, past, ongoing, sound⟩ := sound
      exact ⟨counted, Nat.le_add_right_of_le past, ongoing,
        creation_elapse now duration creation sound⟩
    | returned result =>
      cases result with
      | ok session => exact creation_elapse now duration (.returned (.ok session)) sound
      | error error =>
        have past : start + waited maxRetries ≤ now := sound
        exact Nat.le_add_right_of_le past
    | backingOff | crashed | pastLoop => exact sound
  | create attempt creation next signal inside =>
    obtain ⟨counted, past, -, sound⟩ := sound
    exact after_creation_sound start now attempt next counted past
      (creation_step_sound client now creation next signal sound inside)
  | wake wake attempt elapsed =>
    obtain ⟨counted, past⟩ := sound
    exact ⟨counted, Nat.le_trans past elapsed, trivial, trivial⟩

theorem run_sound (start : Nat) (events : List InitializationEvent)
    (last : Nat × Initialization)
    (ran : run (initializeVaultClient client) (start, begin) events = some last) :
    InitializationSound start last := by
  refine run_invariant (initializeVaultClient client) (InitializationSound start) ?_ (start, begin)
    last events ⟨⟨le_refl 1, by decide⟩, le_refl start, trivial, trivial⟩ ran
  intro before event after sound taken
  exact initialization_sound client start before after event sound taken

/-! ## Requests -/

/-- The most that a creation can still cost. -/
def creationBudget (prices : Prices) : Creation → Nat
  | .authenticating =>
    prices.login + prices.proceed + refreshBudget prices (.ensuring .checking)
  | .authenticated _ => prices.proceed + refreshBudget prices (.ensuring .checking)
  | .syncing _ refresh => refreshBudget prices refresh
  | .returned _ => 0
  | .crashed => 0

/-- The most that a startup can still cost: what is left of its attempt, and all of the
attempts after it. -/
def initializationBudget (prices : Prices) : Initialization → Nat
  | .attempting attempt creation =>
    creationBudget prices creation +
      (maxRetries - attempt) * creationBudget prices .authenticating
  | .backingOff _ attempt =>
    creationBudget prices .authenticating +
      (maxRetries - attempt) * creationBudget prices .authenticating
  | .returned _ => 0
  | .crashed => 0
  | .pastLoop => 0

def eventPrice (prices : Prices) : InitializationEvent → Nat
  | .signal signal => prices.of signal
  | _ => 0

/-- A step of a creation is paid from its budget. -/
theorem creation_paid (prices : Prices) (now : Nat) (creation next : Creation) (signal : Signal)
    (taken : creationStep client now creation signal = some next) :
    creationBudget prices next + prices.of signal ≤ creationBudget prices creation := by
  unfold creationStep at taken
  split at taken
  case h_1 answers =>
    split at taken <;> cases taken <;> simp only [creationBudget, Prices.of] <;> omega
  case h_2 login =>
    split at taken <;> cases taken <;> simp only [creationBudget, Prices.of] <;> omega
  case h_3 session refresh =>
    obtain ⟨⟨reached, progress⟩, inside, same⟩ := Option.map_eq_some_iff.mp taken
    subst same
    have paid := refresh_paid client prices now session reached refresh _ progress inside
    have left : creationBudget prices (afterFirstRefresh reached progress) ≤
        refreshLeft prices progress := by
      rcases progress with later | (error | panic) | _
      · exact le_refl _
      · exact Nat.zero_le _
      · exact Nat.zero_le _
      · exact Nat.zero_le _
    change creationBudget prices (afterFirstRefresh reached progress) + _ ≤
      refreshBudget prices refresh
    omega
  case h_4 => cases taken

/-- An attempt leaves what it has not used and the attempts after it. -/
theorem after_creation_budget (prices : Prices) (now attempt : Nat) (creation : Creation) :
    initializationBudget prices (afterCreation now attempt creation) ≤
      creationBudget prices creation +
        (maxRetries - attempt) * creationBudget prices .authenticating := by
  cases creation with
  | authenticating | authenticated | syncing => exact le_refl _
  | crashed => exact Nat.zero_le _
  | returned result =>
    cases result with
    | ok session => exact Nat.zero_le _
    | error error =>
      simp only [afterCreation]
      split_ifs with last another
      · exact Nat.zero_le _
      · have shifted : maxRetries - attempt = 1 + (maxRetries - (attempt + 1)) := by omega
        rw [shifted, Nat.add_mul, Nat.one_mul]
        exact Nat.le_add_left _ _
      · exact Nat.zero_le _

/-- A step of a startup is paid from its budget. -/
theorem initialization_paid (prices : Prices) (before after : Nat × Initialization)
    (event : InitializationEvent) (taken : initializeVaultClient client before event = some after) :
    initializationBudget prices after.2 + eventPrice prices event ≤
      initializationBudget prices before.2 := by
  obtain ⟨now, startup⟩ := before
  obtain ⟨later, next⟩ := after
  cases initialization_move client now later startup next event taken with
  | elapse startup duration => exact le_refl _
  | create attempt creation next signal inside =>
    have paid := creation_paid client prices now creation next signal inside
    have left := after_creation_budget prices now attempt next
    simp only [initializationBudget, eventPrice] at left ⊢
    omega
  | wake wake attempt elapsed => exact le_refl _

/-- An event that is a signal of the given kind. -/
def isSignal (kind : Signal → Bool) : InitializationEvent → Bool
  | .signal signal => kind signal
  | _ => false

/-- A count of signals is what they cost at prices of one or nothing. -/
theorem count_signals (kind : Signal → Bool) (prices : Prices)
    (events : List InitializationEvent)
    (priced : ∀ signal, (kind signal).toNat ≤ prices.of signal) :
    events.countP (isSignal kind) ≤ (events.map (eventPrice prices)).sum := by
  induction events with
  | nil => simp
  | cons event rest inductionHypothesis =>
    have one : (isSignal kind event).toNat ≤ eventPrice prices event := by
      cases event with
      | signal signal => exact priced signal
      | elapse | wake => exact Nat.zero_le _
    rw [List.countP_cons, List.map_cons, List.sum_cons]
    cases counted : isSignal kind event <;> simp [counted] at one ⊢ <;> omega

theorem signals_bounded (kind : Signal → Bool) (prices : Prices)
    (priced : ∀ signal, (kind signal).toNat ≤ prices.of signal) (start : Nat)
    (events : List InitializationEvent) (last : Nat × Initialization)
    (ran : run (initializeVaultClient client) (start, begin) events = some last) :
    events.countP (isSignal kind) ≤ 3 * creationBudget prices .authenticating := by
  have paid := run_budget (initializeVaultClient client)
    (fun state => initializationBudget prices state.2) (eventPrice prices)
    (fun before event after taken => initialization_paid client prices before after event taken)
    (start, begin) last events ran
  have count := count_signals kind prices events priced
  have whole : initializationBudget prices begin =
      creationBudget prices .authenticating + 2 * creationBudget prices .authenticating := rfl
  simp only [whole] at paid
  omega

/-! ## The end of a startup -/

/-- The startup is over. -/
def Finished : Initialization → Prop
  | .returned _ => True
  | .crashed => True
  | _ => False

/-- What a creation waits for. -/
def creationAwaits (answers : ServerAnswers) : Creation → Signal
  | .authenticating => .login answers.login
  | .syncing _ refresh => refreshAwaits answers refresh
  | _ => .proceed

/-- The event is the passing of time, the end of a pause, or what the server answers to the
request of the attempt. -/
def Answered (server : Nat × Initialization → ServerAnswers) (state : Nat × Initialization) :
    InitializationEvent → Prop
  | .signal signal => ∃ attempt creation, state.2 = .attempting attempt creation ∧
      signal = creationAwaits (server state) creation
  | _ => True

/-- A creation takes any answer of the server. -/
theorem creation_ready (answers : ServerAnswers) (now : Nat) (creation : Creation)
    (ongoing : Ongoing creation) :
    ∃ next, creationStep client now creation (creationAwaits answers creation) = some next := by
  cases creation with
  | authenticating =>
    simp only [creationAwaits, creationStep]
    split <;> exact ⟨_, rfl⟩
  | authenticated login =>
    simp only [creationAwaits, creationStep]
    split <;> exact ⟨_, rfl⟩
  | syncing session refresh =>
    obtain ⟨result, taken⟩ := refresh_ready client answers now session refresh
    simp only [creationAwaits, creationStep, taken]
    exact ⟨_, rfl⟩
  | returned | crashed => exact False.elim ongoing

/-- The steps that are left, with one more for a pause. -/
def rank : Nat × Initialization → Nat
  | (_, .backingOff wake attempt) =>
    2 * initializationBudget unitPrices (.backingOff wake attempt) + 1
  | (_, startup) => 2 * initializationBudget unitPrices startup

theorem rank_bound (now : Nat) (startup : Initialization) :
    rank (now, startup) ≤ 2 * initializationBudget unitPrices startup + 1 := by
  cases startup with
  | backingOff wake attempt => exact le_refl _
  | attempting | returned | crashed | pastLoop => exact Nat.le_succ _

/-- A startup that is not over goes on by one answer, or by the end of its pause. -/
theorem startup_progresses (server : Nat × Initialization → ServerAnswers) (start : Nat)
    (state : Nat × Initialization) (sound : InitializationSound start state)
    (unfinished : ¬ Finished state.2) :
    ∃ events next, run (initializeVaultClient client) state events = some next ∧
      Meets (initializeVaultClient client) (Answered server) state events ∧
      InitializationSound start next ∧ rank next < rank state := by
  obtain ⟨now, startup⟩ := state
  cases startup with
  | attempting attempt creation =>
    have ongoing : Ongoing creation := sound.2.2.1
    let state : Nat × Initialization := (now, .attempting attempt creation)
    let event : InitializationEvent := .signal (creationAwaits (server state) creation)
    obtain ⟨reached, inside⟩ := creation_ready client (server state) now creation ongoing
    have taken : initializeVaultClient client state event =
        some (now, afterCreation now attempt reached) := by
      simp only [initializeVaultClient, state, event, inside]
      rfl
    have paid := initialization_paid client unitPrices _ _ _ taken
    have bound := rank_bound now (afterCreation now attempt reached)
    refine ⟨[event], (now, afterCreation now attempt reached), ?_, ?_, ?_, ?_⟩
    · rw [run_next _ _ _ _ [] taken]
      rfl
    · exact ⟨⟨attempt, creation, rfl, rfl⟩, fun _ _ => trivial⟩
    · exact initialization_sound client start _ _ _ sound taken
    · simp only [eventPrice, unit_price, event] at paid
      change _ < 2 * initializationBudget unitPrices (.attempting attempt creation)
      change _ ≤ initializationBudget unitPrices (.attempting attempt creation) at paid
      omega
  | backingOff wake attempt =>
    have slept : initializeVaultClient client (now, .backingOff wake attempt)
        (.elapse (wake - now)) = some (now + (wake - now), .backingOff wake attempt) := rfl
    have woken : initializeVaultClient client (now + (wake - now), .backingOff wake attempt) .wake =
        some (now + (wake - now), .attempting attempt .authenticating) := by
      simp only [initializeVaultClient]
      rw [if_pos (by omega)]
    have soundSlept := initialization_sound client start _ _ _ sound slept
    refine ⟨[.elapse (wake - now), .wake], _, ?_, ?_,
      initialization_sound client start _ _ _ soundSlept woken, ?_⟩
    · rw [run_next _ _ _ _ _ slept, run_next _ _ _ _ _ woken]
      rfl
    · exact ⟨trivial, fun _ _ => ⟨trivial, fun _ _ => trivial⟩⟩
    · exact Nat.lt_succ_self _
  | returned | crashed => exact absurd trivial unfinished
  | pastLoop => exact False.elim sound

/-- Where a startup that began at a time has got to. -/
structure Accounted (ι : Type) (start now : Nat) (startup : Initialization) : Prop where
  counted : ∀ attempt creation, startup = .attempting attempt creation →
    attempt ≤ maxRetries ∧ start + waited attempt ≤ now
  inside : startup ≠ .pastLoop
  outlasted : ∀ attempt creation, startup = .attempting attempt creation → 1 < attempt →
    start + leaseTtl < now
  failed : ∀ error, startup = .returned (.error error) → start + 65 * secondNs ≤ now
  created : ∀ session, startup = .returned (.ok session) →
    Initial (System.around ι now session)

omit client in
theorem sound_accounted (ι : Type) (start now : Nat) (startup : Initialization)
    (sound : InitializationSound start (now, startup)) : Accounted ι start now startup where
  counted attempt creation same := by
    subst same
    exact ⟨sound.1.2, sound.2.1⟩
  inside same := by
    subst same
    exact sound
  outlasted attempt creation same later := by
    subst same
    obtain ⟨earlier, rfl⟩ := Nat.exists_eq_add_of_lt later
    have past : start + (waited (earlier + 1) + backoff (earlier + 2)) ≤ now := by
      have past := sound.2.1
      rwa [Nat.add_comm 1 earlier] at past
    have pause : leaseTtl < backoff (earlier + 2) := by
      have two : 2 ≤ earlier + 2 := Nat.le_add_left 2 earlier
      have long : 4 ≤ (earlier + 2) * (earlier + 2) := Nat.mul_le_mul two two
      simp only [leaseTtl, backoff, secondNs]
      omega
    omega
  failed error same := by
    subst same
    exact sound
  created session same := by
    subst same
    exact ⟨sound.1, sound.2, rfl, fun _ => rfl, rfl, rfl⟩

/-- A startup ends, within its means. In any run of `initialize_vault_client`, whatever the
server answers and however long it takes: the loop is never left by its end; an attempt
begins only after the pauses before it, which outlast the lease from the second attempt on;
an error is returned only after both pauses, sixty-five seconds; a client that is returned
has a cache. Three attempts take at most nine logins, six refresh grants and six syncs. And
from every state that is reached, answers lead to the end. -/
theorem startup_ends (ι : Type) (start now : Nat) (startup : Initialization)
    (events : List InitializationEvent) (server : Nat × Initialization → ServerAnswers)
    (ran : run (initializeVaultClient client) (start, begin) events = some (now, startup)) :
    Accounted ι start now startup ∧
      (events.countP (isSignal isLogin) ≤ 9 ∧ events.countP (isSignal isToken) ≤ 6 ∧
        events.countP (isSignal isSync) ≤ 6) ∧
      ∃ more last, run (initializeVaultClient client) (now, startup) more = some last ∧
        Meets (initializeVaultClient client) (Answered server) (now, startup) more ∧
        Finished last.2 := by
  have sound := run_sound client start events (now, startup) ran
  refine ⟨sound_accounted ι start now startup sound, ⟨?_, ?_, ?_⟩, ?_⟩
  · refine signals_bounded client isLogin ⟨0, 0, 1, 0⟩ (fun signal => ?_) start events _ ran
    cases signal <;> simp [isLogin, Prices.of]
  · refine signals_bounded client isToken ⟨0, 1, 0, 0⟩ (fun signal => ?_) start events _ ran
    cases signal <;> simp [isToken, Prices.of]
  · refine signals_bounded client isSync ⟨0, 0, 0, 1⟩ (fun signal => ?_) start events _ ran
    cases signal <;> simp [isSync, Prices.of]
  · exact run_variant (initializeVaultClient client) (Answered server) (InitializationSound start)
      (fun state => Finished state.2) rank
      (fun state sound unfinished => startup_progresses client server start state sound unfinished)
      (now, startup) sound

end

/-- Two attempts whose login is not answered, and a third that creates a client. -/
def thirdAttempt : List InitializationEvent :=
  [.signal (.login ⟨.http "reset", .http "reset", .http "reset"⟩), .elapse (20 * secondNs), .wake,
    .signal (.login ⟨.http "reset", .http "reset", .http "reset"⟩), .elapse (45 * secondNs), .wake,
    .signal (.login sampleLogin), .signal .proceed, .signal .proceed, .signal .proceed,
    .signal .proceed, .signal (.sync (.body (sampleSync [sampleCipher]))), .signal .proceed]

/-- The session and the time of a startup that has returned a client. -/
def startedSession : Nat × Initialization → Option (Nat × Session)
  | (now, .returned (.ok session)) => some (now, session)
  | _ => none

theorem started_session (state : Nat × Initialization) (now : Nat) (session : Session)
    (started : startedSession state = some (now, session)) :
    state = (now, .returned (.ok session)) := by
  unfold startedSession at started
  split at started
  · cases started
    rfl
  · cases started

theorem third_attempt_starts :
    ∃ session, run (initializeVaultClient sampleClient) (0, begin) thirdAttempt =
      some (65 * secondNs, .returned (.ok session)) := by
  have ran : ((run (initializeVaultClient sampleClient) (0, begin) thirdAttempt).bind
      startedSession).map Prod.fst = some (65 * secondNs) := by
    decide +kernel
  obtain ⟨⟨now, session⟩, started, time⟩ := Option.map_eq_some_iff.mp ran
  obtain ⟨state, reached, isSession⟩ := Option.bind_eq_some_iff.mp started
  rw [started_session state now session isSession] at reached
  exact ⟨session, by rw [reached, ← time]⟩

theorem startup_ends_sample :
    ∃ session, run (initializeVaultClient sampleClient) (0, begin) thirdAttempt =
        some (65 * secondNs, .returned (.ok session)) ∧
      Accounted Bool 0 (65 * secondNs) (.returned (.ok session)) := by
  obtain ⟨session, ran⟩ := third_attempt_starts
  let server (_state : Nat × Initialization) : ServerAnswers :=
    ⟨.http "reset", sampleLogin, .http "reset"⟩
  exact ⟨session, ran,
    (startup_ends sampleClient Bool 0 (65 * secondNs) _ thirdAttempt server ran).1⟩

/-! ## The replica of leader election -/

/-- The replica of leader election that a startup is. A client that has been created
starts the controller, and the task that renews the lease sleeps; everything else that
ends a startup ends the process. -/
def Follows : Initialization → Replica → Prop
  | .attempting attempt _, replica => replica = .initializing attempt
  | .backingOff wake attempt, replica => replica = .backingOff wake attempt
  | .returned (.ok _), replica => ∃ wake, replica = .spawned .controlling (.sleeping wake 0)
  | .returned (.error _), replica => replica = .exited
  | .crashed, replica => replica = .exited
  | .pastLoop, replica => replica = .exited

/-- The events of leader election that a startup takes. -/
def OfStartup {ι : Type} (id : ι) : Leader.Event ι → Prop
  | .pass _ => True
  | .replica other event => other = id ∧
      (event = .initialized ∨ event = .initFailed ∨ event = .backoffOver ∨ event = .exit)
  | .server _ _ => False

section
variable {RsaPrivateKey : Type} (client : Client RsaPrivateKey)
variable {σ ι : Type} [DecidableEq ι] (lock : Leader.LeaseLock σ ι)

/-- The startup and its replica are at one time, and the rest of the system is as it was
at the start. -/
structure Together (id : ι) (origin : Leader.System σ ι) (state : Nat × Initialization)
    (system : Leader.System σ ι) : Prop where
  now : system.now = state.1
  lease : system.lease = origin.lease
  others : ∀ other, other ≠ id → system.replicas other = origin.replicas other
  replica : Follows state.2 (system.replicas id)

/-- One event of the replica, when it can happen. -/
theorem replica_event (id : ι) (origin system : Leader.System σ ι) (event : ReplicaEvent)
    (replica : Replica) (next : Nat × Initialization)
    (taken : Leader.replicaStep system.now (system.replicas id) event = some replica)
    (now : system.now = next.1) (lease : system.lease = origin.lease)
    (others : ∀ other, other ≠ id → system.replicas other = origin.replicas other)
    (follows : Follows next.2 replica)
    (own : event = .initialized ∨ event = .initFailed ∨ event = .backoffOver ∨ event = .exit) :
    ∃ events reached, run (Leader.step lock) system events = some reached ∧
      Together id origin next reached ∧ ∀ event ∈ events, OfStartup id event := by
  let reached : Leader.System σ ι :=
    { system with replicas := Function.update system.replicas id replica }
  have moved : Leader.step lock system (.replica id event) = some reached := by
    simp only [Leader.step, taken]
    rfl
  refine ⟨[.replica id event], reached, ?_, ⟨now, lease, fun other distinct => ?_, ?_⟩, ?_⟩
  · rw [run_next _ _ _ _ [] moved]
    rfl
  · rw [← others other distinct]
    exact Function.update_of_ne distinct replica system.replicas
  · change Follows next.2 (Function.update system.replicas id replica id)
    rwa [Function.update_self]
  · exact List.forall_mem_singleton.mpr ⟨rfl, own⟩

/-- What a step of an attempt is to the replica: nothing, or one event. -/
theorem attempt_followed (id : ι) (origin system : Leader.System σ ι) (now attempt : Nat)
    (before creation : Creation)
    (together : Together id origin (now, .attempting attempt before) system) :
    ∃ events reached, run (Leader.step lock) system events = some reached ∧
      Together id origin (now, afterCreation now attempt creation) reached ∧
        ∀ event ∈ events, OfStartup id event := by
  obtain ⟨time, lease, others, follows⟩ := together
  have initializing : system.replicas id = .initializing attempt := follows
  have event := replica_event lock id origin system
  cases creation with
  | authenticating | authenticated | syncing =>
    exact ⟨[], system, rfl, ⟨time, lease, others, follows⟩, List.forall_mem_nil _⟩
  | crashed =>
    exact event .exit .exited _ rfl time lease others rfl (.inr (.inr (.inr rfl)))
  | returned result =>
    cases result with
    | ok session =>
      let spawned : Replica :=
        .spawned .controlling (.sleeping (system.now + Leader.renewInterval) 0)
      refine event .initialized spawned _ ?_ time lease others ⟨_, rfl⟩ (.inl rfl)
      rw [initializing]
      rfl
    | error error =>
      simp only [afterCreation]
      by_cases final : attempt = maxRetries
      · rw [if_pos final]
        refine event .initFailed .exited _ ?_ time lease others rfl (.inr (.inl rfl))
        simp only [Leader.replicaStep, initializing, if_pos final]
      · rw [if_neg final]
        by_cases another : attempt + 1 ≤ maxRetries
        · rw [if_pos another]
          refine event .initFailed _ _ ?_ time lease others rfl (.inr (.inl rfl))
          have same : system.now = now := time
          simp only [Leader.replicaStep, initializing, if_neg final, same]
        · rw [if_neg another]
          exact event .exit .exited _ rfl time lease others rfl (.inr (.inr (.inr rfl)))

/-- The startup of a leader is what leader election knows of it. Take a system of
replicas in which one has just acquired the lease. Each run of `initialize_vault_client`,
with its logins, refreshes, pauses and errors, is a run of that replica: it takes only the
passing of time, the failure of an attempt, the end of a pause, the start of the controller
and the exit, at the same times; it changes no other replica and never the lease. -/
theorem startup_refines_replica (id : ι) (system : Leader.System σ ι)
    (acquired : system.replicas id = .initializing 1) (last : Nat × Initialization)
    (events : List InitializationEvent)
    (ran : run (initializeVaultClient client) (system.now, begin) events = some last) :
    ∃ matching reached, run (Leader.step lock) system matching = some reached ∧
      Together id system last reached ∧ ∀ event ∈ matching, OfStartup id event := by
  refine run_simulated (initializeVaultClient client) (Leader.step lock) (Together id system)
    (OfStartup id) ?_ (system.now, begin) last events ran system ⟨rfl, rfl, fun _ _ => rfl, acquired⟩
  rintro ⟨now, startup⟩ event ⟨later, next⟩ low together taken
  cases initialization_move client now later startup next event taken with
  | elapse startup duration =>
    refine ⟨[.pass duration], { low with now := low.now + duration }, rfl, ?_,
      List.forall_mem_singleton.mpr trivial⟩
    have time : low.now = now := together.now
    exact ⟨by rw [← time], together.lease, together.others, together.replica⟩
  | create attempt creation next signal inside =>
    exact attempt_followed lock id system low now attempt creation next together
  | wake wake attempt elapsed =>
    have backing : low.replicas id = .backingOff wake attempt := together.replica
    have time : low.now = now := together.now
    refine replica_event lock id system low .backoffOver (.initializing attempt)
      (now, .attempting attempt .authenticating) ?_ time together.lease together.others rfl
      (.inr (.inr (.inl rfl)))
    simp only [Leader.replicaStep, backing, time, if_pos elapsed]

end

/-- Two replicas, one of which has just acquired the lease. -/
def justAcquired : Leader.System LeaderExclusion.Lease Bool where
  now := 0
  lease := ⟨some true, 0⟩
  replicas
    | true => .initializing 1
    | false => .waiting Leader.renewInterval

theorem startup_refines_replica_sample :
    justAcquired.replicas true = .initializing 1 ∧
      ∃ session, run (initializeVaultClient sampleClient) (justAcquired.now, begin) thirdAttempt =
          some (65 * secondNs, .returned (.ok session)) ∧
        ∃ matching reached,
          run (Leader.step LeaderExclusion.sampleLock) justAcquired matching = some reached ∧
            Together true justAcquired (65 * secondNs, .returned (.ok session)) reached ∧
              ∀ event ∈ matching, OfStartup true event := by
  obtain ⟨session, ran⟩ := third_attempt_starts
  exact ⟨rfl, session, ran, startup_refines_replica sampleClient LeaderExclusion.sampleLock true
    justAcquired rfl _ thirdAttempt ran⟩

end VaultwardenOperator.Startup
