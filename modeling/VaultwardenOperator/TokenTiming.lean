import VaultwardenOperator.OneLogin

/-!
# The rhythm of the token loop

The loop sleeps until a minute before the expiry that it finds, and renews a token that
expires within a minute. A history of the loop is kept beside the system: how long it has
slept since its last token request, how long it had slept at each request before, and how
each iteration that did not fail ended. One renewal is one request, with the login that
follows a refused grant.

Every iteration that does not fail renews, or finds an expiry that another task has moved.
Between two requests the loop sleeps as long as it gets tokens that last longer than the
minute; a token that does not is renewed again at once.
-/

namespace VaultwardenOperator.TokenTiming

open Rust Sync Auth Machine VaultClient ClientSteps OneLogin

/-- An iteration that did not fail: when it ended, the expiry that its sleep was planned
with, the expiry at its end, and the seconds of the token that it installed. -/
structure Iteration where
  now : Nat
  planned : Nat
  expiresAt : Nat
  granted : Option UInt64
deriving DecidableEq

/-- The expiry of the last plan, the time slept since the last request, the times slept
before each request but the first, and the iterations; lists are newest first. -/
structure History where
  planned : Nat
  slept : Option Nat
  rests : List Nat
  iterations : List Iteration
deriving DecidableEq

def noHistory : History := ⟨0, none, [], []⟩

/-- The seconds of the token that a step of a renewal installs. -/
def lifetime : Renewal → Option UInt64
  | .granted grant => some grant.expiresIn
  | .authenticated login => some login.expiresIn
  | _ => none

/-- The history after a step of the loop. A sleep counts with the time it is set to. -/
def History.after (history : History) (now : Nat) (session next : Session) :
    TokenLoop → TokenLoop → History
  | .planning, .sleeping wakeAt =>
    { history with
      planned := session.tokenExpiresAt
      slept := history.slept.map (· + (wakeAt - now)) }
  | .renewing .checking, .renewing _ =>
    { history with slept := some 0, rests := history.slept.toList ++ history.rests }
  | .renewing renewal, .planning =>
    { history with
      iterations := ⟨now, history.planned, next.tokenExpiresAt, lifetime renewal⟩ ::
        history.iterations }
  | .renewing _, .backingOff wakeAt =>
    { history with slept := history.slept.map (· + (wakeAt - now)) }
  | _, _ => history

def record {ι : Type} (history : History) (system : System ι) (event : Event ι)
    (next : System ι) : History :=
  match event with
  | .tokenLoop _ =>
    history.after system.now system.session next.session system.tokenLoop next.tokenLoop
  | _ => history

/-- The iteration has renewed the token, or another task has moved the expiry more than a
minute ahead; after it the token is valid unless it was granted for no time. -/
structure Iteration.Sound (iteration : Iteration) : Prop where
  renewed : iteration.granted.isSome ∨ (iteration.planned < iteration.expiresAt ∧
    iteration.now + 60 * secondNs < iteration.expiresAt)
  valid : (∀ seconds, iteration.granted = some seconds → 0 < seconds.toNat) →
    iteration.now < iteration.expiresAt

/-- The loop has slept between any two requests, and its iterations are sound. -/
structure Paced (history : History) : Prop where
  rests : ∀ rest ∈ history.rests, 0 < rest
  iterations : ∀ iteration ∈ history.iterations, iteration.Sound

section
variable {ι : Type}

/-- No time passes between the end of a renewal and the plan of the next sleep. -/
def Prompt (pair : System ι × History) : Event ι → Prop
  | .elapse duration => pair.1.tokenLoop = .planning ∧ pair.2.slept = some 0 → duration = 0
  | _ => True

/-- A token that the loop installs, or another task between a renewal of the loop and the
plan that follows it, lasts longer than a minute. -/
def Lasting (pair : System ι × History) (event : Event ι) : Prop :=
  ∀ task ∈ turnOf event, ∀ seconds ∈ (renewalOf pair.1 task).bind lifetime,
    task = .tokenLoop ∨ (pair.1.tokenLoop = .planning ∧ pair.2.slept = some 0) →
      60 < seconds.toNat

instance : DecidablePred (· = TokenLoop.planning)
  | .planning => isTrue rfl
  | .sleeping _ => isFalse nofun
  | .renewing _ => isFalse nofun
  | .backingOff _ => isFalse nofun
  | .stopped => isFalse nofun
  | .crashed => isFalse nofun

instance (pair : System ι × History) : DecidablePred (Prompt pair)
  | .elapse duration => inferInstanceAs (Decidable
      (pair.1.tokenLoop = .planning ∧ pair.2.slept = some 0 → duration = 0))
  | .arrive _ _ => isTrue trivial
  | .fetch _ _ => isTrue trivial
  | .cacheLoop _ => isTrue trivial
  | .tokenLoop _ => isTrue trivial

instance [DecidableEq ι] (pair : System ι × History) (event : Event ι) :
    Decidable (Lasting pair event) :=
  match turn : turnOf event with
  | none => isTrue (by simp [Lasting, turn])
  | some task =>
    match granted : (renewalOf pair.1 task).bind lifetime with
    | none => isTrue (by simp [Lasting, turn, granted])
    | some seconds =>
      decidable_of_iff (task = .tokenLoop ∨
          (pair.1.tokenLoop = .planning ∧ pair.2.slept = some 0) → 60 < seconds.toNat)
        (by simp [Lasting, turn, granted])

end

/-! ## The expiry -/

section
variable {RsaPrivateKey : Type} (client : Client RsaPrivateKey)

/-- The expiry after a step of a renewal. -/
def expiryAfter (now : Nat) (session : Session) (renewal : Renewal) : Nat :=
  ((lifetime renewal).bind (instantAfter now)).getD session.tokenExpiresAt

theorem renewal_step_expiry (now : Nat) (session next : Session) (renewal : Renewal)
    (signal : Signal) (progress : Progress Renewal (Call AuthError Unit))
    (taken : renewalStep client now session renewal signal = some (next, progress)) :
    next.tokenExpiresAt = expiryAfter now session renewal := by
  cases renewal_move client now session next renewal signal progress taken with
  | installGrant grant =>
    cases expiry : instantAfter now grant.expiresIn <;>
      simp [installGrant, expiryAfter, lifetime, expiry]
  | installLogin login =>
    cases expiry : instantAfter now login.expiresIn <;>
      simp [installLogin, expiryAfter, lifetime, expiry]
  | _ => rfl

/-- The expiry in range of a token is its lifetime away. -/
theorem instant_after_some (now : Nat) (seconds : UInt64) (expiresAt : Nat)
    (inRange : instantAfter now seconds = some expiresAt) :
    expiresAt = now + seconds.toNat * secondNs := by
  unfold instantAfter at inRange
  split_ifs at inRange
  cases inRange
  rfl

/-- A renewal that ends well has found a token that is valid for more than a minute, or
has installed one. -/
theorem renewal_step_done (now : Nat) (session next : Session) (renewal : Renewal)
    (signal : Signal)
    (taken : renewalStep client now session renewal signal = some (next, .done (.ok ()))) :
    (renewal = .checking ∧ next = session ∧ now + 60 * secondNs < session.tokenExpiresAt) ∨
      ∃ seconds, lifetime renewal = some seconds ∧
        next.tokenExpiresAt = now + seconds.toNat * secondNs := by
  have installed : ∀ seconds, lifetime renewal = some seconds →
      instantAfter now seconds ≠ none →
        next.tokenExpiresAt = now + seconds.toNat * secondNs := by
    intro seconds granted inRange
    obtain ⟨expiresAt, expiry⟩ := Option.ne_none_iff_exists'.mp inRange
    rw [renewal_step_expiry client now session next renewal signal _ taken, expiryAfter, granted,
      Option.bind_some, expiry, Option.getD_some, instant_after_some now seconds expiresAt expiry]
  have move := renewal_move client now session next renewal signal (.done (.ok ())) taken
  generalize ended : (.done (.ok ()) : Progress Renewal (Call AuthError Unit)) = progress at move
  cases move with
  | skip valid => exact .inl ⟨rfl, rfl, by omega⟩
  | installGrant grant =>
    refine .inr ⟨grant.expiresIn, rfl, installed _ rfl (fun outside => ?_)⟩
    simp [installGrant, outside] at ended
  | installLogin login =>
    refine .inr ⟨login.expiresIn, rfl, installed _ rfl (fun outside => ?_)⟩
    simp [installLogin, outside] at ended
  | _ => cases ended

/-! ## The iterations -/

/-- What the last plan and the last request leave for the rest of the iteration. -/
def Planned (history : History) (now : Nat) : TokenLoop → Prop
  | .sleeping wakeAt => history.planned ≤ wakeAt + 60 * secondNs
  | .renewing .checking => history.planned ≤ now + 60 * secondNs
  | .renewing _ => history.slept = some 0
  | _ => True

/-- An iteration that ends well is sound. -/
theorem iteration_sound (now : Nat) (session next : Session) (renewal : Renewal)
    (signal : Signal) (history : History)
    (taken : renewalStep client now session renewal signal = some (next, .done (.ok ())))
    (planned : Planned history now (.renewing renewal)) :
    Iteration.Sound ⟨now, history.planned, next.tokenExpiresAt, lifetime renewal⟩ := by
  rcases renewal_step_done client now session next renewal signal taken with
    ⟨rfl, rfl, valid⟩ | ⟨seconds, granted, expiry⟩
  · have moved : history.planned ≤ now + 60 * secondNs := planned
    exact ⟨.inr ⟨by dsimp only; omega, valid⟩, fun _ => by dsimp only; omega⟩
  · constructor
    · dsimp only
      rw [granted]
      exact .inl rfl
    · intro positive
      dsimp only at positive ⊢
      have some : 0 < seconds.toNat * secondNs :=
        Nat.mul_pos (positive seconds granted) (by decide)
      omega

theorem loop_planned (now : Nat) (session next : Session) (loop after : TokenLoop)
    (signal : Signal) (history : History)
    (move : LoopMove client now session loop signal next after)
    (planned : Planned history now loop) :
    Planned (history.after now session next loop after) now after := by
  cases move with
  | plan =>
    change session.tokenExpiresAt ≤ now + (session.tokenExpiresAt - 60 * secondNs - now) +
      60 * secondNs
    omega
  | wake wakeAt due =>
    have before : history.planned ≤ wakeAt + 60 * secondNs := planned
    change history.planned ≤ now + 60 * secondNs
    omega
  | renew renewal signal next progress taken =>
    rcases progress with running | (_ | _) | _
    · generalize goesOn : (.running running : Progress Renewal (Call AuthError Unit)) = progress
        at taken
      cases renewal_move client now session next renewal signal progress taken with
      | due expiring =>
        cases goesOn
        exact rfl
      | read | grant | refuse | login =>
        cases goesOn
        exact planned
      | _ => cases goesOn
    all_goals trivial
  | _ => trivial

theorem loop_iterations (now : Nat) (session next : Session) (loop after : TokenLoop)
    (signal : Signal) (history : History)
    (move : LoopMove client now session loop signal next after)
    (planned : Planned history now loop)
    (sound : ∀ iteration ∈ history.iterations, iteration.Sound) :
    ∀ iteration ∈ (history.after now session next loop after).iterations, iteration.Sound := by
  cases move with
  | renew renewal signal next progress taken =>
    rcases progress with running | (_ | _) | _
    · cases renewal <;> exact sound
    · cases renewal <;> exact sound
    · cases renewal <;> exact sound
    · have ended := iteration_sound client now session next renewal signal history taken planned
      have added : (history.after now session next (.renewing renewal)
          (afterRenewal now (.done (.ok ())))).iterations =
            ⟨now, history.planned, next.tokenExpiresAt, lifetime renewal⟩ ::
              history.iterations := by
        cases renewal <;> rfl
      rw [added]
      exact List.forall_mem_cons.mpr ⟨ended, sound⟩
  | _ => exact sound

/-! ## The sleeps -/

/-- The loop has slept since its last request before it can make the next one: it has by
now, or its plan will find a token that is valid for more than a minute. -/
def Rested (history : History) (now expiresAt : Nat) : TokenLoop → Prop
  | .planning => ∀ slept, history.slept = some slept → 0 < slept ∨ now + 60 * secondNs < expiresAt
  | .sleeping _ => ∀ slept, history.slept = some slept → 0 < slept
  | .backingOff _ => ∀ slept, history.slept = some slept → 0 < slept
  | .renewing .checking => ∀ slept, history.slept = some slept → 0 < slept
  | _ => True

theorem lasting_expiry (seconds : UInt64) (lasts : 60 < seconds.toNat) :
    60 * secondNs < seconds.toNat * secondNs :=
  Nat.mul_lt_mul_of_pos_right lasts (by decide)

theorem loop_rested (now : Nat) (session next : Session) (loop after : TokenLoop)
    (signal : Signal) (history : History)
    (move : LoopMove client now session loop signal next after)
    (lasting : ∀ seconds, (loopRenewal loop).bind lifetime = some seconds → 60 < seconds.toNat)
    (rested : Rested history now session.tokenExpiresAt loop) :
    Rested (history.after now session next loop after) now next.tokenExpiresAt after := by
  cases move with
  | plan =>
    intro slept total
    obtain ⟨before, since, rfl⟩ := Option.map_eq_some_iff.mp total
    have enough := rested before since
    omega
  | wake wakeAt due => exact rested
  | renew renewal signal next progress taken =>
    rcases progress with running | (_ | _) | _
    · generalize goesOn : (.running running : Progress Renewal (Call AuthError Unit)) = progress
        at taken
      cases renewal_move client now session next renewal signal progress taken <;>
        cases goesOn <;> trivial
    · -- The back-off of half a minute is a sleep.
      have slept : ∀ slept, (history.slept.map (· + (now + 30 * secondNs - now))) = some slept →
          0 < slept := by
        intro slept total
        obtain ⟨before, since, rfl⟩ := Option.map_eq_some_iff.mp total
        have positive : 0 < secondNs := by decide
        omega
      cases renewal <;> exact slept
    · cases renewal <;> trivial
    · have expiry : now + 60 * secondNs < next.tokenExpiresAt := by
        rcases renewal_step_done client now session next renewal signal taken with
          ⟨rfl, rfl, valid⟩ | ⟨seconds, granted, expiry⟩
        · exact valid
        · rw [expiry]
          exact Nat.add_lt_add_left (lasting_expiry seconds (lasting seconds granted)) now
      cases renewal <;> exact fun _ _ => .inr expiry
  | resume wakeAt due => exact fun slept since => .inl (rested slept since)
  | _ => trivial

theorem loop_rests (now : Nat) (session next : Session) (loop after : TokenLoop)
    (signal : Signal) (history : History)
    (move : LoopMove client now session loop signal next after)
    (rested : Rested history now session.tokenExpiresAt loop)
    (rests : ∀ rest ∈ history.rests, 0 < rest) :
    ∀ rest ∈ (history.after now session next loop after).rests, 0 < rest := by
  cases move with
  | renew renewal signal next progress taken =>
    rcases progress with running | (_ | _) | _
    · cases renewal with
      | checking =>
        intro rest listed
        rcases List.mem_append.mp listed with added | before
        · exact rested rest (Option.mem_toList.mp added)
        · exact rests rest before
      | _ => exact rests
    all_goals cases renewal <;> exact rests
  | _ => exact rests

end

/-! ## Runs -/

section
variable {RsaPrivateKey : Type} (client : Client RsaPrivateKey) {ι : Type} [DecidableEq ι]

/-- What the steps keep without condition. -/
structure Checked (pair : System ι × History) : Prop where
  planned : Planned pair.2 pair.1.now pair.1.tokenLoop
  iterations : ∀ iteration ∈ pair.2.iterations, iteration.Sound

/-- What the steps keep under the condition. -/
structure Awake (pair : System ι × History) : Prop where
  rested : Rested pair.2 pair.1.now pair.1.session.tokenExpiresAt pair.1.tokenLoop
  rests : ∀ rest ∈ pair.2.rests, 0 < rest

omit [DecidableEq ι] in
/-- The steps of the other tasks are not recorded. -/
theorem record_other (history : History) (system next : System ι) (event : Event ι)
    (apart : turnOf event ≠ some .tokenLoop) : record history system event next = history := by
  cases event with
  | tokenLoop signal => exact absurd rfl apart
  | _ => rfl

theorem checked_step (system next : System ι) (history : History) (event : Event ι)
    (checked : Checked (system, history)) (taken : step client system event = some next) :
    Checked (next, record history system event next) := by
  have move := step_move client system next event taken
  by_cases own : turnOf event = some .tokenLoop
  · cases move with
    | tokenLoop signal session tokenLoop inside =>
      have loopMove := loop_move client _ _ _ _ _ signal inside
      exact ⟨loop_planned client _ _ _ _ _ signal history loopMove checked.planned,
        loop_iterations client _ _ _ _ _ signal history loopMove checked.planned
          checked.iterations⟩
    | _ => cases own
  · rw [record_other history system next event own]
    refine ⟨?_, checked.iterations⟩
    have clock := move_now client system next event move
    have planned : Planned history system.now system.tokenLoop := checked.planned
    change Planned history next.now next.tokenLoop
    rw [token_loop_kept client system next event move own]
    generalize system.tokenLoop = loop at planned
    cases loop with
    | renewing renewal =>
      cases renewal with
      | checking => exact le_trans planned (Nat.add_le_add_right clock _)
      | _ => exact planned
    | _ => exact planned

/-- A step that installs a token in range moves the expiry to the token's. -/
theorem token_installed (system next : System ι) (event : Event ι)
    (move : Move client system event next) (task : Renewer ι) (seconds : UInt64)
    (turn : turnOf event = some task)
    (installs : (renewalOf system task).bind lifetime = some seconds)
    (inRange : instantAfter system.now seconds ≠ none) :
    next.session.tokenExpiresAt = system.now + seconds.toNat * secondNs := by
  obtain ⟨renewal, running, granted⟩ := Option.bind_eq_some_iff.mp installs
  obtain ⟨expiresAt, expiry⟩ := Option.ne_none_iff_exists'.mp inRange
  have written := field_written client (·.tokenExpiresAt) expiryAfter (fun _ _ _ => rfl)
    (renewal_step_expiry client) system next event move
  rw [turn, Option.bind_some, running, Option.elim_some, expiryAfter, granted, Option.bind_some,
    expiry, Option.getD_some, instant_after_some _ seconds expiresAt expiry] at written
  exact written

/-- Any other step leaves the expiry. -/
theorem expiry_kept (system next : System ι) (event : Event ι)
    (move : Move client system event next) :
    next.session.tokenExpiresAt = system.session.tokenExpiresAt ∨
      ∃ task seconds, turnOf event = some task ∧
        (renewalOf system task).bind lifetime = some seconds ∧
        next.session.tokenExpiresAt = system.now + seconds.toNat * secondNs := by
  have written := field_written client (·.tokenExpiresAt) expiryAfter (fun _ _ _ => rfl)
    (renewal_step_expiry client) system next event move
  cases turn : turnOf event with
  | none =>
    rw [turn] at written
    exact .inl written
  | some task =>
    cases running : renewalOf system task with
    | none =>
      rw [turn, Option.bind_some, running] at written
      exact .inl written
    | some renewal =>
      rw [turn, Option.bind_some, running, Option.elim_some, expiryAfter] at written
      cases granted : lifetime renewal with
      | none =>
        rw [granted] at written
        exact .inl written
      | some seconds =>
        have installs : (renewalOf system task).bind lifetime = some seconds := by
          rw [running, Option.bind_some, granted]
        by_cases inRange : instantAfter system.now seconds = none
        · rw [granted, Option.bind_some, inRange] at written
          exact .inl written
        · exact .inr ⟨task, seconds, rfl, installs,
            token_installed client system next event move task seconds turn installs inRange⟩

/-- A step of another task lets the loop rest. -/
theorem other_rested (system next : System ι) (history : History) (event : Event ι)
    (move : Move client system event next) (own : turnOf event ≠ some .tokenLoop)
    (prompt : Prompt (system, history) event) (lasting : Lasting (system, history) event)
    (rested : Rested history system.now system.session.tokenExpiresAt system.tokenLoop) :
    Rested history next.now next.session.tokenExpiresAt next.tokenLoop := by
  rw [token_loop_kept client system next event move own]
  cases phase : system.tokenLoop with
  | planning =>
    rw [phase] at rested
    intro slept since
    by_cases unslept : slept = 0
    · -- The loop has just renewed, and its plan is due at this instant.
      subst unslept
      have clock : next.now = system.now := by
        cases move with
        | elapse duration =>
          have still : duration = 0 := prompt ⟨phase, since⟩
          subst still
          rfl
        | _ => rfl
      rw [clock]
      rcases expiry_kept client system next event move with
        same | ⟨task, seconds, turn, granted, moved⟩
      · rw [same]
        exact rested 0 since
      · rw [moved]
        have lasts := lasting task turn seconds granted (.inr ⟨phase, since⟩)
        exact .inr (Nat.add_lt_add_left (lasting_expiry seconds lasts) _)
    · exact .inl (Nat.pos_of_ne_zero unslept)
  | renewing renewal =>
    rw [phase] at rested
    cases renewal <;> exact rested
  | _ =>
    rw [phase] at rested
    exact rested

theorem awake_step (system next : System ι) (history : History) (event : Event ι)
    (awake : Awake (system, history)) (prompt : Prompt (system, history) event)
    (lasting : Lasting (system, history) event) (taken : step client system event = some next) :
    Awake (next, record history system event next) := by
  have move := step_move client system next event taken
  by_cases own : turnOf event = some .tokenLoop
  · cases move with
    | tokenLoop signal session tokenLoop inside =>
      have loopMove := loop_move client _ _ _ _ _ signal inside
      refine ⟨loop_rested client _ _ _ _ _ signal history loopMove ?_ awake.rested,
        loop_rests client _ _ _ _ _ signal history loopMove awake.rested awake.rests⟩
      exact fun seconds granted => lasting .tokenLoop own seconds granted (.inl rfl)
    | _ => cases own
  · rw [record_other history system next event own]
    exact ⟨other_rested client system next history event move own prompt lasting awake.rested,
      awake.rests⟩

omit [DecidableEq ι] in
/-- At the start nothing is owed. -/
theorem initial_kept (system : System ι) (initial : Initial system) :
    Checked (system, noHistory) ∧ Awake (system, noHistory) := by
  refine ⟨⟨?_, nofun⟩, ⟨?_, nofun⟩⟩
  · dsimp only
    rw [initial.planning]
    trivial
  · dsimp only
    rw [initial.planning]
    exact nofun

/-- In every run the iterations are sound. -/
theorem run_checked (system : System ι) (initial : Initial system) (events : List (Event ι))
    (last : System ι × History)
    (ran : run (observed (step client) record) (system, noHistory) events = some last) :
    Checked last := by
  refine run_keeps _ (fun _ _ => True) Checked ?_ _ _ events
    (initial_kept system initial).1 (meets_trivial _ _ events) ran
  apply preserves_observed
  intro state next history event checked _ taken
  exact checked_step client state next history event checked taken

/-- In every run in which the next sleep is planned at the end of a renewal and the tokens
last longer than a minute, the loop sleeps between two requests, and its iterations are
sound. -/
theorem token_loop_paced (system : System ι) (initial : Initial system) (events : List (Event ι))
    (last : System ι × History)
    (prompt : Meets (observed (step client) record) Prompt (system, noHistory) events)
    (lasting : Meets (observed (step client) record) Lasting (system, noHistory) events)
    (ran : run (observed (step client) record) (system, noHistory) events = some last) :
    Paced last.2 := by
  have checked := run_checked client system initial events last ran
  have awake : Awake last := by
    refine run_keeps _ (fun pair event => Prompt pair event ∧ Lasting pair event) Awake ?_ _ _ events
      (initial_kept system initial).2 (meets_and _ _ _ _ events prompt lasting) ran
    apply preserves_observed
    intro state next history event awake meets taken
    exact awake_step client state next history event awake meets.1 meets.2 taken
  exact ⟨awake.rests, checked.iterations⟩

/-! ## Short tokens -/

/-- The system with another session and another state of the loop. -/
def loopAt (system : System ι) (session : Session) (loop : TokenLoop) : System ι :=
  { system with session, tokenLoop := loop }

/-- A step of the loop as a step of the observed system. -/
theorem loop_event (system : System ι) (history : History) (signal : Signal)
    (session next : Session) (loop after : TokenLoop)
    (taken : tokenLoopStep client system.now session loop signal = some (next, after)) :
    observed (step client) record (loopAt system session loop, history) (.tokenLoop signal) =
      some (loopAt system next after, history.after system.now session next loop after) := by
  change (Option.map _ (tokenLoopStep client system.now session loop signal)).map _ = _
  rw [taken]
  rfl

/-- A step that writes a token in range ends its renewal well. -/
theorem install_step (now : Nat) (session next : Session) (renewal : Renewal) (seconds : UInt64)
    (signal : Signal) (progress : Progress Renewal (Call AuthError Unit))
    (granted : lifetime renewal = some seconds) (inRange : instantAfter now seconds ≠ none)
    (taken : renewalStep client now session renewal signal = some (next, progress)) :
    progress = .done (.ok ()) := by
  obtain ⟨expiresAt, expiry⟩ := Option.ne_none_iff_exists'.mp inRange
  cases renewal_move client now session next renewal signal progress taken with
  | installGrant grant =>
    cases granted
    simp only [installGrant, expiry]
  | installLogin login =>
    cases granted
    simp only [installLogin, expiry]
  | _ => cases granted

/-- A plan with a token that is valid for at most a minute leads to the next request at the
same instant. -/
theorem soon_requested (system : System ι) (history : History) (session : Session)
    (soon : session.tokenExpiresAt ≤ system.now + 60 * secondNs) :
    ∃ recorded, run (observed (step client) record) (loopAt system session .planning, history)
        [.tokenLoop .proceed, .tokenLoop .proceed, .tokenLoop .proceed] =
          some (loopAt system session (.renewing .reading), recorded) ∧
      recorded.rests = history.slept.toList ++ history.rests := by
  have zero : system.now + (session.tokenExpiresAt - 60 * secondNs - system.now) =
      system.now := by omega
  have plan : tokenLoopStep client system.now session .planning .proceed =
      some (session, .sleeping system.now) := by
    simp only [tokenLoopStep, zero]
  have wake : tokenLoopStep client system.now session (.sleeping system.now) .proceed =
      some (session, .renewing .checking) := if_pos (le_refl _)
  have due : tokenLoopStep client system.now session (.renewing .checking) .proceed =
      some (session, .renewing .reading) := by
    simp only [tokenLoopStep, renewalStep, ge_iff_le, soon, if_true]
  refine ⟨((history.after system.now session session .planning (.sleeping system.now)).after
    system.now session session (.sleeping system.now) (.renewing .checking)).after
      system.now session session (.renewing .checking) (.renewing .reading), ?_, ?_⟩
  · rw [run_next _ _ _ _ _ (loop_event client system _ .proceed _ _ _ _ plan),
      run_next _ _ _ _ _ (loop_event client system _ .proceed _ _ _ _ wake),
      run_next _ _ _ _ _ (loop_event client system _ .proceed _ _ _ _ due)]
    rfl
  · simp [History.after]

/-- The loop plans after a step that has installed a token of its own, and no sleep is
counted yet. -/
theorem loop_installed (now : Nat) (session next : Session) (loop after : TokenLoop)
    (seconds : UInt64) (signal : Signal) (history : History)
    (move : LoopMove client now session loop signal next after)
    (granted : (loopRenewal loop).bind lifetime = some seconds)
    (inRange : instantAfter now seconds ≠ none) (planned : Planned history now loop) :
    after = .planning ∧ (history.after now session next loop after).slept = some 0 := by
  cases move with
  | renew renewal _ next progress taken =>
    have lasts : lifetime renewal = some seconds := granted
    have ended := install_step client now session next renewal seconds signal progress lasts
      inRange taken
    subst ended
    refine ⟨rfl, ?_⟩
    cases renewal with
    | checking => cases lasts
    | _ => exact planned
  | _ => cases granted

/-- After a step that installs a token in the window of the condition the loop is about to
plan, and has not slept since its last request. -/
theorem window_unslept (system next : System ι) (history : History) (event : Event ι)
    (move : Move client system event next) (task : Renewer ι) (seconds : UInt64)
    (turn : turnOf event = some task)
    (installs : (renewalOf system task).bind lifetime = some seconds)
    (inRange : instantAfter system.now seconds ≠ none)
    (window : task = .tokenLoop ∨ (system.tokenLoop = .planning ∧ history.slept = some 0))
    (planned : Planned history system.now system.tokenLoop) :
    next.tokenLoop = .planning ∧ (record history system event next).slept = some 0 := by
  by_cases own : turnOf event = some .tokenLoop
  · obtain rfl : Renewer.tokenLoop = task := Option.some.inj (own.symm.trans turn)
    cases move with
    | tokenLoop signal session tokenLoop inside =>
      exact loop_installed client _ _ _ _ _ seconds signal history
        (loop_move client _ _ _ _ _ signal inside) installs inRange planned
    | _ => cases own
  · rw [token_loop_kept client system next event move own,
      record_other history system next event own]
    rcases window with rfl | waiting
    · exact absurd turn own
    · exact waiting

/-- The condition is tight. In every run, a token that it forbids is followed by the next
request without a sleep, at the same instant. -/
theorem short_token_spins (system : System ι) (initial : Initial system) (events : List (Event ι))
    (reached next : System ι) (history : History) (event : Event ι)
    (ran : run (observed (step client) record) (system, noHistory) events =
      some (reached, history))
    (taken : step client reached event = some next)
    (short : ¬ Lasting (reached, history) event)
    (inRange : ∀ task ∈ turnOf event, ∀ seconds ∈ (renewalOf reached task).bind lifetime,
      instantAfter reached.now seconds ≠ none) :
    ∃ last, run (observed (step client) record) (reached, history)
        [event, .tokenLoop .proceed, .tokenLoop .proceed, .tokenLoop .proceed] = some last ∧
      last.1.now = reached.now ∧ 0 ∈ last.2.rests := by
  simp only [Lasting, not_forall] at short
  obtain ⟨task, turn, seconds, installs, window, lasts⟩ := short
  have move := step_move client reached next event taken
  obtain ⟨plans, unslept⟩ := window_unslept client reached next history event move task seconds
    turn installs (inRange task turn seconds installs) window
    (run_checked client system initial events _ ran).planned
  have clock : next.now = reached.now := by
    cases move with
    | elapse duration => cases turn
    | _ => rfl
  have soon : next.session.tokenExpiresAt ≤ next.now + 60 * secondNs := by
    have bounded : seconds.toNat * secondNs ≤ 60 * secondNs :=
      Nat.mul_le_mul_right _ (Nat.not_lt.mp lasts)
    rw [clock, token_installed client reached next event move task seconds turn installs
      (inRange task turn seconds installs)]
    exact Nat.add_le_add_left bounded _
  obtain ⟨recorded, requested, rests⟩ := soon_requested client next
    (record history reached event next) next.session soon
  have start : loopAt next next.session .planning = next := by
    rw [← plans]
    rfl
  rw [start] at requested
  refine ⟨(loopAt next next.session (.renewing .reading), recorded), ?_, clock, ?_⟩
  · rw [run_next _ _ _ event _ (observed_taken _ _ reached next history event taken)]
    exact requested
  · rw [rests, unslept]
    exact List.mem_cons_self

end

/-- The sample token runs out, is renewed for the given time, and the loop goes on until it
needs the next one. -/
def twoRequests (seconds : UInt64) (wait : Nat) : List (Event Unit) :=
  [.tokenLoop .proceed, .elapse (3540 * secondNs), .tokenLoop .proceed, .tokenLoop .proceed,
    .tokenLoop .proceed, .tokenLoop (.token (.body ⟨"at2", seconds, "rt2", ""⟩)),
    .tokenLoop .proceed, .tokenLoop .proceed, .elapse wait, .tokenLoop .proceed,
    .tokenLoop .proceed]

/-- Tokens of an hour are renewed every 59 minutes. -/
theorem token_loop_paced_sample : ∃ last,
    run (observed (step sampleClient) record) (sampleSystem Unit, noHistory)
        (twoRequests 3600 (3540 * secondNs)) = some last ∧
      last.2.rests = [3540 * secondNs] ∧ Paced last.2 := by
  have rests : (run (observed (step sampleClient) record) (sampleSystem Unit, noHistory)
      (twoRequests 3600 (3540 * secondNs))).map (·.2.rests) = some [3540 * secondNs] := by
    decide +kernel
  obtain ⟨last, ran, slept⟩ := Option.map_eq_some_iff.mp rests
  exact ⟨last, ran, slept, token_loop_paced sampleClient (sampleSystem Unit) (sample_initial Unit) _
    last (by decide +kernel) (by decide +kernel) ran⟩

/-- A token that is granted for a minute is renewed at the instant of its grant. -/
theorem minute_token_spins : ∃ last,
    run (observed (step sampleClient) record) (sampleSystem Unit, noHistory) (twoRequests 60 0) =
        some last ∧
      Meets (observed (step sampleClient) record) Prompt (sampleSystem Unit, noHistory)
        (twoRequests 60 0) ∧
      last.1.now = 3600 * secondNs ∧ last.2.rests = [0] ∧ ¬ Paced last.2 := by
  have reached : (run (observed (step sampleClient) record) (sampleSystem Unit, noHistory)
      (twoRequests 60 0)).map (fun last => (last.1.now, last.2.rests)) =
        some (3600 * secondNs, [0]) := by
    decide +kernel
  obtain ⟨last, ran, same⟩ := Option.map_eq_some_iff.mp reached
  obtain ⟨now, rests⟩ : last.1.now = 3600 * secondNs ∧ last.2.rests = [0] := Prod.ext_iff.mp same
  refine ⟨last, ran, by decide +kernel, now, rests, fun paced => ?_⟩
  have positive := paced.rests 0 (by
    rw [rests]
    exact List.mem_singleton_self 0)
  omega

end VaultwardenOperator.TokenTiming
