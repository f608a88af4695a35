import Mathlib.Algebra.GroupWithZero.Nat
import Mathlib.Data.List.Induction

/-!
# Machines driven by events

A machine is a partial transition function: an event that cannot happen in a
state is refused. A run feeds a finite list of events; every state a run passes
is the end of one of its prefixes, so a law about the ends of all runs is a law
about all reachable states.

A side condition on the steps of a run is kept apart from the machine. The run
rule carries an invariant through the steps that meet the condition, and a
history variable records what a step did without adding or removing a run.
-/

namespace VaultwardenOperator.Machine

universe u v w
variable {σ : Type u} {ε : Type v} {η : Type w}

/-- One event taken in one state; `none` when the event cannot happen there. -/
abbrev Step (σ : Type u) (ε : Type v) := σ → ε → Option σ

/-- Feed a list of events. The run exists when every event can happen in turn. -/
def run (step : Step σ ε) : σ → List ε → Option σ
  | state, [] => some state
  | state, event :: rest => (step state event).bind (run step · rest)

/-- A task after one of its steps: it goes on, or it ends with a result. -/
inductive Progress (π : Type u) (ρ : Type v) where
  | running (task : π)
  | done (result : ρ)

/-- Every step of the run meets the condition in the state it is taken in. -/
def Meets (step : Step σ ε) (condition : σ → ε → Prop) : σ → List ε → Prop
  | _, [] => True
  | state, event :: rest =>
      condition state event ∧
        ∀ next, step state event = some next → Meets step condition next rest

/-- The condition on a given run is decided by running it. -/
instance decidableMeets (step : Step σ ε) (condition : σ → ε → Prop)
    [decides : ∀ state event, Decidable (condition state event)] :
    ∀ state events, Decidable (Meets step condition state events)
  | _, [] => isTrue trivial
  | state, event :: rest =>
      match taken : step state event with
      | none => decidable_of_iff (condition state event) (by simp [Meets, taken])
      | some next =>
          have := decidableMeets step condition next rest
          decidable_of_iff (condition state event ∧ Meets step condition next rest)
            (by simp [Meets, taken])

/-- A step kept under the condition preserves the invariant. -/
def Preserves (step : Step σ ε) (condition : σ → ε → Prop) (invariant : σ → Prop) : Prop :=
  ∀ state event next, invariant state → condition state event →
    step state event = some next → invariant next

/-- A nonempty run is one step followed by a run. -/
theorem run_cons (step : Step σ ε) (state last : σ) (event : ε) (rest : List ε)
    (ran : run step state (event :: rest) = some last) :
    ∃ next, step state event = some next ∧ run step next rest = some last :=
  Option.bind_eq_some_iff.mp ran

/-- A run goes on from the state after its first step. -/
theorem run_next (step : Step σ ε) (state next : σ) (event : ε) (rest : List ε)
    (taken : step state event = some next) :
    run step state (event :: rest) = run step next rest := by
  change (step state event).bind (run step · rest) = _
  rw [taken]
  rfl

/-- Runs compose: a prefix that ends in a state is continued from that state. -/
theorem run_append (step : Step σ ε) (state middle : σ) (before after : List ε)
    (ran : run step state before = some middle) :
    run step state (before ++ after) = run step middle after := by
  induction before generalizing state with
  | nil =>
    cases ran
    rfl
  | cons event rest inductionHypothesis =>
    obtain ⟨next, taken, following⟩ := run_cons step state middle event rest ran
    rw [List.cons_append, run_next step state next event (rest ++ after) taken]
    exact inductionHypothesis next following

/-- A run passes the end of each of its prefixes. -/
theorem run_prefix (step : Step σ ε) (state last : σ) (before after : List ε)
    (ran : run step state (before ++ after) = some last) :
    ∃ middle, run step state before = some middle ∧ run step middle after = some last := by
  induction before generalizing state with
  | nil => exact ⟨state, rfl, ran⟩
  | cons event rest inductionHypothesis =>
    obtain ⟨next, taken, following⟩ := run_cons step state last event (rest ++ after) ran
    obtain ⟨middle, reached, continued⟩ := inductionHypothesis next following
    refine ⟨middle, ?_, continued⟩
    rw [run_next step state next event rest taken]
    exact reached

/-- The run rule. What one step keeps under the condition, a whole run keeps
when all its steps meet the condition. -/
theorem run_keeps (step : Step σ ε) (condition : σ → ε → Prop) (invariant : σ → Prop)
    (kept : Preserves step condition invariant) (state last : σ) (events : List ε)
    (initially : invariant state) (met : Meets step condition state events)
    (ran : run step state events = some last) : invariant last := by
  induction events generalizing state with
  | nil =>
    cases ran
    exact initially
  | cons event rest inductionHypothesis =>
    obtain ⟨next, taken, following⟩ := run_cons step state last event rest ran
    have preserved : invariant next := kept state event next initially met.1 taken
    exact inductionHypothesis next preserved (met.2 next taken) following

/-- The exact condition of a safety property. When the invariant keeps the property
and each step that keeps the property meets the condition, a run meets the
condition if and only if the property holds in every state it passes. -/
theorem meets_iff_safe (step : Step σ ε) (condition : σ → ε → Prop) (invariant safe : σ → Prop)
    (kept : Preserves step condition invariant) (sound : ∀ state, invariant state → safe state)
    (tight : ∀ state event next, invariant state → step state event = some next → safe next →
      condition state event)
    (state last : σ) (events : List ε) (initially : invariant state)
    (ran : run step state events = some last) :
    Meets step condition state events ↔
      ∀ before middle, before <+: events → run step state before = some middle → safe middle := by
  induction events generalizing state with
  | nil =>
    constructor
    · intro met before middle isPrefix reached
      rw [List.prefix_nil.mp isPrefix] at reached
      cases reached
      exact sound state initially
    · intro always
      trivial
  | cons event rest inductionHypothesis =>
    obtain ⟨next, taken, following⟩ := run_cons step state last event rest ran
    constructor
    · intro met before middle isPrefix reached
      have preserved : invariant next := kept state event next initially met.1 taken
      cases before with
      | nil =>
        cases reached
        exact sound state initially
      | cons first before =>
        obtain ⟨rfl, shorter⟩ := List.cons_prefix_cons.mp isPrefix
        obtain ⟨next', taken', reachedRest⟩ := run_cons step state middle first before reached
        rw [taken] at taken'
        cases taken'
        exact (inductionHypothesis next preserved following).mp (met.2 next taken) before middle
          shorter reachedRest
    · intro always
      have safeNext : safe next := always [event] next (by simp) (by simp [run, taken])
      have meets : condition state event := tight state event next initially taken safeNext
      have preserved : invariant next := kept state event next initially meets taken
      refine ⟨meets, fun next' taken' => ?_⟩
      rw [taken] at taken'
      cases taken'
      refine (inductionHypothesis next preserved following).mpr ?_
      intro before middle shorter reached
      exact always (event :: before) middle (List.cons_prefix_cons.mpr ⟨rfl, shorter⟩)
        (by simp [run, taken, reached])

/-- The empty condition is met by every run. -/
theorem meets_trivial (step : Step σ ε) (state : σ) (events : List ε) :
    Meets step (fun _ _ => True) state events := by
  induction events generalizing state with
  | nil => trivial
  | cons event rest inductionHypothesis =>
    exact ⟨trivial, fun next _ => inductionHypothesis next⟩

/-- A condition on events alone is met by every run of such events. -/
theorem meets_all (step : Step σ ε) (condition : ε → Prop) (state : σ) (events : List ε)
    (all : ∀ event ∈ events, condition event) :
    Meets step (fun _ event => condition event) state events := by
  induction events generalizing state with
  | nil => trivial
  | cons event rest inductionHypothesis =>
    obtain ⟨first, later⟩ := List.forall_mem_cons.mp all
    exact ⟨first, fun next _ => inductionHypothesis next later⟩

/-- Two conditions that a run meets are met together. -/
theorem meets_and (step : Step σ ε) (first second : σ → ε → Prop) (state : σ) (events : List ε)
    (firstMet : Meets step first state events) (secondMet : Meets step second state events) :
    Meets step (fun state event => first state event ∧ second state event) state events := by
  induction events generalizing state with
  | nil => trivial
  | cons event rest inductionHypothesis =>
    refine ⟨⟨firstMet.1, secondMet.1⟩, fun next taken => ?_⟩
    exact inductionHypothesis next (firstMet.2 next taken) (secondMet.2 next taken)

/-- A weaker condition is met too. -/
theorem meets_mono (step : Step σ ε) (condition weaker : σ → ε → Prop)
    (implied : ∀ state event, condition state event → weaker state event) (state : σ)
    (events : List ε) (met : Meets step condition state events) :
    Meets step weaker state events := by
  induction events generalizing state with
  | nil => trivial
  | cons event rest inductionHypothesis =>
    exact ⟨implied state event met.1, fun next taken =>
      inductionHypothesis next (met.2 next taken)⟩

/-- A condition met by a run and by the run that continues it is met by both together. -/
theorem meets_append (step : Step σ ε) (condition : σ → ε → Prop) (state middle : σ)
    (before after : List ε) (ran : run step state before = some middle)
    (met : Meets step condition state before) (metAfter : Meets step condition middle after) :
    Meets step condition state (before ++ after) := by
  induction before generalizing state with
  | nil =>
    cases ran
    exact metAfter
  | cons event rest inductionHypothesis =>
    obtain ⟨next, taken, following⟩ := run_cons step state middle event rest ran
    refine ⟨met.1, fun other takenToo => ?_⟩
    rw [taken] at takenToo
    cases takenToo
    exact inductionHypothesis next following (met.2 next taken)

/-- An invariant of every step, without side condition, holds at the end of
every run. -/
theorem run_invariant (step : Step σ ε) (invariant : σ → Prop)
    (kept : ∀ state event next, invariant state → step state event = some next →
      invariant next)
    (state last : σ) (events : List ε) (initially : invariant state)
    (ran : run step state events = some last) : invariant last := by
  apply run_keeps step (fun _ _ => True) invariant _ state last events initially
    (meets_trivial step state events) ran
  intro state event next holds _ taken
  exact kept state event next holds taken

/-- Add a history variable. It is written from the state before the step, the
event and the state after, and no step ever reads it. -/
def observed (step : Step σ ε) (record : η → σ → ε → σ → η) : Step (σ × η) ε :=
  fun pair event =>
    (step pair.1 event).map (fun next => (next, record pair.2 pair.1 event next))

/-- A step of the machine is observed with its record. -/
theorem observed_taken (step : Step σ ε) (record : η → σ → ε → σ → η) (state next : σ)
    (history : η) (event : ε) (taken : step state event = some next) :
    observed step record (state, history) event =
      some (next, record history state event next) := by
  simp only [observed, taken, Option.map_some]

/-- An observed step is a step of the machine with its record written. -/
theorem observed_step (step : Step σ ε) (record : η → σ → ε → σ → η)
    (pair next : σ × η) (event : ε) (taken : observed step record pair event = some next) :
    step pair.1 event = some next.1 ∧ next.2 = record pair.2 pair.1 event next.1 := by
  obtain ⟨after, moved, same⟩ := Option.map_eq_some_iff.mp taken
  subst same
  exact ⟨moved, rfl⟩

/-- An invariant of the observed machine, from the steps of the machine itself. -/
theorem preserves_observed (step : Step σ ε) (record : η → σ → ε → σ → η)
    (condition : σ × η → ε → Prop) (invariant : σ × η → Prop)
    (kept : ∀ state next history event, invariant (state, history) →
      condition (state, history) event → step state event = some next →
      invariant (next, record history state event next)) :
    Preserves (observed step record) condition invariant := by
  rintro ⟨state, history⟩ event ⟨next, recorded⟩ holds meets taken
  obtain ⟨moved, written⟩ := observed_step step record (state, history) (next, recorded) event taken
  simp only at moved written
  subst written
  exact kept state next history event holds meets moved

/-- A history variable removes no run: each run of the machine has an observed
run over the same events. -/
theorem observed_run (step : Step σ ε) (record : η → σ → ε → σ → η) (state last : σ)
    (history : η) (events : List ε) (ran : run step state events = some last) :
    ∃ recorded, run (observed step record) (state, history) events = some (last, recorded) := by
  induction events generalizing state history with
  | nil =>
    cases ran
    exact ⟨history, rfl⟩
  | cons event rest inductionHypothesis =>
    obtain ⟨next, taken, following⟩ := run_cons step state last event rest ran
    obtain ⟨recorded, observedRest⟩ :=
      inductionHypothesis next (record history state event next) following
    refine ⟨recorded, ?_⟩
    rw [run_next _ _ _ event rest (observed_taken step record state next history event taken)]
    exact observedRest

/-- A history variable adds no run: forgetting the record of an observed run
leaves a run of the machine. -/
theorem observed_forget (step : Step σ ε) (record : η → σ → ε → σ → η)
    (pair last : σ × η) (events : List ε)
    (ran : run (observed step record) pair events = some last) :
    run step pair.1 events = some last.1 := by
  induction events generalizing pair with
  | nil =>
    cases ran
    rfl
  | cons event rest inductionHypothesis =>
    obtain ⟨next, taken, following⟩ := run_cons _ pair last event rest ran
    rw [run_next step _ next.1 event rest (observed_step step record pair next event taken).1]
    exact inductionHypothesis next following

/-- A record of the events alone is a fold over them. -/
theorem observed_fold (step : Step σ ε) (note : η → ε → η) (state : σ) (history : η)
    (events : List ε) :
    run (observed step (fun history _ event _ => note history event)) (state, history) events =
      (run step state events).map (fun last => (last, events.foldl note history)) := by
  induction events generalizing state history with
  | nil => rfl
  | cons event rest inductionHypothesis =>
    change ((step state event).map _).bind _ = ((step state event).bind _).map _
    cases step state event with
    | none => rfl
    | some next => exact inductionHypothesis next (note history event)

/-- A map from the states of one machine to those of another that takes each step to a
step takes each run to a run, as far as an invariant of the first holds. -/
theorem run_map {τ : Type*} (step : Step σ ε) (image : Step τ ε) (view : σ → τ)
    (invariant : σ → Prop)
    (kept : ∀ state event next, invariant state → step state event = some next → invariant next)
    (commutes : ∀ state event, invariant state →
      (step state event).map view = image (view state) event)
    (state : σ) (events : List ε) (initially : invariant state) :
    (run step state events).map view = run image (view state) events := by
  induction events generalizing state with
  | nil => rfl
  | cons event rest inductionHypothesis =>
    change ((step state event).bind _).map view = (image (view state) event).bind _
    rw [← commutes state event initially]
    cases taken : step state event with
    | none => rfl
    | some next => exact inductionHypothesis next (kept state event next initially taken)

/-- A machine seen through a view. Where each step is, in the view, a step on what the
view shows of its event, or no change where it shows nothing, each run is a run. -/
theorem run_view {τ δ : Type*} (step : Step σ ε) (image : Step τ δ) (view : σ → τ)
    (shown : ε → Option δ)
    (seen : ∀ state event next after, step state event = some next → shown event = some after →
      image (view state) after = some (view next))
    (unseen : ∀ state event next, step state event = some next → shown event = none →
      view next = view state)
    (state last : σ) (events : List ε) (ran : run step state events = some last) :
    run image (view state) (events.filterMap shown) = some (view last) := by
  induction events generalizing state with
  | nil =>
    cases ran
    rfl
  | cons event rest inductionHypothesis =>
    obtain ⟨next, taken, following⟩ := run_cons step state last event rest ran
    have later := inductionHypothesis next following
    cases visible : shown event with
    | none =>
      rw [List.filterMap_cons_none visible, ← unseen state event next taken visible]
      exact later
    | some after =>
      rw [List.filterMap_cons_some visible,
        run_next image _ _ after _ (seen state event next after taken visible)]
      exact later

/-- A view that no step looks behind: where the view of a step depends only on the views of
its state and its event, so does the view of a run. -/
theorem run_through {τ δ : Type*} (step : Step σ ε) (image : Step τ δ) (view : σ → τ)
    (shown : ε → δ)
    (commutes : ∀ state event, (step state event).map view = image (view state) (shown event))
    (state : σ) (events : List ε) :
    (run step state events).map view = run image (view state) (events.map shown) := by
  induction events generalizing state with
  | nil => rfl
  | cons event rest inductionHypothesis =>
    rw [List.map_cons]
    change ((step state event).bind _).map view = (image (view state) (shown event)).bind _
    rw [← commutes state event]
    cases step state event with
    | none => rfl
    | some next => exact inductionHypothesis next

/-- What the events of a run cost is paid from a budget that no step refills. -/
theorem run_budget (step : Step σ ε) (budget : σ → Nat) (cost : ε → Nat)
    (paid : ∀ state event next, step state event = some next →
      budget next + cost event ≤ budget state)
    (state last : σ) (events : List ε) (ran : run step state events = some last) :
    budget last + (events.map cost).sum ≤ budget state := by
  induction events generalizing state with
  | nil =>
    cases ran
    simp
  | cons event rest inductionHypothesis =>
    obtain ⟨next, taken, following⟩ := run_cons step state last event rest ran
    have later := inductionHypothesis next following
    have now := paid state event next taken
    simp only [List.map_cons, List.sum_cons]
    omega

/-- What is known of a state from all the events before it: nothing at first, and after each
step what follows from the step and from what was known. -/
theorem run_record (step : Step σ ε) (initial last : σ) (known : List ε → σ → Prop)
    (initially : known [] initial)
    (learned : ∀ events state event next, run step initial events = some state →
      known events state → step state event = some next → known (events ++ [event]) next)
    (events : List ε) (ran : run step initial events = some last) : known events last := by
  induction events using List.reverseRecOn generalizing last with
  | nil =>
    cases ran
    exact initially
  | append_singleton before event inductionHypothesis =>
    obtain ⟨middle, reached, following⟩ := run_prefix step initial last before [event] ran
    obtain ⟨next, taken, ended⟩ := run_cons step middle last event [] following
    cases ended
    exact learned before middle event last reached (inductionHypothesis middle reached) taken

/-- Forward simulation. Where each step of a machine is matched by a run of another from
related states, so is each of its runs. -/
theorem run_simulated {τ δ : Type*} (step : Step σ ε) (image : Step τ δ) (related : σ → τ → Prop)
    (allowed : δ → Prop)
    (matched : ∀ state event next low, related state low → step state event = some next →
      ∃ matching reached, run image low matching = some reached ∧ related next reached ∧
        ∀ event ∈ matching, allowed event)
    (state last : σ) (events : List ε) (ran : run step state events = some last) (low : τ)
    (initially : related state low) :
    ∃ matching reached, run image low matching = some reached ∧ related last reached ∧
      ∀ event ∈ matching, allowed event := by
  induction events generalizing state low with
  | nil =>
    cases ran
    exact ⟨[], low, rfl, initially, List.forall_mem_nil _⟩
  | cons event rest inductionHypothesis =>
    obtain ⟨next, taken, following⟩ := run_cons step state last event rest ran
    obtain ⟨first, middle, moved, relatedNext, firstAllowed⟩ :=
      matched state event next low initially taken
    obtain ⟨later, reached, continued, relatedLast, laterAllowed⟩ :=
      inductionHypothesis next following middle relatedNext
    refine ⟨first ++ later, reached, ?_, relatedLast, ?_⟩
    · rw [run_append image low middle first later moved]
      exact continued
    · exact List.forall_mem_append.mpr ⟨firstAllowed, laterAllowed⟩

/-- The variant rule. Where every unfinished state has a run under the condition that keeps
the invariant and lowers the rank, a run under the condition leads to a finished state. -/
theorem run_variant (step : Step σ ε) (condition : σ → ε → Prop) (invariant finished : σ → Prop)
    (rank : σ → Nat)
    (progresses : ∀ state, invariant state → ¬ finished state → ∃ events next,
      run step state events = some next ∧ Meets step condition state events ∧ invariant next ∧
        rank next < rank state)
    (state : σ) (holds : invariant state) :
    ∃ events last, run step state events = some last ∧ Meets step condition state events ∧
      finished last := by
  induction measure : rank state using Nat.strongRecOn generalizing state with
  | ind size inductionHypothesis =>
    subst measure
    by_cases ended : finished state
    · exact ⟨[], state, rfl, trivial, ended⟩
    · obtain ⟨before, next, ran, met, kept, lower⟩ := progresses state holds ended
      obtain ⟨after, last, continued, metAfter, finishedLast⟩ :=
        inductionHypothesis (rank next) lower next kept rfl
      refine ⟨before ++ after, last, ?_, ?_, finishedLast⟩
      · rw [run_append step state next before after ran]
        exact continued
      · exact meets_append step condition state next before after ran met metAfter

end VaultwardenOperator.Machine
