import VaultwardenOperator.Status

/-!
# The transition times of conditions

`lastTransitionTime` is documented as the time of a condition's last transition. Both
helpers write the current time into every condition that they set, whether its status
value changes or not. Against a history of the transitions the stored time is right
exactly when each condition that is set is new, changes its value, or already has that
very time.

The history is written from the stored values and the times of the outcomes. At the
start of a run it is what is stored.
-/

namespace VaultwardenOperator.TransitionTimes

open Json Crd Machine Status

/-- The value and transition time of the first condition of a type. -/
def conditionEntry (status : VaultwardenSecretStatus) (type : String) : Option (String × String) :=
  (status.conditions.find? (fun condition => condition.type = type)).map
    (fun condition => (condition.status, condition.lastTransitionTime))

/-- The same of a stored resource. -/
def entry (stored : Value) (type : String) : Option (String × String) :=
  (readStatus stored).join.bind (fun status => conditionEntry status type)

def timeOf : Outcome → String
  | .succeeded _ now => now
  | .failed _ now _ _ => now

/-- The status value that an outcome sets for a type of condition. -/
def written (type : String) : Outcome → Option String
  | .succeeded _ _ => if type = conditionReady then some "True" else none
  | .failed _ _ _ _ =>
    if type = conditionReady then some "False"
    else if type = conditionSyncFailed then some "True"
    else none

/-- The outcome removes the conditions of a type. -/
def Removes (type : String) : Outcome → Prop
  | .succeeded _ _ => type = conditionSyncFailed
  | .failed _ _ _ _ => False

/-- The value and time of the last transition of each type of condition. -/
abbrev History := String → Option (String × String)

/-- A condition that had another value, or was not there, makes a transition now. -/
def transition (before : Option (String × String)) (now value : String) : String × String :=
  match before with
  | some (old, since) => if old = value then (old, since) else (value, now)
  | none => (value, now)

/-- Note the transitions of an outcome, from the values stored after it. -/
def note (history : History) (outcome : Outcome) (next : Value) : History := fun type =>
  (entry next type).map (fun after => transition (history type) (timeOf outcome) after.1)

/-- The stored resource with the history of its transitions. -/
def tracked : Step (Value × History) Outcome :=
  observed step (fun history _ outcome next => note history outcome next)

/-- Each stored condition has the time of its last transition. -/
def Recorded (state : Value × History) : Prop := ∀ type, entry state.1 type = state.2 type

/-- Each condition that the outcome sets is absent from the stored status, has another value
there, or has the time of this outcome. -/
def Transitions (state : Value × History) (outcome : Outcome) : Prop :=
  ∀ type value since, written type outcome = some value →
    entry state.1 type = some (value, since) → since = timeOf outcome

/-! ## One outcome -/

/-- A condition is found by its type as it was last set. -/
theorem find_upsert (new : StatusCondition) (conditions : List StatusCondition) (type : String) :
    (upsertCondition new conditions).find? (fun condition => condition.type = type) =
      if new.type = type then some new
      else conditions.find? (fun condition => condition.type = type) := by
  induction conditions with
  | nil => by_cases same : new.type = type <;> simp [upsertCondition, same]
  | cons condition rest inductionHypothesis =>
    by_cases replaced : condition.type = new.type
    · by_cases same : new.type = type
      · simp [upsertCondition, replaced, same]
      · simp [upsertCondition, replaced, same]
    · rw [upsertCondition, if_neg replaced, List.find?_cons, List.find?_cons, inductionHypothesis]
      by_cases same : new.type = type
      · subst same
        simp [replaced]
      · simp [same]

/-- The first condition of another type is not filtered out. -/
theorem find_filtered (conditions : List StatusCondition) (type removed : String)
    (distinct : type ≠ removed) :
    (conditions.filter (fun condition => condition.type ≠ removed)).find?
        (fun condition => condition.type = type) =
      conditions.find? (fun condition => condition.type = type) := by
  rw [List.find?_filter]
  congr 1
  funext condition
  by_cases same : condition.type = type
  · simp [same, distinct]
  · simp [same]

theorem find_removed (conditions : List StatusCondition) (removed : String) :
    (conditions.filter (fun condition => condition.type ≠ removed)).find?
      (fun condition => condition.type = removed) = none := by
  rw [List.find?_eq_none]
  intro condition member
  simpa using (List.mem_filter.mp member).2

/-- What an outcome leaves for each type: what it sets, nothing where it removes, and else
what was there. -/
theorem outcome_entry (read : Option VaultwardenSecretStatus) (outcome : Outcome) (type : String) :
    (∃ value, written type outcome = some value ∧
        conditionEntry (outcome.status read) type = some (value, timeOf outcome)) ∨
      (written type outcome = none ∧ conditionEntry (outcome.status read) type = none ∧
        Removes type outcome) ∨
      (written type outcome = none ∧ conditionEntry (outcome.status read) type =
        read.bind (fun status => conditionEntry status type)) := by
  have unread : ((read.elim [] (·.conditions)).find? (fun condition => condition.type = type)).map
      (fun condition => (condition.status, condition.lastTransitionTime)) =
        read.bind (fun status => conditionEntry status type) := by
    cases read <;> rfl
  cases outcome with
  | succeeded generation now =>
    simp only [Outcome.status, setReadyStatus, conditionEntry, find_upsert, written]
    by_cases ready : conditionReady = type
    · subst ready
      exact .inl ⟨"True", by simp, by simp [timeOf]⟩
    · have notReady : ¬ type = conditionReady := fun same => ready same.symm
      by_cases failed : type = conditionSyncFailed
      · subst failed
        rw [if_neg ready, find_removed]
        exact .inr (.inl ⟨by rw [if_neg notReady], rfl, rfl⟩)
      · rw [if_neg ready, find_filtered _ type _ failed, unread]
        exact .inr (.inr ⟨by rw [if_neg notReady], rfl⟩)
  | failed generation now msg explained =>
    simp only [Outcome.status, setFailedStatus, conditionEntry, find_upsert, written]
    by_cases failed : conditionSyncFailed = type
    · subst failed
      exact .inl ⟨"True", by simp [ready_ne_sync_failed.symm], by simp [timeOf]⟩
    · have notFailed : ¬ type = conditionSyncFailed := fun same => failed same.symm
      by_cases ready : conditionReady = type
      · subst ready
        exact .inl ⟨"False", by simp, by simp [failed, timeOf]⟩
      · have notReady : ¬ type = conditionReady := fun same => ready same.symm
        rw [if_neg failed, if_neg ready, unread]
        exact .inr (.inr ⟨by rw [if_neg notReady, if_neg notFailed], rfl⟩)

theorem entry_read (stored : Value) (read : Option VaultwardenSecretStatus) (type : String)
    (reads : readStatus stored = some read) :
    entry stored type = read.bind (fun status => conditionEntry status type) := by
  rw [entry, reads, Option.join_some]

/-- What a step leaves for each type. -/
theorem step_entry (stored next : Value) (outcome : Outcome) (type : String)
    (taken : step stored outcome = some next) :
    (∃ value, written type outcome = some value ∧
        entry next type = some (value, timeOf outcome)) ∨
      (written type outcome = none ∧ entry next type = none) ∨
      (written type outcome = none ∧ entry next type = entry stored type) := by
  obtain ⟨read, reads, same⟩ := Option.map_eq_some_iff.mp taken
  subst same
  obtain ⟨-, stores⟩ := step_exact stored read outcome reads
  rw [entry_read stored read type reads, entry_read _ _ type stores, Option.bind_some]
  rcases outcome_entry read outcome type with sets | ⟨unset, gone, -⟩ | kept
  · exact .inl sets
  · exact .inr (.inl ⟨unset, gone⟩)
  · exact .inr (.inr kept)

/-- A condition that keeps its value makes no transition. -/
theorem transition_self (before : String × String) (now : String) :
    transition (some before) now before.1 = before := by
  obtain ⟨value, since⟩ := before
  simp [transition]

/-- What is set now is the last transition unless the value was there before, since
another time. -/
theorem transition_now_iff (before : Option (String × String)) (now value : String) :
    transition before now value = (value, now) ↔
      ∀ since, before = some (value, since) → since = now := by
  cases before with
  | none => simp [transition]
  | some old =>
    obtain ⟨oldValue, since⟩ := old
    by_cases unchanged : oldValue = value
    · simp [transition, unchanged]
    · simp [transition, unchanged]

/-- The stored time of one type of condition after an outcome is that of its last
transition if and only if the outcome does not set it, or it makes a transition, or has
its time already. -/
theorem noted_iff (stored next : Value) (history : History) (outcome : Outcome) (type : String)
    (same : entry stored type = history type) (taken : step stored outcome = some next) :
    entry next type = note history outcome next type ↔
      ∀ value since, written type outcome = some value →
        entry stored type = some (value, since) → since = timeOf outcome := by
  rcases step_entry stored next outcome type taken with
    ⟨value, sets, after⟩ | ⟨unset, gone⟩ | ⟨unset, kept⟩
  · have noted : entry next type = note history outcome next type ↔
        transition (history type) (timeOf outcome) value = (value, timeOf outcome) := by
      simp only [note, after, Option.map_some, Option.some.injEq]
      exact eq_comm
    rw [noted, transition_now_iff, ← same, sets]
    constructor
    · intro moves other since isValue before
      obtain rfl := Option.some.inj isValue
      exact moves since before
    · intro moves since before
      exact moves value since rfl before
  · refine iff_of_true (by simp only [note, gone, Option.map_none]) ?_
    intro value since sets
    rw [unset] at sets
    cases sets
  · refine iff_of_true ?_ ?_
    · rw [note, kept, same]
      cases history type with
      | none => rfl
      | some old => exact congrArg some (transition_self old _).symm
    · intro value since sets
      rw [unset] at sets
      cases sets

/-- An outcome keeps the times of the last transitions if and only if every condition that
it sets makes a transition, or has its time already. -/
theorem step_recorded_iff (stored next : Value) (history : History) (outcome : Outcome)
    (recorded : Recorded (stored, history)) (taken : step stored outcome = some next) :
    Recorded (next, note history outcome next) ↔ Transitions (stored, history) outcome :=
  forall_congr' (fun type => noted_iff stored next history outcome type (recorded type) taken)

/-! ## Runs -/

/-- In a run of outcomes the stored times are those of the last transitions in every state
if and only if every outcome sets only conditions that make a transition, or that have its
time already. -/
theorem recorded_iff (start : Value) (last : Value × History) (outcomes : List Outcome)
    (ran : run tracked (start, entry start) outcomes = some last) :
    Meets tracked Transitions (start, entry start) outcomes ↔
      ∀ before middle, before <+: outcomes →
        run tracked (start, entry start) before = some middle → Recorded middle := by
  refine meets_iff_safe tracked Transitions Recorded Recorded ?_ (fun state holds => holds) ?_
    (start, entry start) last outcomes (fun type => rfl) ran
  · apply preserves_observed
    intro stored next history outcome recorded transitions taken
    exact (step_recorded_iff stored next history outcome recorded taken).mpr transitions
  · rintro ⟨stored, history⟩ outcome ⟨next, noted⟩ recorded taken safe
    obtain ⟨moved, isNote⟩ := observed_step step _ _ _ outcome taken
    dsimp only at moved isNote
    subst isNote
    exact (step_recorded_iff stored next history outcome recorded moved).mp safe

/-- Every sequence of outcomes is a run from a readable resource. -/
theorem tracked_runs (start : Value) (initial : Option VaultwardenSecretStatus)
    (outcomes : List Outcome) (reads : readStatus start = some initial) :
    ∃ last, run tracked (start, entry start) outcomes = some last := by
  obtain ⟨last, ran, -⟩ := run_exact start initial outcomes reads
  obtain ⟨history, observedRun⟩ := observed_run step _ start last (entry start) outcomes ran
  exact ⟨(last, history), observedRun⟩

/-- A failure after a success, from a resource without a status. -/
theorem recorded_iff_sample :
    ∃ last, run tracked (.obj [], entry (.obj []))
        [.succeeded 1 "t0", .failed 1 "t1" "boom" (by decide)] = some last ∧
      (Meets tracked Transitions (.obj [], entry (.obj []))
          [.succeeded 1 "t0", .failed 1 "t1" "boom" (by decide)] ↔
        ∀ before middle, before <+: [.succeeded 1 "t0", .failed 1 "t1" "boom" (by decide)] →
          run tracked (.obj [], entry (.obj [])) before = some middle → Recorded middle) := by
  obtain ⟨last, ran⟩ := tracked_runs (.obj []) none
    [.succeeded 1 "t0", .failed 1 "t1" "boom" (by decide)] rfl
  exact ⟨last, ran, recorded_iff (.obj []) last _ ran⟩

/-- A second success writes its own time into a condition that stays true. -/
theorem repeated_success_moves_time :
    ∃ last, run tracked (.obj [], entry (.obj [])) [.succeeded 1 "t0", .succeeded 1 "t5"] =
        some last ∧
      entry last.1 conditionReady = some ("True", "t5") ∧
      last.2 conditionReady = some ("True", "t0") ∧ ¬ Recorded last := by
  let success : Outcome := .succeeded 1 "t0"
  let again : Outcome := .succeeded 1 "t5"
  obtain ⟨taken, stores⟩ := step_exact (.obj []) none success rfl
  generalize patchStatus (.obj []) (success.status none) = stored at taken stores
  obtain ⟨takenAgain, storesAgain⟩ := step_exact stored _ again stores
  generalize patchStatus stored (again.status (some (success.status none))) = storedAgain
    at takenAgain storesAgain
  have first : entry stored conditionReady = some ("True", "t0") :=
    entry_read _ _ conditionReady stores
  have second : entry storedAgain conditionReady = some ("True", "t5") :=
    entry_read _ _ conditionReady storesAgain
  have firstNote : note (entry (.obj [])) success stored conditionReady = some ("True", "t0") :=
    congrArg (Option.map _) first
  have secondNote : note (note (entry (.obj [])) success stored) again storedAgain
      conditionReady = some ("True", "t0") := by
    rw [note, second, firstNote]
    rfl
  refine ⟨(storedAgain, note (note (entry (.obj [])) success stored) again storedAgain), ?_,
    second, secondNote, ?_⟩
  · simp only [run, tracked, observed, success, again] at taken takenAgain ⊢
    rw [taken]
    simp only [Option.map_some, Option.bind_some, takenAgain]
  · intro recorded
    have same : some ("True", "t5") = some ("True", "t0") :=
      second.symm.trans ((recorded conditionReady).trans secondNote)
    exact absurd same (by decide)

end VaultwardenOperator.TransitionTimes
