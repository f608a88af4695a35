import VaultwardenOperator.Status

/-!
# The last sync time under stale reads

The controller reconciles what the reflector store holds, which may lag behind the
API server. A failure copies the last sync time of the version it has read into its
patch, so a stale version brings an old time back over a newer one; a time that is
absent there is left out of the patch, and the server keeps its own.

The run keeps every stored version. The time of the last success is a history
variable; before the first success of a run it is the time stored at the start.
-/

namespace VaultwardenOperator.StaleReads

open Json Crd Machine Status

/-- The versions of a resource that the server has stored, the newest apart. -/
structure Versions where
  current : Value
  earlier : List Value

/-- A reconcile that reads the version stored so many writes ago. -/
structure Reconcile where
  outcome : Outcome
  age : Nat

def Versions.read (versions : Versions) (age : Nat) : Option Value :=
  (versions.current :: versions.earlier)[age]?

/-- The helper computes the new status from the version read; the server merges the
patch into the current one. -/
def step : Step Versions Reconcile := fun versions event => do
  let version ← versions.read event.age
  let status ← readStatus version
  pure ⟨patchStatus versions.current (event.outcome.status status),
    versions.current :: versions.earlier⟩

/-- The `lastSyncTime` of a stored version. -/
def syncTime (version : Value) : Option String := (readStatus version).join.bind (·.lastSyncTime)

/-- Note the time of a success. -/
def noteSuccess (last : Option String) (event : Reconcile) : Option String :=
  event.outcome.successTime.or last

/-- The versions with the time of the last success. -/
def tracked : Step (Versions × Option String) Reconcile :=
  observed step (fun last _ event _ => noteSuccess last event)

/-- The stored time is that of the last success. -/
def Survives (state : Versions × Option String) : Prop := syncTime state.1.current = state.2

/-- A failure reads a version without a last sync time, or with the one that is stored. -/
def ReadsTime (state : Versions × Option String) (event : Reconcile) : Prop :=
  event.outcome.successTime = none → ∀ version, state.1.read event.age = some version →
    syncTime version = none ∨ syncTime version = syncTime state.1.current

/-- Every stored version has a status that deserialises, or none. -/
def Readable (versions : Versions) : Prop :=
  ∀ version ∈ versions.current :: versions.earlier, ∃ status, readStatus version = some status

/-! ## One reconcile -/

/-- What a reconcile stores: the time of its success, else the time it has read, else the
time that is there. -/
theorem step_time (versions : Versions) (event : Reconcile) (version : Value)
    (readable : Readable versions) (found : versions.read event.age = some version) :
    ∃ next, step versions event = some next ∧ Readable next ∧
      next.earlier = versions.current :: versions.earlier ∧
      syncTime next.current =
        (event.outcome.successTime.or (syncTime version)).or (syncTime versions.current) := by
  obtain ⟨status, reads⟩ := readable version (List.mem_of_getElem? found)
  obtain ⟨stored, readsStored⟩ := readable versions.current List.mem_cons_self
  have patched := read_patched versions.current stored (event.outcome.status status) readsStored
  refine ⟨⟨patchStatus versions.current (event.outcome.status status),
    versions.current :: versions.earlier⟩, ?_, ?_, rfl, ?_⟩
  · simp [step, found, reads]
  · rintro other (_ | ⟨_, member⟩)
    · exact ⟨_, patched⟩
    · exact readable other member
  · simp only [syncTime, patched, reads, readsStored, Option.join_some, Option.bind_some, overlay,
      outcome_last_sync_time]

/-- A step reads some version. -/
theorem step_reads (versions next : Versions) (event : Reconcile)
    (taken : step versions event = some next) :
    ∃ version, versions.read event.age = some version := by
  obtain ⟨version, found, -⟩ := Option.bind_eq_some_iff.mp taken
  exact ⟨version, found⟩

theorem step_readable (versions : Versions) (event : Reconcile) (next : Versions)
    (readable : Readable versions) (taken : step versions event = some next) : Readable next := by
  obtain ⟨version, found⟩ := step_reads versions next event taken
  obtain ⟨other, same, kept, -⟩ := step_time versions event version readable found
  rw [taken] at same
  cases same
  exact kept

/-- A reconcile keeps the time of the last success if and only if it reads no other time. -/
theorem step_survives_iff (versions next : Versions) (last : Option String) (event : Reconcile)
    (readable : Readable versions) (survives : Survives (versions, last))
    (taken : step versions event = some next) :
    Survives (next, noteSuccess last event) ↔ ReadsTime (versions, last) event := by
  obtain ⟨version, found⟩ := step_reads versions next event taken
  obtain ⟨other, same, -, -, stored⟩ := step_time versions event version readable found
  rw [taken] at same
  cases same
  have before : syncTime versions.current = last := survives
  simp only [Survives, ReadsTime, noteSuccess, stored, found, before, Option.some.injEq,
    forall_eq']
  cases event.outcome.successTime with
  | some now => simp
  | none => cases syncTime version <;> simp

/-! ## Runs -/

/-- In a run the stored last sync time is always that of the last success if and only if
every failure reads no other time. -/
theorem survives_iff (start : Versions) (last : Versions × Option String)
    (events : List Reconcile) (readable : Readable start)
    (ran : run tracked (start, syncTime start.current) events = some last) :
    Meets tracked ReadsTime (start, syncTime start.current) events ↔
      ∀ before middle, before <+: events →
        run tracked (start, syncTime start.current) before = some middle → Survives middle := by
  refine meets_iff_safe tracked ReadsTime (fun state => Readable state.1 ∧ Survives state) Survives
    ?_ ?_ ?_ (start, syncTime start.current) last events ⟨readable, rfl⟩ ran
  · apply preserves_observed
    rintro versions next history event ⟨holds, survives⟩ reads taken
    exact ⟨step_readable versions event next holds taken,
      (step_survives_iff versions next history event holds survives taken).mpr reads⟩
  · rintro state ⟨-, survives⟩
    exact survives
  · rintro ⟨versions, history⟩ event ⟨next, noted⟩ ⟨holds, survives⟩ taken safe
    obtain ⟨moved, written⟩ := observed_step step _ _ _ event taken
    dsimp only at moved written
    subst written
    exact (step_survives_iff versions next history event holds survives moved).mp safe

/-! ## The times alone -/

/-- The times of the stored versions. -/
def Versions.times (versions : Versions) : List (Option String) :=
  (versions.current :: versions.earlier).map syncTime

/-- What a reconcile does to the times. -/
def timeStep : Step (List (Option String)) Reconcile := fun times event =>
  times[event.age]?.map (fun read =>
    (event.outcome.successTime.or read).or times.head?.join :: times)

/-- The times of a run are a run of the times. -/
theorem run_times (start : Versions) (events : List Reconcile) (readable : Readable start) :
    (run step start events).map Versions.times = run timeStep start.times events := by
  refine run_map step timeStep Versions.times Readable step_readable ?_ start events readable
  intro versions event holds
  have read : versions.times[event.age]? = (versions.read event.age).map syncTime :=
    List.getElem?_map
  cases found : versions.read event.age with
  | none => simp [step, timeStep, read, found]
  | some version =>
    obtain ⟨next, taken, -, kept, stored⟩ := step_time versions event version holds found
    rw [timeStep, read, found, taken]
    simp [Versions.times, kept, stored]

/-! ## A failure that reads the version before the last -/

/-- A resource without a status. -/
def fresh : Versions := ⟨.obj [], []⟩

theorem fresh_readable : Readable fresh := by
  intro version member
  rw [List.mem_singleton.mp member]
  exact ⟨none, rfl⟩

/-- Two successes, and a failure that reads one of the versions before it. -/
def lagging (age : Nat) : List Reconcile :=
  [⟨.succeeded 1 "2026-01-01T00:00:00+00:00", 0⟩, ⟨.succeeded 1 "2026-01-01T00:05:00+00:00", 0⟩,
    ⟨.failed 1 "2026-01-01T00:10:00+00:00" "boom" (by decide), age⟩]

/-- The run of the fresh resource, from the run of its times. -/
theorem fresh_run (events : List Reconcile) (times : List (Option String))
    (ran : run timeStep [none] events = some times) :
    ∃ last, run tracked (fresh, syncTime fresh.current) events =
        some (last, events.foldl noteSuccess none) ∧ last.times = times := by
  have same := run_times fresh events fresh_readable
  rw [show fresh.times = [none] from rfl, ran] at same
  obtain ⟨last, reached, timesAre⟩ := Option.map_eq_some_iff.mp same
  refine ⟨last, ?_, timesAre⟩
  rw [tracked, observed_fold, reached]
  rfl

theorem survives_iff_sample : ∃ last,
    run tracked (fresh, syncTime fresh.current) (lagging 0) = some last ∧
      (Meets tracked ReadsTime (fresh, syncTime fresh.current) (lagging 0) ↔
        ∀ before middle, before <+: lagging 0 →
          run tracked (fresh, syncTime fresh.current) before = some middle → Survives middle) := by
  obtain ⟨last, ran, -⟩ := fresh_run (lagging 0) _ rfl
  exact ⟨_, ran, survives_iff fresh _ (lagging 0) fresh_readable ran⟩

/-- The failure brings back the time of the first success. -/
theorem old_time_returns : ∃ last,
    run tracked (fresh, syncTime fresh.current) (lagging 1) = some last ∧
      syncTime last.1.current = some "2026-01-01T00:00:00+00:00" ∧
      last.2 = some "2026-01-01T00:05:00+00:00" ∧ ¬ Survives last := by
  obtain ⟨last, ran, times⟩ := fresh_run (lagging 1) _ rfl
  have stored : syncTime last.current = some "2026-01-01T00:00:00+00:00" :=
    (List.cons.inj times).1
  have noted : (lagging 1).foldl noteSuccess none = some "2026-01-01T00:05:00+00:00" := rfl
  refine ⟨_, ran, stored, noted, ?_⟩
  intro survives
  have same : some "2026-01-01T00:05:00+00:00" = some "2026-01-01T00:00:00+00:00" :=
    (noted.symm.trans survives.symm).trans stored
  exact absurd same (by decide)

end VaultwardenOperator.StaleReads
