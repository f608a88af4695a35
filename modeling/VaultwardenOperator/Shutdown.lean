import VaultwardenOperator.Leader

/-!
# Stepping down

One process, from the start of its controller to its exit. Its renewal task and the exit
path of `main` act on the lease in any order, other candidates change the lease in between,
and a renewal is a read of the lease followed by a write some time later.

On the signal path nothing stops the renewal task before `main` steps down. A renewal after
that finds a lease without holder, acquires it, and the process exits with it. Stepping
down is final when the renewal task has nothing to write at that moment and does not read
the lease again before the exit.
-/

namespace VaultwardenOperator.Shutdown

open Rust Machine Leader

/-- The lease library for one candidate, over a server that stores leases as `σ`. A renewal
writes on the strength of what it has read; writes and step-downs say whether they took
effect. -/
structure SplitLock (σ ι : Type) where
  holder : σ → Option ι
  renewed : σ → Nat
  renew : (read current : σ) → ι → Nat → Bool × σ
  stepDown : σ → ι → Nat → Bool × σ

/-- The documented behaviour of the library. A lease that is read and found without holder
is acquired, stepping down clears the holder that steps down, and is refused to others. -/
structure SplitLock.Documented {σ ι : Type} (lock : SplitLock σ ι) : Prop where
  acquires : ∀ lease i now, lock.holder lease = none →
    (lock.renew lease lease i now).1 = true ∧ lock.holder (lock.renew lease lease i now).2 = some i
  cleared : ∀ lease i now, (lock.stepDown lease i now).1 = true →
    lock.holder (lock.stepDown lease i now).2 = none
  refused : ∀ lease i now, lock.holder lease ≠ some i →
    lock.holder (lock.stepDown lease i now).2 = lock.holder lease

/-- A process with the lease as the server stores it, and what a renewal that is under way
has read of it. -/
structure System (σ : Type) where
  now : Nat
  lease : σ
  replica : Replica
  read : Option σ

inductive Event (σ : Type) where
  | pass (duration : Nat)
  | others (lease : σ)
  | replica (event : ReplicaEvent)
  | read
  | write
  | stepDown
  | lastStepDown

section
variable {σ ι : Type} [DecidableEq ι] (lock : SplitLock σ ι) (process : ι)

/-- One step of the system. Only the process itself makes it the holder, and it is not
launched again. -/
def step : Step (System σ) (Event σ) := fun system event =>
  match event with
  | .pass duration => some { system with now := system.now + duration }
  | .others lease =>
    if lock.holder lease = some process ∧ lock.holder system.lease ≠ some process then none
    else some { system with lease }
  | .replica event =>
    if event = .launch then none
    else (replicaStep system.now system.replica event).map fun replica =>
      { system with
        replica
        read := if event = .renew then none else system.read }
  | .read =>
    match system.replica, system.read with
    | .spawned _ (.renewing .sent _), none => some { system with read := some system.lease }
    | _, _ => none
  | .write =>
    match system.replica, system.read with
    | .spawned phase (.renewing .sent errors), some read =>
      let (acquired, lease) := lock.renew read system.lease process system.now
      some { system with lease, replica := .spawned phase (.renewing (.served acquired) errors) }
    | _, _ => none
  | .stepDown =>
    match system.replica with
    | .spawned phase (.steppingDown false) =>
      let (_, lease) := lock.stepDown system.lease process system.now
      some { system with lease, replica := .spawned phase (.steppingDown true) }
    | _ => none
  | .lastStepDown =>
    match system.replica with
    | .spawned (.leaving false) renewal =>
      let (_, lease) := lock.stepDown system.lease process system.now
      some { system with lease, replica := .spawned (.leaving true) renewal }
    | _ => none

/-- Whether the process has stepped down, whether a renewal took effect after that, and
whether a step-down has changed the holder of a lease that another candidate held. -/
structure History where
  released : Bool
  renewedLate : Bool
  robbed : Bool
deriving DecidableEq

def noHistory : History := ⟨false, false, false⟩

/-- Another candidate holds the lease. -/
def HeldByOther (lease : σ) : Prop := lock.holder lease ≠ none ∧ lock.holder lease ≠ some process

instance (lease : σ) : Decidable (HeldByOther lock process lease) :=
  inferInstanceAs (Decidable (_ ∧ _))

/-- The write of the renewal under way takes effect. -/
def writes (system : System σ) : Bool :=
  system.read.any (fun read => (lock.renew read system.lease process system.now).1)

/-- A step-down of the process takes effect. -/
def stepsDown (system : System σ) : Bool := (lock.stepDown system.lease process system.now).1

/-- The history after a step-down is served. -/
def History.afterStepDown (history : History) (before after : System σ) : History :=
  { history with
    released := history.released || stepsDown lock process before
    robbed := history.robbed || (decide (HeldByOther lock process before.lease) &&
      decide (lock.holder after.lease ≠ lock.holder before.lease)) }

def record (history : History) (before : System σ) (event : Event σ) (after : System σ) :
    History :=
  match event with
  | .write =>
    { history with
      renewedLate := history.renewedLate || (history.released && writes lock process before) }
  | .stepDown => history.afterStepDown lock process before after
  | .lastStepDown => history.afterStepDown lock process before after
  | _ => history

/-- After the process has stepped down no renewal takes effect, it exits without the lease,
and no step-down takes the lease of a successor. -/
structure Final (pair : System σ × History) : Prop where
  renewals : pair.2.renewedLate = false
  exit : pair.1.replica = .exited → pair.2.released = true → lock.holder pair.1.lease ≠ some process
  successors : pair.2.robbed = false

/-- A call of the renewal task is on its way. -/
def Renewing : Replica → Prop
  | .spawned _ (.renewing .sent _) => True
  | _ => False

instance : DecidablePred Renewing
  | .exited => isFalse id
  | .attempting _ => isFalse id
  | .waiting _ => isFalse id
  | .initializing _ => isFalse id
  | .backingOff _ _ => isFalse id
  | .spawned _ (.sleeping _ _) => isFalse id
  | .spawned _ (.renewing .sent _) => isTrue trivial
  | .spawned _ (.renewing (.served _) _) => isFalse id
  | .spawned _ (.steppingDown _) => isFalse id
  | .spawned _ .returned => isFalse id

/-- The renewal task has read the lease and has yet to write it. -/
def Unwritten (system : System σ) : Prop := Renewing system.replica ∧ system.read.isSome = true

instance (system : System σ) : Decidable (Unwritten system) := inferInstanceAs (Decidable (_ ∧ _))

/-- When the last step-down takes effect no read of the renewal task waits for its write, and
after a step-down the renewal task does not read the lease. -/
def Ordered (pair : System σ × History) (event : Event σ) : Prop :=
  match event with
  | .lastStepDown => stepsDown lock process pair.1 = true → ¬ Unwritten pair.1
  | .read => pair.2.released = false
  | _ => True

instance (pair : System σ × History) (event : Event σ) :
    Decidable (Ordered lock process pair event) :=
  match event with
  | .lastStepDown => inferInstanceAs (Decidable (_ = true → ¬ Unwritten pair.1))
  | .read => inferInstanceAs (Decidable (_ = false))
  | .pass _ => isTrue trivial
  | .others _ => isTrue trivial
  | .replica _ => isTrue trivial
  | .write => isTrue trivial
  | .stepDown => isTrue trivial

end

/-! ## Steps of the process -/

/-- The phase of `main` is nothing to the call. -/
theorem renewing_phase (phase other : Phase) (renewal : Renewal)
    (renewing : Renewing (.spawned phase renewal)) : Renewing (.spawned other renewal) := by
  cases renewal with
  | renewing attempt errors => cases attempt <;> exact renewing
  | _ => exact renewing

/-- Only the end of a sleep sends a call of the renewal task. -/
theorem renewing_sent (now : Nat) (replica next : Replica) (event : ReplicaEvent)
    (sent : event ≠ .renew) (taken : replicaStep now replica event = some next)
    (renewing : Renewing next) : Renewing replica := by
  cases event with
  | renew => exact absurd rfl sent
  | renewalFailed =>
    simp only [replicaStep] at taken
    split at taken
    · split_ifs at taken <;>
      · cases taken
        exact renewing.elim
    · cases taken
  | initFailed =>
    simp only [replicaStep] at taken
    split at taken
    · split_ifs at taken <;>
      · cases taken
        exact renewing.elim
    · cases taken
  | retry | backoffOver =>
    simp only [replicaStep] at taken
    split at taken
    · split_ifs at taken
      cases taken
      exact renewing.elim
    · cases taken
  | signalled | controllerStopped =>
    simp only [replicaStep] at taken
    split at taken
    · cases taken
      exact renewing_phase _ _ _ renewing
    · cases taken
  | exit =>
    cases taken
    exact renewing.elim
  | _ =>
    simp only [replicaStep] at taken
    split at taken <;> cases taken <;> exact renewing.elim

section
variable {σ ι : Type} [DecidableEq ι] (lock : SplitLock σ ι) (process : ι)

/-- What a step does to the lease and the history: nothing that makes the process the
holder, the write of a renewal, or a step-down. -/
inductive Effect (history : History) (before after : System σ) : Event σ → History → Prop where
  | still (event : Event σ)
      (holder : lock.holder after.lease = some process → lock.holder before.lease = some process)
      (unread : event ≠ .read → Unwritten after → Unwritten before) :
      Effect history before after event history
  | write (unwritten : Unwritten before) (written : ¬ Unwritten after) :
      Effect history before after .write { history with
        renewedLate := history.renewedLate || (history.released && writes lock process before) }
  | stepDown (event : Event σ)
      (lease : after.lease = (lock.stepDown before.lease process before.now).2)
      (own : Unwritten after → event = .lastStepDown ∧ Unwritten before) :
      Effect history before after event (history.afterStepDown lock process before after)

/-- Every step is in the list. -/
theorem step_effect (history : History) (before after : System σ) (event : Event σ)
    (taken : step lock process before event = some after) :
    Effect lock process history before after event (record lock process history before event after) := by
  cases event with
  | pass duration =>
    cases taken
    exact .still _ id (fun _ => id)
  | others lease =>
    simp only [step] at taken
    split_ifs at taken with unearned
    cases taken
    exact .still _ (fun holder => by_contra (fun other => unearned ⟨holder, other⟩)) (fun _ => id)
  | replica event =>
    simp only [step] at taken
    by_cases launched : event = .launch
    · rw [if_pos launched] at taken
      cases taken
    · rw [if_neg launched] at taken
      obtain ⟨replica, stepped, same⟩ := Option.map_eq_some_iff.mp taken
      subst same
      refine .still _ id (fun _ unwritten => ?_)
      obtain ⟨renewing, present⟩ := unwritten
      dsimp only at renewing present
      -- a call that is sent has read nothing
      split_ifs at present with sent
      · cases present
      · exact ⟨renewing_sent before.now before.replica replica event sent stepped renewing, present⟩
  | read =>
    simp only [step] at taken
    split at taken <;> cases taken
    exact .still _ id (fun unread => absurd rfl unread)
  | write =>
    simp only [step] at taken
    split at taken <;> cases taken
    rename_i renewing present
    refine .write ⟨?_, ?_⟩ (fun unwritten => unwritten.1)
    · rw [renewing]
      trivial
    · rw [present]
      rfl
  | stepDown =>
    simp only [step] at taken
    split at taken <;> cases taken
    exact .stepDown _ rfl (fun unwritten => unwritten.1.elim)
  | lastStepDown =>
    simp only [step] at taken
    split at taken <;> cases taken
    rename_i renewal leaving
    refine .stepDown _ rfl (fun unwritten => ⟨rfl, ?_, unwritten.2⟩)
    rw [leaving]
    exact renewing_phase _ _ _ unwritten.1

/-! ## Runs -/

/-- What the steps keep in order: a process that has stepped down has nothing to write and
does not hold the lease. -/
structure Kept (pair : System σ × History) : Prop where
  without : pair.2.released = true → lock.holder pair.1.lease ≠ some process
  unwritten : pair.2.released = true → ¬ Unwritten pair.1
  renewals : pair.2.renewedLate = false
  successors : pair.2.robbed = false

variable (documented : lock.Documented)
include documented

/-- A step-down takes the lease of no successor. -/
theorem successor_kept (history : History) (before after : System σ)
    (successors : history.robbed = false)
    (lease : after.lease = (lock.stepDown before.lease process before.now).2) :
    (history.afterStepDown lock process before after).robbed = false := by
  by_cases other : HeldByOther lock process before.lease
  · have refused : lock.holder after.lease = lock.holder before.lease := by
      rw [lease]
      exact documented.refused before.lease process before.now other.2
    simp [History.afterStepDown, successors, refused]
  · simp [History.afterStepDown, successors, other]

theorem kept_step (before after : System σ) (history : History) (event : Event σ)
    (kept : Kept lock process (before, history)) (ordered : Ordered lock process (before, history) event)
    (taken : step lock process before event = some after) :
    Kept lock process (after, record lock process history before event after) := by
  have effect := step_effect lock process history before after event taken
  generalize record lock process history before event after = written at effect
  cases effect with
  | still event holder unread =>
    refine ⟨fun released holds => kept.without released (holder holds),
      fun released unwritten => ?_, kept.renewals, kept.successors⟩
    by_cases reading : event = .read
    · subst reading
      have unreleased : history.released = false := ordered
      exact absurd (released.symm.trans unreleased) (by decide)
    · exact kept.unwritten released (unread reading unwritten)
  | write unwritten written =>
    have unreleased : history.released = false :=
      Bool.eq_false_iff.mpr (fun released => kept.unwritten released unwritten)
    refine ⟨fun released => ?_, fun _ => written, ?_, kept.successors⟩
    · exact absurd (released.symm.trans unreleased) (by decide)
    · have early := kept.renewals
      dsimp only at early ⊢
      rw [early, unreleased]
      rfl
  | stepDown event lease own =>
    have successors := successor_kept lock process documented history before after kept.successors lease
    cases served : stepsDown lock process before with
    | true =>
      refine ⟨fun _ => ?_, fun _ unwritten => ?_, kept.renewals, successors⟩
      · dsimp only
        rw [lease, documented.cleared before.lease process before.now served]
        simp
      · obtain ⟨rfl, inTime⟩ := own unwritten
        exact ordered served inTime
    | false =>
      have same : (history.afterStepDown lock process before after).released = history.released := by
        simp [History.afterStepDown, served]
      refine ⟨fun released => ?_, fun released unwritten => ?_, kept.renewals, successors⟩
      · have without := kept.without (same.symm.trans released)
        dsimp only
        rw [lease, documented.refused before.lease process before.now without]
        exact without
      · exact kept.unwritten (same.symm.trans released) (own unwritten).2

/-- In every run of a process that has spawned its renewal task, with any steps of other
candidates: when at the moment of the last step-down no read of the renewal task waits for
its write, and the renewal task does not read the lease from there to the exit, stepping
down is final. -/
theorem stepping_down_final (now wake : Nat) (lease : σ) (events : List (Event σ))
    (last : System σ × History)
    (ordered : Meets (observed (step lock process) (record lock process)) (Ordered lock process)
      (⟨now, lease, .spawned .controlling (.sleeping wake 0), none⟩, noHistory) events)
    (ran : run (observed (step lock process) (record lock process))
      (⟨now, lease, .spawned .controlling (.sleeping wake 0), none⟩, noHistory) events =
        some last) : Final lock process last := by
  have kept : Kept lock process last := by
    refine run_keeps _ (Ordered lock process) (Kept lock process) ?_ _ last events ?_ ordered ran
    · apply preserves_observed
      intro before after history event kept ordered taken
      exact kept_step lock process documented before after history event kept ordered taken
    · exact ⟨nofun, nofun, rfl, rfl⟩
  exact ⟨kept.renewals, fun _ => kept.without, kept.successors⟩

/-- The order is needed. When the renewal task reads a lease without holder after the process
has stepped down, its write takes the lease back, and the process exits with it. -/
theorem late_read_undone (system : System σ) (history : History) (phase : Phase) (errors : Nat)
    (sent : system.replica = .spawned phase (.renewing .sent errors)) (unread : system.read = none)
    (free : lock.holder system.lease = none) (released : history.released = true) :
    ∃ last, run (observed (step lock process) (record lock process)) (system, history)
        [.read, .write, .replica .exit] = some last ∧
      last.1.replica = .exited ∧ lock.holder last.1.lease = some process ∧
      last.2.renewedLate = true := by
  obtain ⟨acquired, holder⟩ := documented.acquires system.lease process system.now free
  simp [run, observed, step, replicaStep, sent, unread, record, writes, released, acquired, holder]

/-- So the last step-down must not take effect while the renewal task sleeps, unless the
process exits within the sleep. -/
theorem early_step_down_undone (system : System σ) (history : History) (wake errors : Nat)
    (leaving : system.replica = .spawned (.leaving false) (.sleeping wake errors))
    (served : stepsDown lock process system = true) :
    ∃ last, run (observed (step lock process) (record lock process)) (system, history)
        [.lastStepDown, .pass wake, .replica .renew, .read, .write, .replica .exit] = some last ∧
      last.1.replica = .exited ∧ lock.holder last.1.lease = some process ∧
      last.2.renewedLate = true := by
  have free : lock.holder (lock.stepDown system.lease process system.now).2 = none :=
    documented.cleared system.lease process system.now served
  have sleptOn : ∃ woken written, run (observed (step lock process) (record lock process))
        (system, history) [.lastStepDown, .pass wake, .replica .renew] = some (woken, written) ∧
      woken.replica = .spawned (.leaving true) (.renewing .sent errors) ∧ woken.read = none ∧
      woken.lease = (lock.stepDown system.lease process system.now).2 ∧
      written.released = true := by
    simp [run, observed, step, replicaStep, leaving, record, History.afterStepDown, served]
  obtain ⟨woken, written, slept, sent, unread, lease, released⟩ := sleptOn
  rw [← lease] at free
  obtain ⟨last, undone, after⟩ :=
    late_read_undone lock process documented woken written _ errors sent unread free released
  refine ⟨last, ?_, after⟩
  rw [← undone, ← run_append _ _ _ _ _ slept]
  rfl

end

/-! ## The system of replicas -/

section
variable {σ ι : Type} [DecidableEq ι] (lock : SplitLock σ ι) (process : ι)

/-- The library when a renewal writes at the moment of its read. -/
def SplitLock.atomic : LeaseLock σ ι where
  tryAcquireOrRenew lease i now := lock.renew lease lease i now
  stepDown lease i now := (lock.stepDown lease i now).2
  holder := lock.holder
  renewed := lock.renewed

/-- A read with its write is the renewal that the system of replicas serves. -/
theorem read_write_serves (system : System σ) (unread : system.read = none) :
    run (step lock process) system [.read, .write] =
      (serve lock.atomic system.now system.lease process system.replica .renewal).map
        (fun (lease, replica) => { system with lease, replica, read := some system.lease }) := by
  obtain ⟨now, lease, replica, read⟩ := system
  cases unread
  rcases replica with _ | _ | _ | _ | _ | ⟨phase, _ | ⟨_ | _, errors⟩ | _ | _⟩ <;> rfl

/-- The step-downs are those of the system of replicas. -/
theorem step_downs_serve (system : System σ) :
    step lock process system .stepDown =
        (serve lock.atomic system.now system.lease process system.replica .stepDown).map
          (fun (lease, replica) => { system with lease, replica }) ∧
      step lock process system .lastStepDown =
        (serve lock.atomic system.now system.lease process system.replica .lastStepDown).map
          (fun (lease, replica) => { system with lease, replica }) := by
  obtain ⟨now, lease, replica, read⟩ := system
  constructor
  · rcases replica with _ | _ | _ | _ | _ | ⟨phase, _ | _ | (_ | _) | _⟩ <;> rfl
  · rcases replica with _ | _ | _ | _ | _ | ⟨_ | _ | (_ | _), renewal⟩ <;> rfl

end

/-! ## A sample process -/

/-- A library over a lease that is its holder and the time of its renewal. A write is
refused when the lease has changed since the read. -/
def sampleLock : SplitLock (Option Bool × Nat) Bool where
  holder lease := lease.1
  renewed lease := lease.2
  renew read current i now :=
    if read = current ∧ (current.1 = some i ∨ current.1 = none ∨ current.2 + leaseTtl ≤ now) then
      (true, (some i, now))
    else (false, current)
  stepDown lease i _ := if lease.1 = some i then (true, (none, lease.2)) else (false, lease)

theorem sample_lock_documented : sampleLock.Documented where
  acquires lease i now free := by
    have held : lease.1 = none := free
    simp [sampleLock, held]
  cleared lease i now served := by
    by_cases own : lease.1 = some i
    · simp [sampleLock, own]
    · simp [sampleLock, own] at served
  refused lease i now other := by
    have held : lease.1 ≠ some i := other
    simp [sampleLock, held]

/-- A leader right after it has spawned its renewal task. -/
def sampleProcess : System (Option Bool × Nat) :=
  ⟨0, (some true, 0), .spawned .controlling (.sleeping renewInterval 0), none⟩

/-- Three errors end the loop, the step-down of the renewal task fails, and that of `main`
succeeds. -/
def lossPath : List (Event (Option Bool × Nat)) :=
  [.pass renewInterval, .replica .renew, .replica .renewalFailed, .pass renewInterval,
    .replica .renew, .replica .renewalFailed, .pass renewInterval, .replica .renew,
    .replica .renewalFailed, .replica .renewalReturned, .replica .leadershipLost,
    .replica .controllerStopped, .lastStepDown, .replica .exit]

/-- A signal comes a second after a renewal, and the controller stops two seconds later. A
successor takes the lease, and the process exits before its renewal task wakes up. -/
def promptExit : List (Event (Option Bool × Nat)) :=
  [.pass renewInterval, .replica .renew, .read, .write, .replica .renewalAnswered, .pass secondNs,
    .replica .signalled, .pass (2 * secondNs), .replica .controllerStopped, .lastStepDown,
    .others (some false, 8 * secondNs), .pass secondNs, .replica .exit]

theorem stepping_down_final_sample :
    (∃ last, run (observed (step sampleLock true) (record sampleLock true))
        (sampleProcess, noHistory) lossPath = some last ∧
      last.2.released = true ∧ last.1.replica = .exited ∧ Final sampleLock true last) ∧
    ∃ last, run (observed (step sampleLock true) (record sampleLock true))
        (sampleProcess, noHistory) promptExit = some last ∧
      last.2.released = true ∧ last.1.replica = .exited ∧ Final sampleLock true last := by
  have exits : ∀ path,
      (run (observed (step sampleLock true) (record sampleLock true))
        (sampleProcess, noHistory) path).map (fun last => (last.2.released, last.1.replica)) =
          some (true, .exited) →
      Meets (observed (step sampleLock true) (record sampleLock true)) (Ordered sampleLock true)
        (sampleProcess, noHistory) path →
      ∃ last, run (observed (step sampleLock true) (record sampleLock true))
          (sampleProcess, noHistory) path = some last ∧
        last.2.released = true ∧ last.1.replica = .exited ∧ Final sampleLock true last := by
    intro path reached ordered
    obtain ⟨last, ran, same⟩ := Option.map_eq_some_iff.mp reached
    obtain ⟨released, exited⟩ : last.2.released = true ∧ last.1.replica = .exited :=
      Prod.ext_iff.mp same
    exact ⟨last, ran, released, exited, stepping_down_final sampleLock true sample_lock_documented 0
      renewInterval (some true, 0) path last ordered ran⟩
  exact ⟨exits lossPath (by decide +kernel) (by decide +kernel),
    exits promptExit (by decide +kernel) (by decide +kernel)⟩

/-- A signal comes a second after the last renewal, and the controller stops four seconds
later. The renewal task wakes up between the step-down of `main` and the exit. -/
def signalPath : List (Event (Option Bool × Nat)) :=
  [.pass secondNs, .replica .signalled, .pass (4 * secondNs), .replica .controllerStopped,
    .lastStepDown, .replica .renew, .read, .write, .replica .exit]

/-- The process steps down, takes the lease back, and exits with it. -/
theorem lease_taken_back : ∃ last,
    run (observed (step sampleLock true) (record sampleLock true)) (sampleProcess, noHistory)
        signalPath = some last ∧
      last.2.released = true ∧ last.1.replica = .exited ∧
      sampleLock.holder last.1.lease = some true ∧ ¬ Final sampleLock true last := by
  have reached : (run (observed (step sampleLock true) (record sampleLock true))
      (sampleProcess, noHistory) signalPath).map (fun last =>
        (last.2.released, last.1.replica, sampleLock.holder last.1.lease)) =
          some (true, .exited, some true) := by
    decide +kernel
  obtain ⟨last, ran, same⟩ := Option.map_eq_some_iff.mp reached
  obtain ⟨released, rest⟩ := Prod.ext_iff.mp same
  obtain ⟨exited, holder⟩ := Prod.ext_iff.mp rest
  exact ⟨last, ran, released, exited, holder, fun final => final.exit exited released holder⟩

end VaultwardenOperator.Shutdown
