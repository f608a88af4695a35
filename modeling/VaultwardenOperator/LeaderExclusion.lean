import VaultwardenOperator.Leader

/-!
# Exclusion of controllers

A replica may run its controller while it holds the lease unexpired. Nothing in
the replica checks this: it starts its controller whenever the vault client is
ready, renews when the scheduler and the server let it, and clears the lease
before its controller has stopped. Exclusion therefore holds exactly in the runs
that are in time.
-/

namespace VaultwardenOperator.LeaderExclusion

open Rust Machine Leader

/-- From the success of its attempt to the end of its controller, a replica counts on
the lease. -/
def Relies : Replica → Prop
  | .attempting (.served true) | .initializing _ | .backingOff _ _ => True
  | .spawned phase _ => phase.controls = true
  | _ => False

theorem running_relies (replica : Replica) (running : replica.Running) : Relies replica := by
  cases replica with
  | spawned phase renewal => exact running
  | _ => exact running.elim

section
variable {σ ι : Type} (lock : LeaseLock σ ι)

/-- The time of the last success of each replica. -/
def record [DecidableEq ι] (successes : ι → Nat) (before : System σ ι) (event : Event ι)
    (_after : System σ ι) : ι → Nat :=
  match event with
  | .server i .acquire | .server i .renewal =>
    if (lock.tryAcquireOrRenew before.lease i before.now).1 then
      Function.update successes i before.now
    else successes
  | _ => successes

/-- No two controllers run, and a controller runs only under an unexpired lease that
its replica holds. -/
structure Exclusive (system : System σ ι) : Prop where
  alone : ∀ i j, (system.replicas i).Running → (system.replicas j).Running → i = j
  leased : ∀ i, (system.replicas i).Running → lock.holder system.lease = some i ∧
    system.now < lock.renewed system.lease + leaseTtl

/-- The steps that are in time. A controller starts less than the time to live after
the last success of its replica; while it runs, the next success comes in less
than that too; and `keep_renewing` does not step down under it. -/
def InTime (pair : System σ ι × (ι → Nat)) : Event ι → Prop
  | .pass duration => ∀ i, (pair.1.replicas i).Running → pair.1.now + duration < pair.2 i + leaseTtl
  | .replica i .initialized => pair.1.now < pair.2 i + leaseTtl
  | .server i .stepDown => ¬ (pair.1.replicas i).Running
  | _ => True

/-- What the steps in time keep. The lease is as old as the last success of its holder,
and within the time to live after its success a replica that relies on the lease
holds it. -/
structure Kept (pair : System σ ι × (ι → Nat)) : Prop where
  renewed : ∀ i, lock.holder pair.1.lease = some i → lock.renewed pair.1.lease = pair.2 i
  held : ∀ i, Relies (pair.1.replicas i) → pair.1.now < pair.2 i + leaseTtl →
    lock.holder pair.1.lease = some i
  fresh : ∀ i, (pair.1.replicas i).Running → pair.1.now < pair.2 i + leaseTtl

theorem kept_exclusive (pair : System σ ι × (ι → Nat)) (kept : Kept lock pair) :
    Exclusive lock pair.1 := by
  have holds : ∀ i, (pair.1.replicas i).Running → lock.holder pair.1.lease = some i :=
    fun i running => kept.held i (running_relies _ running) (kept.fresh i running)
  constructor
  · intro i j runningI runningJ
    exact Option.some.inj ((holds i runningI).symm.trans (holds j runningJ))
  · intro i running
    rw [kept.renewed i (holds i running)]
    exact ⟨holds i running, kept.fresh i running⟩

theorem kept_initial (system : System σ ι) (initial : Initial system) :
    Kept lock (system, fun _ => lock.renewed system.lease) := by
  constructor
  · intro i holder
    rfl
  · intro i relies
    rw [initial i] at relies
    exact relies.elim
  · intro i running
    rw [initial i] at running
    exact running.elim

/-- A lease with the same holder and age. -/
theorem kept_lease (system : System σ ι) (successes : ι → Nat) (lease : σ)
    (kept : Kept lock (system, successes))
    (holder : lock.holder lease = lock.holder system.lease)
    (renewed : lock.renewed lease = lock.renewed system.lease) :
    Kept lock ({ system with lease }, successes) := by
  constructor
  · intro j isHolder
    rw [holder] at isHolder
    rw [renewed]
    exact kept.renewed j isHolder
  · intro j relies fresh
    rw [holder]
    exact kept.held j relies fresh
  · exact kept.fresh

end

/-! ## Steps of a replica -/

/-- Inside a replica nothing makes it rely on the lease, and only the end of the
initialisation starts a controller. -/
theorem replica_step_relies (now : Nat) (replica next : Replica) (event : ReplicaEvent)
    (taken : replicaStep now replica event = some next) :
    (Relies next → Relies replica) ∧
      (next.Running → replica.Running ∨ event = .initialized) := by
  -- One case for each event, and in it one for each state that the event can happen in.
  cases event <;> simp only [replicaStep] at taken <;> (try split at taken) <;>
    (try split at taken) <;> cases taken <;> simp [Relies, Replica.Running, Phase.controls]

section
variable {σ ι : Type} (lock : LeaseLock σ ι)

/-- The calls served are attempts, after which a replica relies on the lease anew only by
success, and step-downs, after which it relies on the lease only if its
controller was running. -/
theorem serve_cases (now : Nat) (lease served : σ) (i : ι) (replica next : Replica)
    (request : Request) (taken : serve lock now lease i replica request = some (served, next)) :
    ((request = .acquire ∨ request = .renewal) ∧
        served = (lock.tryAcquireOrRenew lease i now).2 ∧
        (Relies next → Relies replica ∨ (lock.tryAcquireOrRenew lease i now).1 = true) ∧
        (next.Running → replica.Running)) ∨
      ((request = .stepDown ∨ request = .lastStepDown) ∧ served = lock.stepDown lease i now ∧
        (Relies next → request = .stepDown ∧ replica.Running)) := by
  cases request with
  | acquire =>
    simp only [serve] at taken
    split at taken <;> cases taken
    refine .inl ⟨.inl rfl, rfl, fun relies => .inr ?_, fun running => running.elim⟩
    cases acquired : (lock.tryAcquireOrRenew lease i now).1 with
    | true => rfl
    | false =>
      rw [acquired] at relies
      exact relies.elim
  | renewal =>
    simp only [serve] at taken
    split at taken <;> cases taken
    exact .inl ⟨.inr rfl, rfl, fun relies => .inl relies, fun running => running⟩
  | stepDown =>
    simp only [serve] at taken
    split at taken <;> cases taken
    exact .inr ⟨.inl rfl, rfl, fun relies => ⟨rfl, relies⟩⟩
  | lastStepDown =>
    simp only [serve] at taken
    split at taken <;> cases taken
    exact .inr ⟨.inr rfl, rfl, fun relies => absurd relies (by simp [Relies, Phase.controls])⟩

/-! ## Steps of the system -/

variable [DecidableEq ι] (system : System σ ι) (successes : ι → Nat) (i : ι) (next : Replica)

/-- A step inside a replica. -/
theorem kept_replica (kept : Kept lock (system, successes))
    (relies : Relies next → Relies (system.replicas i))
    (running : next.Running → system.now < successes i + leaseTtl) :
    Kept lock ({ system with replicas := Function.update system.replicas i next }, successes) := by
  constructor
  · exact kept.renewed
  · intro j reliesJ fresh
    by_cases same : j = i
    · subst same
      apply kept.held j _ fresh
      apply relies
      simpa using reliesJ
    · apply kept.held j _ fresh
      simpa [same] using reliesJ
  · intro j runningJ
    by_cases same : j = i
    · subst same
      apply running
      simpa using runningJ
    · apply kept.fresh j
      simpa [same] using runningJ

variable (documented : lock.Documented)
include documented

/-- A served attempt. A success takes no lease from a replica that may rely on it. -/
theorem kept_attempt (kept : Kept lock (system, successes))
    (relies : Relies next → Relies (system.replicas i) ∨
      (lock.tryAcquireOrRenew system.lease i system.now).1 = true)
    (running : next.Running → (system.replicas i).Running) :
    Kept lock ({ system with
        lease := (lock.tryAcquireOrRenew system.lease i system.now).2
        replicas := Function.update system.replicas i next },
      if (lock.tryAcquireOrRenew system.lease i system.now).1 then
        Function.update successes i system.now
      else successes) := by
  cases acquired : (lock.tryAcquireOrRenew system.lease i system.now).1 with
  | true =>
    obtain ⟨holder, renewed⟩ := documented.acquired system.lease i system.now acquired
    have free := (documented.acquired_iff system.lease i system.now).mp acquired
    simp only [if_true]
    constructor
    · intro j isHolder
      rw [holder, Option.some.injEq] at isHolder
      subst isHolder
      simpa using renewed
    · intro j reliesJ fresh
      by_cases same : j = i
      · subst same
        exact holder
      · -- The lease was held by `j` and had not expired: the attempt of `i` had to fail.
        simp only [Function.update_of_ne same] at reliesJ fresh
        have held : lock.holder system.lease = some j := kept.held j reliesJ fresh
        rw [held, kept.renewed j held] at free
        rcases free with isI | none | expired
        · exact absurd (Option.some.inj isI) same
        · cases none
        · exact absurd fresh (Nat.not_lt.mpr expired)
    · intro j runningJ
      by_cases same : j = i
      · subst same
        have positive : 0 < leaseTtl := by decide
        simp only [Function.update_self]
        omega
      · simp only [Function.update_of_ne same] at runningJ ⊢
        exact kept.fresh j runningJ
  | false =>
    obtain ⟨holder, renewed⟩ := documented.refused system.lease i system.now acquired
    simp only [acquired, Bool.false_eq_true, or_false] at relies
    have keptReplica := kept_replica lock system successes i next kept relies
      (fun runs => kept.fresh i (running runs))
    exact kept_lease lock _ successes _ keptReplica holder renewed

/-- A served step-down of a replica that does not rely on the lease afterwards. -/
theorem kept_step_down (kept : Kept lock (system, successes)) (gone : ¬ Relies next) :
    Kept lock ({ system with
        lease := lock.stepDown system.lease i system.now
        replicas := Function.update system.replicas i next }, successes) := by
  have keptReplica := kept_replica lock system successes i next kept
    (fun relies => absurd relies gone) (fun running => absurd (running_relies next running) gone)
  by_cases own : lock.holder system.lease = some i
  · have cleared := documented.cleared system.lease i system.now own
    constructor
    · intro j isHolder
      rw [cleared] at isHolder
      cases isHolder
    · intro j reliesJ fresh
      have held : lock.holder system.lease = some j := keptReplica.held j reliesJ fresh
      rw [own, Option.some.injEq] at held
      subst held
      exact absurd (by simpa using reliesJ) gone
    · exact keptReplica.fresh
  · obtain ⟨holder, renewed⟩ := documented.kept system.lease i system.now own
    exact kept_lease lock _ successes _ keptReplica holder renewed

omit system successes i next in
/-- Every step in time keeps the invariant. -/
theorem kept_step : Preserves (observed (step lock) (record lock)) InTime (Kept lock) := by
  apply preserves_observed
  intro system after successes event kept inTime moved
  cases event with
  | pass duration =>
    cases moved
    refine ⟨kept.renewed, fun i relies fresh => kept.held i relies ?_, inTime⟩
    exact lt_of_le_of_lt (Nat.le_add_right _ _) fresh
  | replica i event =>
    obtain ⟨next, stepped, same⟩ := Option.map_eq_some_iff.mp moved
    subst same
    obtain ⟨relies, running⟩ := replica_step_relies system.now _ next event stepped
    refine kept_replica lock system successes i next kept relies (fun runs => ?_)
    rcases running runs with ran | started
    · exact kept.fresh i ran
    · subst started
      exact inTime
  | server i request =>
    obtain ⟨⟨lease, next⟩, served, same⟩ := Option.map_eq_some_iff.mp moved
    subst same
    rcases serve_cases lock system.now system.lease lease i _ next request served with
      ⟨attempts, isLease, relies, running⟩ | ⟨stepsDown, isLease, relies⟩
    · subst isLease
      have keptAttempt := kept_attempt lock system successes i next documented kept relies running
      rcases attempts with rfl | rfl <;> exact keptAttempt
    · subst isLease
      have gone : ¬ Relies next := by
        intro reliesNext
        obtain ⟨rfl, ran⟩ := relies reliesNext
        exact inTime ran
      have keptStepDown := kept_step_down lock system successes i next documented kept gone
      rcases stepsDown with rfl | rfl <;> exact keptStepDown

omit system successes i next in
/-- A step after which controllers are still exclusive was in time. -/
theorem exclusive_in_time (pair after : System σ ι × (ι → Nat)) (event : Event ι)
    (kept : Kept lock pair) (taken : observed (step lock) (record lock) pair event = some after)
    (exclusive : Exclusive lock after.1) : InTime pair event := by
  obtain ⟨moved, -⟩ := observed_step _ _ pair after event taken
  obtain ⟨system, successes⟩ := pair
  obtain ⟨last, history⟩ := after
  cases event with
  | pass duration =>
    cases moved
    intro i running
    obtain ⟨holder, unexpired⟩ := exclusive.leased i running
    rw [kept.renewed i holder] at unexpired
    exact unexpired
  | replica i event =>
    cases event with
    | initialized =>
      obtain ⟨next, stepped, same⟩ := Option.map_eq_some_iff.mp moved
      subst same
      simp only [replicaStep] at stepped
      split at stepped <;> cases stepped
      obtain ⟨holder, unexpired⟩ := exclusive.leased i (by simp [Replica.Running, Phase.controls])
      rw [kept.renewed i holder] at unexpired
      exact unexpired
    | _ => trivial
  | server i request =>
    cases request with
    | stepDown =>
      intro running
      have holds := kept.held i (running_relies _ running) (kept.fresh i running)
      obtain ⟨⟨lease, next⟩, served, same⟩ := Option.map_eq_some_iff.mp moved
      subst same
      simp only [serve] at served
      split at served <;> cases served
      rename_i phase stepping
      rw [stepping] at running
      -- The controller still runs after its lease is cleared.
      obtain ⟨holder, -⟩ := exclusive.leased i (by simpa [Replica.Running] using running)
      simp only [documented.cleared system.lease i system.now holds] at holder
      cases holder
    | _ => trivial

omit system successes i next in
/-- Mutual exclusion of reconcilers. In a run from the launch of the replicas, in every
state only one controller runs and its replica holds the lease unexpired, if and
only if every step of the run is in time. -/
theorem exclusive_iff_in_time (initial last : System σ ι) (events : List (Event ι))
    (launched : Initial initial) (ran : run (step lock) initial events = some last) :
    (∀ before middle, before <+: events → run (step lock) initial before = some middle →
        Exclusive lock middle) ↔
      Meets (observed (step lock) (record lock)) InTime
        (initial, fun _ => lock.renewed initial.lease) events := by
  obtain ⟨recorded, observedRan⟩ := observed_run (step lock) (record lock) initial last
    (fun _ => lock.renewed initial.lease) events ran
  have exactly := meets_iff_safe (observed (step lock) (record lock)) InTime (Kept lock)
    (fun pair => Exclusive lock pair.1) (kept_step lock documented) (kept_exclusive lock)
    (fun pair event after => exclusive_in_time lock documented pair after event) _ _ events
    (kept_initial lock initial launched) observedRan
  rw [exactly]
  constructor
  · intro always before middle isPrefix reached
    exact always before middle.1 isPrefix (observed_forget _ _ _ middle before reached)
  · intro always before middle isPrefix reached
    obtain ⟨history, observedReached⟩ := observed_run (step lock) (record lock) initial middle
      (fun _ => lock.renewed initial.lease) before reached
    exact always before (middle, history) isPrefix observedReached

end

/-! ## Two replicas -/

/-- A lease as the sample library stores it. -/
structure Lease where
  holder : Option Bool
  renewed : Nat

/-- A lease library as documented, for two replicas. -/
def sampleLock : LeaseLock Lease Bool where
  tryAcquireOrRenew lease i now :=
    if lease.holder = some i ∨ lease.holder = none ∨ lease.renewed + leaseTtl ≤ now then
      (true, ⟨some i, now⟩)
    else (false, lease)
  stepDown lease i _ := if lease.holder = some i then { lease with holder := none } else lease
  holder := Lease.holder
  renewed := Lease.renewed

theorem sample_documented : sampleLock.Documented where
  acquired_iff lease i now := by
    simp only [sampleLock]
    split_ifs with free <;> simpa using free
  acquired lease i now acquired := by
    simp only [sampleLock] at acquired ⊢
    split_ifs at acquired ⊢
    exact ⟨rfl, rfl⟩
  refused lease i now refused := by
    simp only [sampleLock] at refused ⊢
    split_ifs at refused ⊢
    exact ⟨rfl, rfl⟩
  cleared lease i now own := by
    simp only [sampleLock] at own ⊢
    simp [own]
  kept lease i now other := by
    simp only [sampleLock] at other ⊢
    simp [other]

/-- Nobody has held the lease yet. -/
def sampleStart : System Lease Bool := ⟨0, ⟨none, 0⟩, fun _ => .exited⟩

/-- The first replica acquires the lease, runs its controller after a second, and renews the
lease, while the second is refused twice. When the first leaves on a signal, the
second acquires the lease and runs its controller. -/
def promptLeaders : List (Event Bool) :=
  [.replica true .launch, .replica false .launch, .server true .acquire, .server false .acquire,
    .replica true .acquireAnswered, .replica false .acquireAnswered, .pass secondNs,
    .replica true .initialized, .pass renewInterval, .replica false .retry, .server false .acquire,
    .replica true .renew, .replica false .acquireAnswered, .server true .renewal,
    .replica true .renewalAnswered, .replica true .signalled, .replica true .controllerStopped,
    .server true .lastStepDown, .replica true .exit, .pass renewInterval, .replica false .retry,
    .server false .acquire, .replica false .acquireAnswered, .pass secondNs,
    .replica false .initialized, .pass renewInterval]

instance (pair : System Lease Bool × (Bool → Nat)) (event : Event Bool) :
    Decidable (InTime pair event) := by
  unfold InTime
  split <;> infer_instance

theorem exclusive_iff_in_time_sample :
    ∃ last, run (step sampleLock) sampleStart promptLeaders = some last ∧
      (last.replicas false).Running ∧
      ∀ before middle, before <+: promptLeaders →
        run (step sampleLock) sampleStart before = some middle → Exclusive sampleLock middle := by
  have ran : (run (step sampleLock) sampleStart promptLeaders).map
      (fun last => decide (last.replicas false).Running) = some true := by
    decide +kernel
  obtain ⟨last, ended, runs⟩ := Option.map_eq_some_iff.mp ran
  have met : Meets (observed (step sampleLock) (record sampleLock)) InTime
      (sampleStart, fun _ => sampleLock.renewed sampleStart.lease) promptLeaders := by
    decide +kernel
  exact ⟨last, ended, of_decide_eq_true runs, (exclusive_iff_in_time sampleLock sample_documented
    sampleStart last promptLeaders (fun _ => rfl) ended).mpr met⟩

/-- The first replica backs off for twenty seconds when its first login fails. Its lease
expires, the second replica acquires it, and both start their controllers. -/
def lateLeader : List (Event Bool) :=
  [.replica true .launch, .server true .acquire, .replica true .acquireAnswered, .pass secondNs,
    .replica true .initFailed, .pass (backoff 2), .replica true .backoffOver,
    .replica false .launch, .server false .acquire, .replica false .acquireAnswered,
    .replica true .initialized, .replica false .initialized]

theorem two_controllers :
    sampleLock.Documented ∧ Initial sampleStart ∧
      ∃ last, run (step sampleLock) sampleStart lateLeader = some last ∧
        (last.replicas true).Running ∧ (last.replicas false).Running ∧
        ¬ Exclusive sampleLock last := by
  have ran : (run (step sampleLock) sampleStart lateLeader).map
      (fun last => (decide (last.replicas true).Running, decide (last.replicas false).Running)) =
        some (true, true) := by
    decide +kernel
  obtain ⟨last, ended, both⟩ := Option.map_eq_some_iff.mp ran
  obtain ⟨first, second⟩ := Prod.mk.inj both
  have firstRuns := of_decide_eq_true first
  have secondRuns := of_decide_eq_true second
  refine ⟨sample_documented, fun _ => rfl, last, ended, firstRuns, secondRuns, fun exclusive => ?_⟩
  exact absurd (exclusive.alone true false firstRuns secondRuns) (by decide)

end VaultwardenOperator.LeaderExclusion
