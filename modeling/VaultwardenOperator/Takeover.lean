import VaultwardenOperator.LeaderExclusion

/-!
# A standby takes over

A replica in `acquire` tries for the lease again and again until it has it. Whatever the
other replicas do (stop renewing, crash, step down or not), the lease is not left without a
success for longer than its time to live and one more pause, as long as a standby is prompt:
what it waits for comes with a bounded delay. Each attempt that fails costs one more pause.
-/

namespace VaultwardenOperator.Takeover

open Machine Leader

/-- The standby is in `acquire`. -/
def InAcquire : Replica → Prop
  | .attempting _ | .waiting _ => True
  | _ => False

/-! ## What is recorded -/

/-- The last success of any replica, or the launch of the standby if that came later; the
begin of the last attempt of the standby; and its failed attempts since the success. -/
structure History where
  since : Nat
  began : Nat
  failed : Nat

section
variable {σ ι : Type} [DecidableEq ι] (lock : LeaseLock σ ι) (standby : ι) (delay : Nat)

/-- An attempt of any replica is served. -/
def History.afterAttempt (history : History) (now : Nat) (acquired : Bool) : History :=
  if acquired then { history with since := now, failed := 0 } else history

/-- An event inside the standby. -/
def History.afterOwn (history : History) (now : Nat) : ReplicaEvent → History
  | .launch => ⟨max history.since now, now, 0⟩
  | .retry => { history with began := now }
  | .acquireFailed => { history with failed := history.failed + 1 }
  | _ => history

def record (history : History) (before : System σ ι) (event : Event ι) (_after : System σ ι) :
    History :=
  match event with
  | .server i .acquire | .server i .renewal =>
    history.afterAttempt before.now (lock.tryAcquireOrRenew before.lease i before.now).1
  | .replica i own => if i = standby then history.afterOwn before.now own else history
  | _ => history

/-- The standby is prompt: an attempt is answered, and a pause ends, with the delay at most. -/
def Prompt (pair : System σ ι × History) : Event ι → Prop
  | .pass duration =>
    match pair.1.replicas standby with
    | .attempting _ => pair.1.now + duration ≤ pair.2.began + delay
    | .waiting wake => pair.1.now + duration ≤ wake + delay
    | _ => True
  | _ => True

/-- A pause of the standby with the attempt before it. -/
def turnaround : Nat := renewInterval + 2 * delay

/-- No attempt is refused after this time. -/
def History.limit (history : History) : Nat :=
  history.since + leaseTtl + history.failed * turnaround delay

/-! ## The invariant -/

/-- What is known of the standby at a time. -/
def OnTime (now : Nat) (history : History) : Replica → Prop
  | .attempting .sent => history.began ≤ now ∧ now ≤ history.began + delay ∧
      history.began ≤ history.limit delay + turnaround delay
  | .attempting (.served _) => history.began ≤ now ∧ now ≤ history.began + delay ∧
      history.began ≤ history.limit delay
  | .waiting wake => wake ≤ now + renewInterval ∧ now ≤ wake + delay ∧
      wake + delay ≤ history.limit delay + turnaround delay
  | _ => True

/-- A lease with a holder is not younger than the last success. -/
structure Kept (pair : System σ ι × History) : Prop where
  renewed : ∀ i, lock.holder pair.1.lease = some i → lock.renewed pair.1.lease ≤ pair.2.since
  onTime : OnTime delay pair.1.now pair.2 (pair.1.replicas standby)

theorem on_time_bound (now : Nat) (history : History) (replica : Replica)
    (onTime : OnTime delay now history replica) (inAcquire : InAcquire replica) :
    now ≤ history.limit delay + turnaround delay + delay := by
  cases replica with
  | attempting attempt =>
    cases attempt <;> simp only [OnTime] at onTime <;> omega
  | waiting wake =>
    simp only [OnTime] at onTime
    omega
  | _ => exact inAcquire.elim

/-! ## Steps of the standby -/

/-- A success of another replica leaves the standby on time. -/
theorem on_time_after_success (now : Nat) (history : History) (replica : Replica)
    (onTime : OnTime delay now history replica) :
    OnTime delay now { history with since := now, failed := 0 } replica := by
  cases replica with
  | attempting attempt =>
    cases attempt <;> simp only [OnTime, History.limit, turnaround] at onTime ⊢ <;> omega
  | waiting wake =>
    simp only [OnTime, History.limit, turnaround] at onTime ⊢
    omega
  | _ => trivial

/-- A step inside the standby. -/
theorem on_time_own (now : Nat) (history : History) (replica next : Replica) (event : ReplicaEvent)
    (onTime : OnTime delay now history replica)
    (taken : replicaStep now replica event = some next) :
    history.since ≤ (history.afterOwn now event).since ∧
      OnTime delay now (history.afterOwn now event) next := by
  cases event with
  | launch =>
    simp only [replicaStep] at taken
    split at taken <;> cases taken
    refine ⟨Nat.le_max_left _ _, ?_⟩
    simp only [History.afterOwn, OnTime, History.limit]
    omega
  | acquireAnswered =>
    refine ⟨Nat.le_refl _, ?_⟩
    simp only [replicaStep] at taken
    split at taken <;> cases taken
    · trivial
    · simp only [OnTime, History.afterOwn, turnaround] at onTime ⊢
      omega
  | acquireFailed =>
    refine ⟨Nat.le_refl _, ?_⟩
    simp only [replicaStep] at taken
    split at taken <;> cases taken
    rename_i attempt
    have later : (history.afterOwn now .acquireFailed).limit delay =
        history.limit delay + turnaround delay := by
      simp only [History.limit, History.afterOwn, Nat.add_mul, Nat.one_mul]
      omega
    cases attempt <;> simp only [OnTime, later] at onTime ⊢ <;>
      simp only [turnaround] at onTime ⊢ <;> omega
  | retry =>
    refine ⟨Nat.le_refl _, ?_⟩
    simp only [replicaStep] at taken
    split at taken
    case h_1 wake =>
      split_ifs at taken
      cases taken
      simp only [OnTime, History.afterOwn, History.limit] at onTime ⊢
      omega
    case h_2 => cases taken
  | exit =>
    cases taken
    exact ⟨Nat.le_refl _, trivial⟩
  | _ =>
    refine ⟨Nat.le_refl _, ?_⟩
    -- The events after `acquire`.
    simp only [replicaStep] at taken
    (repeat' split at taken) <;> cases taken <;> trivial

/-! ## Steps of the system -/

theorem on_time_left (now : Nat) (history : History) (replica : Replica)
    (left : ¬ InAcquire replica) : OnTime delay now history replica := by
  cases replica with
  | attempting attempt => exact absurd trivial left
  | waiting wake => exact absurd trivial left
  | _ => trivial

omit [DecidableEq ι] in
/-- The call that a replica in `acquire` makes. -/
theorem served_in_acquire (now : Nat) (lease served : σ) (i : ι) (replica next : Replica)
    (request : Request) (taken : serve lock now lease i replica request = some (served, next))
    (inAcquire : InAcquire next) :
    request = .acquire ∧ replica = .attempting .sent ∧
      next = .attempting (.served (lock.tryAcquireOrRenew lease i now).1) := by
  cases request with
  | acquire =>
    simp only [serve] at taken
    split at taken <;> cases taken
    exact ⟨rfl, rfl, rfl⟩
  | renewal | stepDown | lastStepDown =>
    simp only [serve] at taken
    split at taken <;> cases taken
    exact inAcquire.elim

variable (documented : lock.Documented)
include documented

/-- A served attempt of any replica. -/
theorem kept_attempt (system : System σ ι) (history : History) (i : ι) (next : Replica)
    (kept : Kept lock standby delay (system, history))
    (own : i = standby → InAcquire next → system.replicas i = .attempting .sent ∧
      next = .attempting (.served (lock.tryAcquireOrRenew system.lease i system.now).1)) :
    Kept lock standby delay ({ system with
        lease := (lock.tryAcquireOrRenew system.lease i system.now).2
        replicas := Function.update system.replicas i next },
      history.afterAttempt system.now (lock.tryAcquireOrRenew system.lease i system.now).1) := by
  cases acquired : (lock.tryAcquireOrRenew system.lease i system.now).1 with
  | true =>
    obtain ⟨-, renewed⟩ := documented.acquired system.lease i system.now acquired
    refine ⟨fun j holder => Nat.le_of_eq renewed, ?_⟩
    by_cases same : i = standby
    · subst same
      simp only [Function.update_self]
      by_cases inAcquire : InAcquire next
      · obtain ⟨sent, isNext⟩ := own rfl inAcquire
        have before := kept.onTime
        simp only [sent, OnTime] at before
        simp only [isNext, OnTime, History.afterAttempt, if_true, History.limit]
        omega
      · exact on_time_left delay _ _ next inAcquire
    · simp only [Function.update_of_ne (Ne.symm same)]
      exact on_time_after_success delay system.now history _ kept.onTime
  | false =>
    obtain ⟨holder, renewed⟩ := documented.refused system.lease i system.now acquired
    have leased : ∀ j, lock.holder (lock.tryAcquireOrRenew system.lease i system.now).2 = some j →
        lock.renewed (lock.tryAcquireOrRenew system.lease i system.now).2 ≤ history.since := by
      intro j isHolder
      rw [holder] at isHolder
      rw [renewed]
      exact kept.renewed j isHolder
    refine ⟨leased, ?_⟩
    by_cases same : i = standby
    · subst same
      simp only [Function.update_self]
      by_cases inAcquire : InAcquire next
      · obtain ⟨sent, isNext⟩ := own rfl inAcquire
        have before := kept.onTime
        -- The attempt was refused, so a holder has renewed within the time to live.
        have taken : ¬ (lock.holder system.lease = some i ∨ lock.holder system.lease = none ∨
            lock.renewed system.lease + leaseTtl ≤ system.now) := by
          rw [← documented.acquired_iff, acquired]
          exact Bool.false_ne_true
        obtain ⟨j, isHolder⟩ := Option.ne_none_iff_exists'.mp (fun none => taken (.inr (.inl none)))
        have recent := kept.renewed j isHolder
        have unexpired : system.now < lock.renewed system.lease + leaseTtl :=
          Nat.lt_of_not_le (fun expired => taken (.inr (.inr expired)))
        simp only [sent, OnTime] at before
        simp only [isNext, OnTime, History.afterAttempt, Bool.false_eq_true, if_false,
          History.limit]
        simp only at recent
        omega
      · exact on_time_left delay _ _ next inAcquire
    · simp only [Function.update_of_ne (Ne.symm same)]
      exact kept.onTime

/-- A served step-down. -/
theorem kept_step_down (system : System σ ι) (history : History) (i : ι) (next : Replica)
    (kept : Kept lock standby delay (system, history)) (left : ¬ InAcquire next) :
    Kept lock standby delay ({ system with
        lease := lock.stepDown system.lease i system.now
        replicas := Function.update system.replicas i next }, history) := by
  constructor
  · intro j holder
    by_cases own : lock.holder system.lease = some i
    · have cleared := documented.cleared system.lease i system.now own
      simp only [cleared] at holder
      cases holder
    · obtain ⟨sameHolder, renewed⟩ := documented.kept system.lease i system.now own
      simp only [sameHolder] at holder
      simp only [renewed]
      exact kept.renewed j holder
  · by_cases same : i = standby
    · subst same
      simp only [Function.update_self]
      exact on_time_left delay _ _ next left
    · simp only [Function.update_of_ne (Ne.symm same)]
      exact kept.onTime

theorem kept_step :
    Preserves (observed (step lock) (record lock standby)) (Prompt standby delay)
      (Kept lock standby delay) := by
  apply preserves_observed
  intro system after history event kept prompt moved
  cases event with
  | pass duration =>
    cases moved
    refine ⟨kept.renewed, ?_⟩
    have before := kept.onTime
    change OnTime delay (system.now + duration) history (system.replicas standby)
    cases phase : system.replicas standby with
    | attempting attempt =>
      simp only [Prompt, phase] at prompt
      simp only [phase] at before
      cases attempt <;> simp only [OnTime] at before ⊢ <;> omega
    | waiting wake =>
      simp only [Prompt, phase] at prompt
      simp only [phase, OnTime] at before ⊢
      omega
    | _ => trivial
  | replica i event =>
    obtain ⟨next, stepped, same⟩ := Option.map_eq_some_iff.mp moved
    subst same
    by_cases own : i = standby
    · subst own
      obtain ⟨later, onTime⟩ :=
        on_time_own delay system.now history _ next event kept.onTime stepped
      simp only [record, if_true]
      refine ⟨fun j holder => Nat.le_trans (kept.renewed j holder) later, ?_⟩
      simp only [Function.update_self]
      exact onTime
    · simp only [record, if_neg own]
      refine ⟨kept.renewed, ?_⟩
      simp only [Function.update_of_ne (Ne.symm own)]
      exact kept.onTime
  | server i request =>
    obtain ⟨⟨lease, next⟩, served, same⟩ := Option.map_eq_some_iff.mp moved
    subst same
    have calls := served_in_acquire lock system.now system.lease lease i _ next request served
    have calling := LeaderExclusion.serve_cases lock system.now system.lease lease i _ next request
      served
    rcases calling with ⟨attempts, isLease, -⟩ | ⟨stepsDown, isLease, -⟩
    · subst isLease
      have keptAttempt := kept_attempt lock standby delay documented system history i next kept
        (fun _ inAcquire => (calls inAcquire).2)
      rcases attempts with rfl | rfl <;> exact keptAttempt
    · subst isLease
      have left : ¬ InAcquire next := by
        intro inAcquire
        obtain ⟨rfl, -⟩ := calls inAcquire
        rcases stepsDown with isAcquire | isAcquire <;> cases isAcquire
      have keptStepDown := kept_step_down lock standby delay documented system history i next kept
        left
      rcases stepsDown with rfl | rfl <;> exact keptStepDown

/-- A standby takes over. In any run from the launch of the replicas, whatever the others do,
let one replica be prompt. As long as it is in `acquire`, no more than the time to live, one
pause and the delays have passed since the last success of any replica, or since its own
launch, and one more pause for each of its attempts that failed since. So when the leader is
gone, the lease has a holder again by then. -/
theorem standby_takes_over (initial last : System σ ι) (history : History) (events : List (Event ι))
    (launched : Initial initial)
    (ran : run (observed (step lock) (record lock standby))
      (initial, ⟨lock.renewed initial.lease, 0, 0⟩) events = some (last, history))
    (prompt : Meets (observed (step lock) (record lock standby)) (Prompt standby delay)
      (initial, ⟨lock.renewed initial.lease, 0, 0⟩) events)
    (inAcquire : InAcquire (last.replicas standby)) :
    last.now ≤ history.since + leaseTtl +
      (history.failed + 1) * (renewInterval + 2 * delay) + delay := by
  have initially : Kept lock standby delay (initial, ⟨lock.renewed initial.lease, 0, 0⟩) := by
    refine ⟨fun j holder => Nat.le_refl _, ?_⟩
    change OnTime delay initial.now _ (initial.replicas standby)
    rw [launched standby]
    trivial
  have kept := run_keeps (observed (step lock) (record lock standby)) (Prompt standby delay)
    (Kept lock standby delay) (kept_step lock standby delay documented) _ _ events initially prompt
    ran
  have bound := on_time_bound delay last.now history _ kept.onTime inAcquire
  rw [Nat.add_mul, Nat.one_mul]
  simp only [History.limit, turnaround] at bound
  omega

end

/-! ## A leader that crashes -/

instance : DecidablePred InAcquire := fun replica =>
  match replica with
  | .attempting _ | .waiting _ => isTrue trivial
  | .exited | .initializing _ | .backingOff _ _ | .spawned _ _ => isFalse id

instance (standby : Bool) (delay : Nat) (pair : System LeaderExclusion.Lease Bool × History)
    (event : Event Bool) : Decidable (Prompt standby delay pair event) :=
  match event with
  | .pass duration =>
    match phase : pair.1.replicas standby with
    | .attempting _ =>
      @decidable_of_iff _ (pair.1.now + duration ≤ pair.2.began + delay)
        (by simp only [Prompt, phase]) (Nat.decLe _ _)
    | .waiting wake =>
      @decidable_of_iff _ (pair.1.now + duration ≤ wake + delay) (by simp only [Prompt, phase])
        (Nat.decLe _ _)
    | .exited | .initializing _ | .backingOff _ _ | .spawned _ _ =>
      isTrue (by simp only [Prompt, phase])
  | .replica _ _ | .server _ _ => isTrue trivial

/-- The leader crashes right after its success, and the standby is refused three times. -/
def crashedLeader : List (Event Bool) :=
  [.replica true .launch, .server true .acquire, .replica true .acquireAnswered,
    .replica true .exit, .replica false .launch, .server false .acquire, .replica false .acquireAnswered,
    .pass renewInterval, .replica false .retry, .server false .acquire,
    .replica false .acquireAnswered, .pass renewInterval, .replica false .retry,
    .server false .acquire, .replica false .acquireAnswered, .pass renewInterval]

theorem standby_takes_over_sample :
    ∃ last history, run (observed (step LeaderExclusion.sampleLock)
          (record LeaderExclusion.sampleLock false))
        (LeaderExclusion.sampleStart, ⟨0, 0, 0⟩) crashedLeader = some (last, history) ∧
      history.since = 0 ∧ history.failed = 0 ∧ InAcquire (last.replicas false) ∧
      last.now ≤ history.since + leaseTtl + (history.failed + 1) * (renewInterval + 2 * 0) + 0 := by
  have ran : (run (observed (step LeaderExclusion.sampleLock)
        (record LeaderExclusion.sampleLock false))
      (LeaderExclusion.sampleStart, ⟨0, 0, 0⟩) crashedLeader).map
        (fun pair => (pair.2.since, pair.2.failed, decide (InAcquire (pair.1.replicas false)))) =
          some (0, 0, true) := by
    decide +kernel
  have prompt : Meets (observed (step LeaderExclusion.sampleLock)
      (record LeaderExclusion.sampleLock false)) (Prompt false 0)
      (LeaderExclusion.sampleStart, ⟨0, 0, 0⟩) crashedLeader := by
    decide +kernel
  obtain ⟨⟨last, history⟩, ended, same⟩ := Option.map_eq_some_iff.mp ran
  obtain ⟨since, rest⟩ := Prod.mk.inj same
  obtain ⟨failed, waits⟩ := Prod.mk.inj rest
  have inAcquire := of_decide_eq_true waits
  exact ⟨last, history, ended, since, failed, inAcquire,
    standby_takes_over LeaderExclusion.sampleLock false 0 LeaderExclusion.sample_documented
      LeaderExclusion.sampleStart last history crashedLeader (fun _ => rfl) ended prompt inAcquire⟩

end VaultwardenOperator.Takeover
