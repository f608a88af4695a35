import VaultwardenOperator.Leader

/-!
# The margin of a leader

`keep_renewing` sleeps, calls the lease library, and gives up after three errors in a row.
A call takes any time. The lease counts from the moment at which the server renews it,
within the call; a call that fails does not renew it.

The sleeps before three calls are as long as the lease lives, so a leader never gives up
in time: an error that ends the loop comes a full time to live after the last success, or
later. A lease is kept alive exactly by calls that renew it in what the sleeps leave over.
-/

namespace VaultwardenOperator.LeaseMargin

open Rust Machine Leader

/-- A call of `try_acquire_or_renew`. One that renews takes a time until the server does,
and a time from there until the answer. -/
inductive Call where
  | renewed (sent answered : Nat)
  | lost (duration : Nat)
  | failed (duration : Nat)
deriving DecidableEq

/-- Why the loop ends. -/
inductive Ending where
  | lost
  | errors
deriving DecidableEq

/-- The loop before a sleep: the errors in a row, and when the last success renewed the
lease and was completed. -/
structure Loop where
  now : Nat
  consecutiveErrors : Nat
  renewed : Nat
  completed : Nat
deriving DecidableEq

/-- The loop at the completion of a success. -/
def Loop.renewedAt (renewed answered : Nat) : Loop :=
  ⟨renewed + answered, 0, renewed, renewed + answered⟩

/-- One turn of the loop. -/
def turn (loop : Loop) : Call → Loop × Option Ending
  | .renewed sent answered =>
    (Loop.renewedAt (loop.now + renewInterval + sent) answered, none)
  | .lost duration => ({ loop with now := loop.now + renewInterval + duration }, some .lost)
  | .failed duration =>
    let loop := { loop with
      now := loop.now + renewInterval + duration
      consecutiveErrors := loop.consecutiveErrors + 1 }
    (loop, if errorThreshold ≤ loop.consecutiveErrors then some .errors else none)

/-- `keep_renewing` up to its end, or through the calls so far. -/
def keepRenewing : Loop → List Call → Loop × Option Ending
  | loop, [] => (loop, none)
  | loop, call :: rest =>
    match turn loop call with
    | (next, none) => keepRenewing next rest
    | ended => ended

/-- When the lease that is in force at a moment of a turn was renewed. A renewal counts
after its moment. -/
def inForce (loop : Loop) (call : Call) (moment : Nat) : Nat :=
  match call with
  | .renewed sent _ =>
    if moment ≤ loop.now + renewInterval + sent then loop.renewed
    else loop.now + renewInterval + sent
  | .lost _ => loop.renewed
  | .failed _ => loop.renewed

/-- The moments of a turn, from its sleep on: that of the answer is one of them if the loop
goes on, and not if the loop ends with it. -/
def Within (loop : Loop) (call : Call) (moment : Nat) : Prop :=
  loop.now ≤ moment ∧
    match turn loop call with
    | (next, none) => moment ≤ next.now
    | (last, some _) => moment < last.now

/-- The lease is unexpired at every moment of a turn. -/
def TurnCovered (loop : Loop) (call : Call) : Prop :=
  ∀ moment, Within loop call moment → moment < inForce loop call moment + leaseTtl

/-- The lease is unexpired at every moment before the loop ends. -/
def Covered : Loop → List Call → Prop
  | loop, [] => loop.now < loop.renewed + leaseTtl
  | loop, call :: rest =>
    TurnCovered loop call ∧
      match turn loop call with
      | (next, none) => Covered next rest
      | (_, some _) => True

/-- A leader gives up before its lease can be taken. -/
structure InMargin (loop : Loop) (calls : List Call) : Prop where
  covered : Covered loop calls
  givesUp : ∀ last, keepRenewing loop calls = (last, some .errors) →
    last.now < last.completed + leaseTtl

/-- What the sleeps leave of the time to live for the call after some errors in a row and
for those errors. -/
def slack (errors : Nat) : Nat := leaseTtl - (errors + 1) * renewInterval

example : slack 0 = 10 * secondNs ∧ slack 1 = 5 * secondNs ∧ slack 2 = 0 := by decide

/-- The calls are in time. Some time is spent already, on the answer of the last success
and on the errors since. The answer that the lease is lost may come at its last moment. -/
def InTime : Nat → Nat → List Call → Prop
  | _, _, [] => True
  | spent, errors, .renewed sent answered :: rest =>
    spent + sent < slack errors ∧ answered < leaseTtl ∧ InTime answered 0 rest
  | spent, errors, .lost duration :: _ => spent + duration ≤ slack errors
  | spent, errors, .failed duration :: rest =>
    spent + duration < slack errors ∧ InTime (spent + duration) (errors + 1) rest

/-! ## Giving up -/

/-- Every sleep before an error adds to the time since the last success. -/
def Slept (loop : Loop) : Prop :=
  loop.completed + loop.consecutiveErrors * renewInterval ≤ loop.now

theorem turn_slept (loop : Loop) (call : Call) (slept : Slept loop) : Slept (turn loop call).1 := by
  unfold Slept at slept ⊢
  cases call with
  | renewed sent answered => simp [turn, Loop.renewedAt]
  | lost duration =>
    dsimp only [turn]
    omega
  | failed duration =>
    dsimp only [turn]
    rw [Nat.add_mul]
    omega

/-- A turn gives up after as many errors as the time to live has sleeps. -/
theorem turn_gives_up (loop last : Loop) (call : Call)
    (ended : turn loop call = (last, some .errors)) : errorThreshold ≤ last.consecutiveErrors := by
  cases call with
  | renewed sent answered => cases ended
  | lost duration => cases ended
  | failed duration =>
    by_cases many : errorThreshold ≤ loop.consecutiveErrors + 1
    · simp only [turn, many, if_true] at ended
      cases ended
      exact many
    · simp only [turn, many, if_false] at ended
      cases ended

/-- A leader never gives up in time: when errors end the loop, the whole time to live has
passed since the last success. -/
theorem gives_up_late (loop last : Loop) (calls : List Call) (slept : Slept loop)
    (ended : keepRenewing loop calls = (last, some .errors)) :
    last.completed + leaseTtl ≤ last.now := by
  induction calls generalizing loop with
  | nil => cases ended
  | cons call rest inductionHypothesis =>
    have still : Slept (turn loop call).1 := turn_slept loop call slept
    cases turned : turn loop call with
    | mk next ending =>
      rw [turned] at still
      cases ending with
      | none =>
        simp only [keepRenewing, turned] at ended
        exact inductionHypothesis next still ended
      | some ending =>
        simp only [keepRenewing, turned] at ended
        cases ended
        have many := turn_gives_up loop last call turned
        have whole : errorThreshold * renewInterval = leaseTtl := by decide
        have sleeps : errorThreshold * renewInterval ≤ last.consecutiveErrors * renewInterval :=
          Nat.mul_le_mul_right _ many
        have passed : last.completed + last.consecutiveErrors * renewInterval ≤ last.now := still
        omega

/-! ## Being in time -/

/-- What a call may take after some errors in a row. -/
theorem slack_iff (spent errors : Nat) :
    spent < slack errors ↔ spent + (errors + 1) * renewInterval < leaseTtl := by
  unfold slack
  omega

/-- As long as the loop goes on the sleeps fit into the time to live. -/
theorem slack_le_iff (spent errors : Nat) (few : errors < errorThreshold) :
    spent ≤ slack errors ↔ spent + (errors + 1) * renewInterval ≤ leaseTtl := by
  have whole : leaseTtl = errorThreshold * renewInterval := by decide
  have sleeps : (errors + 1) * renewInterval ≤ leaseTtl := by
    rw [whole]
    exact Nat.mul_le_mul_right _ few
  unfold slack
  omega

/-- Only two errors leave slack for another call. -/
theorem slack_few (spent errors : Nat) (inTime : spent < slack errors) :
    errors + 1 < errorThreshold := by
  have whole : leaseTtl = errorThreshold * renewInterval := by decide
  rw [slack_iff, whole] at inTime
  have sleeps : (errors + 1) * renewInterval < errorThreshold * renewInterval := by omega
  exact Nat.lt_of_mul_lt_mul_right sleeps

/-- The first errors do not end the loop. -/
theorem failed_goes_on (loop : Loop) (duration : Nat)
    (few : loop.consecutiveErrors + 1 < errorThreshold) :
    turn loop (.failed duration) =
      ({ loop with
          now := loop.now + renewInterval + duration
          consecutiveErrors := loop.consecutiveErrors + 1 }, none) := by
  simp only [turn, Nat.not_le.mpr few, if_false]

/-- A turn that renews is covered if the server renews in time, and the answer comes within
the time to live. -/
theorem renewed_covered_iff (loop : Loop) (sent answered : Nat) :
    TurnCovered loop (.renewed sent answered) ↔
      loop.now + renewInterval + sent < loop.renewed + leaseTtl ∧ answered < leaseTtl := by
  have alive : 0 < leaseTtl := by decide
  constructor
  · intro covered
    have renewing := covered (loop.now + renewInterval + sent)
      ⟨by omega, by dsimp only [turn, Loop.renewedAt]; omega⟩
    simp only [inForce, le_refl, if_true] at renewing
    have answering := covered (loop.now + renewInterval + sent + answered) ⟨by omega, le_refl _⟩
    refine ⟨renewing, ?_⟩
    unfold inForce at answering
    dsimp only at answering
    split_ifs at answering <;> omega
  · rintro ⟨inTime, answers⟩ moment ⟨-, upTo⟩
    dsimp only [turn, Loop.renewedAt] at upTo
    unfold inForce
    dsimp only
    split_ifs <;> omega

/-- A turn that loses the lease is covered if the lease lasts until its end. -/
theorem lost_covered_iff (loop : Loop) (duration : Nat) :
    TurnCovered loop (.lost duration) ↔
      loop.now + renewInterval + duration ≤ loop.renewed + leaseTtl := by
  have sleeps : 0 < renewInterval := by decide
  constructor
  · intro covered
    have before := covered (loop.now + renewInterval + duration - 1)
      ⟨by omega, by dsimp only [turn]; omega⟩
    dsimp only [inForce] at before
    omega
  · rintro inTime moment ⟨-, upTo⟩
    exact lt_of_lt_of_le upTo inTime

/-- A turn that fails and goes on is covered if it ends before the lease does. -/
theorem failed_covered_iff (loop : Loop) (duration : Nat)
    (few : loop.consecutiveErrors + 1 < errorThreshold) :
    TurnCovered loop (.failed duration) ↔
      loop.now + renewInterval + duration < loop.renewed + leaseTtl := by
  unfold TurnCovered Within
  rw [failed_goes_on loop duration few]
  constructor
  · intro covered
    exact covered _ ⟨by omega, le_refl _⟩
  · rintro inTime moment ⟨-, upTo⟩
    exact lt_of_le_of_lt upTo inTime

/-- The margin of a loop that goes on is that of its turn and that of the rest. -/
theorem in_margin_cons (loop next : Loop) (call : Call) (rest : List Call)
    (turned : turn loop call = (next, none)) :
    InMargin loop (call :: rest) ↔ TurnCovered loop call ∧ InMargin next rest := by
  have covered : Covered loop (call :: rest) ↔ TurnCovered loop call ∧ Covered next rest := by
    simp only [Covered, turned]
  have continued : keepRenewing loop (call :: rest) = keepRenewing next rest := by
    simp only [keepRenewing, turned]
  constructor
  · rintro ⟨all, givesUp⟩
    rw [continued] at givesUp
    exact ⟨(covered.mp all).1, (covered.mp all).2, givesUp⟩
  · rintro ⟨first, ⟨later, givesUp⟩⟩
    exact ⟨covered.mpr ⟨first, later⟩, by rw [continued]; exact givesUp⟩

theorem in_margin_lost (loop : Loop) (duration : Nat) (rest : List Call) :
    InMargin loop (.lost duration :: rest) ↔ TurnCovered loop (.lost duration) := by
  constructor
  · rintro ⟨⟨covered, -⟩, -⟩
    exact covered
  · intro covered
    refine ⟨⟨covered, trivial⟩, fun last ended => ?_⟩
    cases ended

/-- A loop that is ended by an error is out of its margin. -/
theorem out_of_margin (loop : Loop) (duration : Nat) (rest : List Call) (slept : Slept loop)
    (many : errorThreshold ≤ loop.consecutiveErrors + 1) :
    ¬ InMargin loop (.failed duration :: rest) := by
  rintro ⟨-, givesUp⟩
  have ended : keepRenewing loop (.failed duration :: rest) =
      ({ loop with
          now := loop.now + renewInterval + duration
          consecutiveErrors := loop.consecutiveErrors + 1 }, some .errors) := by
    simp only [keepRenewing, turn, many, if_true]
  have late := gives_up_late loop _ _ slept ended
  have early := givesUp _ ended
  exact absurd early (Nat.not_lt.mpr late)

/-- A loop before a sleep, a time after the renewal of its lease that the calls have spent
beside the sleeps. The lease is unexpired. -/
structure Aged (loop : Loop) (spent : Nat) : Prop where
  age : loop.now = loop.renewed + spent + loop.consecutiveErrors * renewInterval
  slept : Slept loop
  few : loop.consecutiveErrors < errorThreshold
  fresh : loop.now < loop.renewed + leaseTtl

theorem aged_renewed (renewed answered : Nat) (inTime : answered < leaseTtl) :
    Aged (.renewedAt renewed answered) answered where
  age := by simp [Loop.renewedAt]
  slept := by simp [Slept, Loop.renewedAt]
  few := by
    dsimp only [Loop.renewedAt]
    decide
  fresh := Nat.add_lt_add_left inTime renewed

/-- A wait that ends before the lease does is within the slack. -/
theorem wait_iff (loop : Loop) (spent wait : Nat) (aged : Aged loop spent) :
    loop.now + renewInterval + wait < loop.renewed + leaseTtl ↔
      spent + wait < slack loop.consecutiveErrors := by
  rw [slack_iff, Nat.add_mul, aged.age]
  omega

theorem wait_le_iff (loop : Loop) (spent wait : Nat) (aged : Aged loop spent) :
    loop.now + renewInterval + wait ≤ loop.renewed + leaseTtl ↔
      spent + wait ≤ slack loop.consecutiveErrors := by
  rw [slack_le_iff _ _ aged.few, Nat.add_mul, aged.age]
  omega

/-- The lease has aged by one more sleep and the call. -/
theorem aged_failed (loop : Loop) (spent duration : Nat) (aged : Aged loop spent)
    (inTime : spent + duration < slack loop.consecutiveErrors) :
    Aged (turn loop (.failed duration)).1 (spent + duration) where
  age := by
    have age := aged.age
    dsimp only [turn]
    rw [Nat.add_mul]
    omega
  slept := turn_slept loop _ aged.slept
  few := slack_few _ _ inTime
  fresh := (wait_iff loop spent duration aged).mpr inTime

/-- A leader with an unexpired lease is in its margin if and only if the calls are in
time. -/
theorem margin_iff (loop : Loop) (spent : Nat) (calls : List Call) (aged : Aged loop spent) :
    InMargin loop calls ↔ InTime spent loop.consecutiveErrors calls := by
  induction calls generalizing loop spent with
  | nil => exact iff_of_true ⟨aged.fresh, nofun⟩ trivial
  | cons call rest inductionHypothesis =>
    cases call with
    | renewed sent answered =>
      rw [in_margin_cons loop _ _ rest rfl, renewed_covered_iff, wait_iff loop spent sent aged,
        and_assoc]
      refine and_congr_right (fun _ => and_congr_right (fun inTime => ?_))
      exact inductionHypothesis _ answered (aged_renewed _ answered inTime)
    | lost duration =>
      rw [in_margin_lost, lost_covered_iff, wait_le_iff loop spent duration aged]
      rfl
    | failed duration =>
      by_cases few : loop.consecutiveErrors + 1 < errorThreshold
      · rw [in_margin_cons loop _ _ rest (failed_goes_on loop duration few),
          failed_covered_iff loop duration few, wait_iff loop spent duration aged]
        refine and_congr_right (fun inTime => ?_)
        have later := aged_failed loop spent duration aged inTime
        rw [failed_goes_on loop duration few] at later
        exact inductionHypothesis _ (spent + duration) later
      · -- no time is left for the error that ends the loop
        refine iff_of_false (out_of_margin loop duration rest aged.slept (Nat.not_lt.mp few)) ?_
        rintro ⟨inTime, -⟩
        exact few (slack_few _ _ inTime)

/-- The margin starts with an unexpired lease. -/
theorem margin_fresh (loop : Loop) (calls : List Call) (margin : InMargin loop calls) :
    loop.now < loop.renewed + leaseTtl := by
  have sleeps : 0 < renewInterval := by decide
  cases calls with
  | nil => exact margin.covered
  | cons call rest =>
    have covered : TurnCovered loop call := margin.covered.1
    have early : Within loop call loop.now := by
      refine ⟨le_refl _, ?_⟩
      cases call with
      | renewed sent answered =>
        dsimp only [turn, Loop.renewedAt]
        omega
      | lost duration =>
        dsimp only [turn]
        omega
      | failed duration =>
        by_cases many : errorThreshold ≤ loop.consecutiveErrors + 1
        · simp only [turn, many, if_true]
          omega
        · simp only [turn, many, if_false]
          omega
    have unexpired := covered loop.now early
    unfold inForce at unexpired
    split at unexpired
    · split_ifs at unexpired <;> omega
    · exact unexpired
    · exact unexpired

/-- From the completion of a success, whatever the calls come to and take: a leader gives up
before its lease can be taken if and only if the calls are in time. -/
theorem in_margin_iff (renewed answered : Nat) (calls : List Call) :
    InMargin (.renewedAt renewed answered) calls ↔
      answered < leaseTtl ∧ InTime answered 0 calls := by
  constructor
  · intro margin
    have fresh := margin_fresh _ calls margin
    dsimp only [Loop.renewedAt] at fresh
    have inTime : answered < leaseTtl := by omega
    exact ⟨inTime, (margin_iff _ answered calls (aged_renewed renewed answered inTime)).mp margin⟩
  · rintro ⟨fresh, inTime⟩
    exact (margin_iff _ answered calls (aged_renewed renewed answered fresh)).mpr inTime

/-- The third of three errors that take no time comes a whole time to live after the last
success. -/
theorem third_error_late :
    keepRenewing (.renewedAt 0 0) [.failed 0, .failed 0, .failed 0] =
        (⟨15 * secondNs, 3, 0, 0⟩, some .errors) ∧
      ¬ InMargin (.renewedAt 0 0) [.failed 0, .failed 0, .failed 0] := by
  have ended : keepRenewing (.renewedAt 0 0) [.failed 0, .failed 0, .failed 0] =
      (⟨15 * secondNs, 3, 0, 0⟩, some .errors) := by decide
  refine ⟨ended, fun margin => ?_⟩
  have inTime : 15 * secondNs < 0 + leaseTtl := margin.givesUp _ ended
  exact absurd inTime (by decide)

/-! ## The renewal task of a replica -/

section
variable {σ ι : Type} [DecidableEq ι] (lock : LeaseLock σ ι) (i : ι)

/-- The steps of a turn in the system of replicas: the sleep, the call, and its end. A call
that fails is not served. -/
def turnEvents : Call → List (Event ι)
  | .renewed sent answered =>
    [.pass renewInterval, .replica i .renew, .pass sent, .server i .renewal, .pass answered,
      .replica i .renewalAnswered]
  | .lost duration =>
    [.pass renewInterval, .replica i .renew, .server i .renewal, .pass duration,
      .replica i .renewalAnswered]
  | .failed duration =>
    [.pass renewInterval, .replica i .renew, .pass duration, .replica i .renewalFailed]

/-- The renewal task where the loop is: in its next sleep, or stepping down. -/
def taskOf (loop : Loop) : Option Ending → Renewal
  | none => .sleeping (loop.now + renewInterval) loop.consecutiveErrors
  | some _ => .steppingDown false

/-- The system is where the loop is. -/
structure Represents (loop : Loop) (ending : Option Ending) (system : System σ ι) : Prop where
  clock : system.now = loop.now
  task : ∃ phase, system.replicas i = .spawned phase (taskOf loop ending)
  renewed : lock.renewed system.lease = loop.renewed

/-- The answer of the lease library to a call that is served. -/
def Answers (loop : Loop) (lease : σ) : Call → Prop
  | .renewed sent _ =>
    (lock.tryAcquireOrRenew lease i (loop.now + renewInterval + sent)).1 = true
  | .lost _ => (lock.tryAcquireOrRenew lease i (loop.now + renewInterval)).1 = false
  | .failed _ => True

variable (documented : lock.Documented)
include documented

/-- A turn of the loop is a run of the system. A holder that does not lose the lease keeps
it. -/
theorem turn_run (loop : Loop) (call : Call) (system : System σ ι)
    (represents : Represents lock i loop none system)
    (answers : Answers lock i loop system.lease call) :
    ∃ next, run (step lock) system (turnEvents i call) = some next ∧
      Represents lock i (turn loop call).1 (turn loop call).2 next ∧
      (lock.holder system.lease = some i → lock.holder next.lease = some i) := by
  obtain ⟨clock, ⟨phase, task⟩, renewed⟩ := represents
  cases call with
  | renewed sent answered =>
    have acquired : (lock.tryAcquireOrRenew system.lease i
        (loop.now + renewInterval + sent)).1 = true := answers
    refine ⟨{
      now := loop.now + renewInterval + sent + answered
      lease := (lock.tryAcquireOrRenew system.lease i (loop.now + renewInterval + sent)).2
      replicas := Function.update system.replicas i (.spawned phase
        (.sleeping (loop.now + renewInterval + sent + answered + renewInterval) 0)) }, ?_,
      ⟨rfl, ⟨phase, Function.update_self i _ _⟩, ?_⟩, fun _ => ?_⟩
    · simp [turnEvents, run, step, replicaStep, serve, task, taskOf, clock, acquired]
    · exact (documented.acquired _ _ _ acquired).2
    · exact (documented.acquired _ _ _ acquired).1
  | lost duration =>
    have refused : (lock.tryAcquireOrRenew system.lease i (loop.now + renewInterval)).1 = false :=
      answers
    refine ⟨{
      now := loop.now + renewInterval + duration
      lease := (lock.tryAcquireOrRenew system.lease i (loop.now + renewInterval)).2
      replicas := Function.update system.replicas i (.spawned phase (.steppingDown false)) }, ?_,
      ⟨rfl, ⟨phase, Function.update_self i _ _⟩, ?_⟩, fun holder => ?_⟩
    · simp [turnEvents, run, step, replicaStep, serve, task, taskOf, clock, refused]
    · rw [(documented.refused _ _ _ refused).2]
      exact renewed
    · rw [(documented.refused _ _ _ refused).1]
      exact holder
  | failed duration =>
    refine ⟨{
      now := loop.now + renewInterval + duration
      lease := system.lease
      replicas := Function.update system.replicas i (.spawned phase
        (taskOf (turn loop (.failed duration)).1 (turn loop (.failed duration)).2)) }, ?_,
      ⟨rfl, ⟨phase, Function.update_self i _ _⟩, renewed⟩, id⟩
    by_cases many : errorThreshold ≤ loop.consecutiveErrors + 1 <;>
      simp [turnEvents, run, step, replicaStep, task, taskOf, clock, turn, many]

omit [DecidableEq ι] in
/-- A holder's attempt succeeds, so that the library answers its calls. -/
theorem holder_answers (loop : Loop) (lease : σ) (call : Call)
    (holder : lock.holder lease = some i) (kept : ∀ duration, call ≠ .lost duration) :
    Answers lock i loop lease call := by
  cases call with
  | renewed sent answered => exact (documented.acquired_iff _ _ _).mpr (.inl holder)
  | lost duration => exact absurd rfl (kept duration)
  | failed duration => trivial

/-- As long as no other candidate takes the lease, the loop is a run of the system, turn by
turn, in which the replica keeps the lease. -/
theorem loop_run (loop last : Loop) (calls : List Call) (ending : Option Ending)
    (system : System σ ι) (represents : Represents lock i loop none system)
    (holder : lock.holder system.lease = some i)
    (kept : ∀ call ∈ calls, ∀ duration, call ≠ .lost duration)
    (ran : keepRenewing loop calls = (last, ending)) :
    ∃ events next, events <+: calls.flatMap (turnEvents i) ∧
      run (step lock) system events = some next ∧ Represents lock i last ending next ∧
      lock.holder next.lease = some i := by
  induction calls generalizing loop system with
  | nil =>
    cases ran
    exact ⟨[], system, List.prefix_refl _, rfl, represents, holder⟩
  | cons call rest inductionHypothesis =>
    obtain ⟨keptFirst, keptRest⟩ := List.forall_mem_cons.mp kept
    obtain ⟨next, turned, representsNext, holderNext⟩ := turn_run lock i documented loop call system
      represents (holder_answers lock i documented loop system.lease call holder keptFirst)
    rw [List.flatMap_cons]
    cases taken : turn loop call with
    | mk after ended =>
      rw [taken] at representsNext
      cases ended with
      | none =>
        simp only [keepRenewing, taken] at ran
        obtain ⟨events, final, isPrefix, continued, representsLast, holderLast⟩ :=
          inductionHypothesis after next representsNext (holderNext holder) keptRest ran
        refine ⟨turnEvents i call ++ events, final, (List.prefix_append_right_inj _).mpr isPrefix,
          ?_, representsLast, holderLast⟩
        rw [run_append _ system next _ events turned]
        exact continued
      | some ended =>
        simp only [keepRenewing, taken] at ran
        cases ran
        exact ⟨turnEvents i call, next, List.prefix_append _ _, turned, representsNext,
          holderNext holder⟩

end

end VaultwardenOperator.LeaseMargin
