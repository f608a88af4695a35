import VaultwardenOperator.Machine
import VaultwardenOperator.Rust
import Mathlib.Logic.Function.Basic

/-!
# Leader election

Replicas of the operator contend for a lease. A replica that has acquired it
initialises its vault client, and only then spawns the renewal task and starts
its controller. The lease library is a parameter; of its calls the model knows
when they are sent, when the server serves them, and when their answer or an
error arrives, with any time in between.

Holder identities are distinct between replicas. A replica that has exited may
be launched again under its old identity.
-/

namespace VaultwardenOperator.Leader

open Rust Machine

/-- How long until an unrenewed lease expires. -/
def leaseTtl : Nat := 15 * secondNs

/-- How often the leader renews the lease. -/
def renewInterval : Nat := 5 * secondNs

/-- `error_threshold`: the errors in a row after which a leader gives up. -/
def errorThreshold : Nat := max (leaseTtl / secondNs / (renewInterval / secondNs)) 2

/-- The attempts of `initialize_vault_client`. -/
def maxRetries : Nat := 3

/-- The back-off before an attempt. -/
def backoff (attempt : Nat) : Nat := attempt * attempt * 5 * secondNs

/-! ## The lease library -/

/-- The lease library over a server that stores leases as `σ`: what it does for a
candidate at a time, and what a stored lease says. -/
structure LeaseLock (σ ι : Type) where
  tryAcquireOrRenew : σ → ι → Nat → Bool × σ
  stepDown : σ → ι → Nat → σ
  holder : σ → Option ι
  renewed : σ → Nat

/-- The documented behaviour of the library. An attempt succeeds exactly for the
holder, for a lease without holder, and for an expired one; stepping down
clears the holder that steps down. -/
structure LeaseLock.Documented {σ ι : Type} (lock : LeaseLock σ ι) : Prop where
  acquired_iff : ∀ lease i now, (lock.tryAcquireOrRenew lease i now).1 = true ↔
    lock.holder lease = some i ∨ lock.holder lease = none ∨ lock.renewed lease + leaseTtl ≤ now
  acquired : ∀ lease i now, (lock.tryAcquireOrRenew lease i now).1 = true →
    lock.holder (lock.tryAcquireOrRenew lease i now).2 = some i ∧
      lock.renewed (lock.tryAcquireOrRenew lease i now).2 = now
  refused : ∀ lease i now, (lock.tryAcquireOrRenew lease i now).1 = false →
    lock.holder (lock.tryAcquireOrRenew lease i now).2 = lock.holder lease ∧
      lock.renewed (lock.tryAcquireOrRenew lease i now).2 = lock.renewed lease
  cleared : ∀ lease i now, lock.holder lease = some i →
    lock.holder (lock.stepDown lease i now) = none
  kept : ∀ lease i now, lock.holder lease ≠ some i →
    lock.holder (lock.stepDown lease i now) = lock.holder lease ∧
      lock.renewed (lock.stepDown lease i now) = lock.renewed lease

/-! ## Replicas -/

/-- A call of `try_acquire_or_renew`: on its way, or served and not yet answered. -/
inductive Attempt where
  | sent
  | served (acquired : Bool)
deriving DecidableEq

/-- Where the task of `keep_renewing` is. -/
inductive Renewal where
  | sleeping (wake consecutiveErrors : Nat)
  | renewing (attempt : Attempt) (consecutiveErrors : Nat)
  | steppingDown (served : Bool)
  | returned
deriving DecidableEq

/-- Where `main` is once it has spawned the renewal task: running the controller, letting
it finish after a shutdown signal, or in the last `step_down`. -/
inductive Phase where
  | controlling
  | draining
  | leaving (served : Bool)
deriving DecidableEq

/-- One replica: in `acquire`, in `initialize_vault_client`, or with its renewal task. -/
inductive Replica where
  | exited
  | attempting (attempt : Attempt)
  | waiting (wake : Nat)
  | initializing (attempt : Nat)
  | backingOff (wake attempt : Nat)
  | spawned (phase : Phase) (renewal : Renewal)
deriving DecidableEq

/-- What happens inside a replica. -/
inductive ReplicaEvent where
  | launch
  | acquireAnswered
  | acquireFailed
  | retry
  | initialized
  | initFailed
  | backoffOver
  | renew
  | renewalAnswered
  | renewalFailed
  | renewalReturned
  | signalled
  | leadershipLost
  | controllerStopped
  | exit
deriving DecidableEq

/-- One step inside a replica. -/
def replicaStep (now : Nat) (replica : Replica) : ReplicaEvent → Option Replica
  | .launch =>
    match replica with
    | .exited => some (.attempting .sent)
    | _ => none
  | .acquireAnswered =>
    match replica with
    | .attempting (.served true) => some (.initializing 1)
    | .attempting (.served false) => some (.waiting (now + renewInterval))
    | _ => none
  | .acquireFailed =>
    match replica with
    | .attempting _ => some (.waiting (now + renewInterval))
    | _ => none
  | .retry =>
    match replica with
    | .waiting wake => if wake ≤ now then some (.attempting .sent) else none
    | _ => none
  | .initialized =>
    -- The renewal task sleeps before its first renewal; the controller starts at once.
    match replica with
    | .initializing _ => some (.spawned .controlling (.sleeping (now + renewInterval) 0))
    | _ => none
  | .initFailed =>
    match replica with
    | .initializing attempt =>
      if attempt = maxRetries then some .exited
      else some (.backingOff (now + backoff (attempt + 1)) (attempt + 1))
    | _ => none
  | .backoffOver =>
    match replica with
    | .backingOff wake attempt => if wake ≤ now then some (.initializing attempt) else none
    | _ => none
  | .renew =>
    match replica with
    | .spawned phase (.sleeping wake errors) =>
      if wake ≤ now then some (.spawned phase (.renewing .sent errors)) else none
    | _ => none
  | .renewalAnswered =>
    match replica with
    | .spawned phase (.renewing (.served true) _) =>
      some (.spawned phase (.sleeping (now + renewInterval) 0))
    | .spawned phase (.renewing (.served false) _) => some (.spawned phase (.steppingDown false))
    | _ => none
  | .renewalFailed =>
    match replica with
    | .spawned phase (.renewing _ errors) =>
      if errorThreshold ≤ errors + 1 then some (.spawned phase (.steppingDown false))
      else some (.spawned phase (.sleeping (now + renewInterval) (errors + 1)))
    | _ => none
  | .renewalReturned =>
    -- An error of `step_down` is logged, and no more.
    match replica with
    | .spawned phase (.steppingDown _) => some (.spawned phase .returned)
    | _ => none
  | .signalled =>
    match replica with
    | .spawned .controlling renewal => some (.spawned .draining renewal)
    | _ => none
  | .leadershipLost =>
    match replica with
    | .spawned .controlling .returned => some (.spawned .draining .returned)
    | _ => none
  | .controllerStopped =>
    match replica with
    | .spawned .draining renewal => some (.spawned (.leaving false) renewal)
    | _ => none
  | .exit => some .exited

/-! ## The system -/

/-- The calls that the server serves: the attempts of `acquire` and of `keep_renewing`,
and the step-down at the end of each of `keep_renewing` and `main`. -/
inductive Request where
  | acquire
  | renewal
  | stepDown
  | lastStepDown
deriving DecidableEq

structure System (σ ι : Type) where
  now : Nat
  lease : σ
  replicas : ι → Replica

inductive Event (ι : Type) where
  | pass (duration : Nat)
  | replica (i : ι) (event : ReplicaEvent)
  | server (i : ι) (request : Request)

section
variable {σ ι : Type} [DecidableEq ι] (lock : LeaseLock σ ι)

/-- A replica and the lease after a call of the replica is served. -/
def serve (now : Nat) (lease : σ) (i : ι) (replica : Replica) : Request → Option (σ × Replica)
  | .acquire =>
    match replica with
    | .attempting .sent =>
      let (acquired, next) := lock.tryAcquireOrRenew lease i now
      some (next, .attempting (.served acquired))
    | _ => none
  | .renewal =>
    match replica with
    | .spawned phase (.renewing .sent errors) =>
      let (acquired, next) := lock.tryAcquireOrRenew lease i now
      some (next, .spawned phase (.renewing (.served acquired) errors))
    | _ => none
  | .stepDown =>
    match replica with
    | .spawned phase (.steppingDown false) =>
      some (lock.stepDown lease i now, .spawned phase (.steppingDown true))
    | _ => none
  | .lastStepDown =>
    match replica with
    | .spawned (.leaving false) renewal =>
      some (lock.stepDown lease i now, .spawned (.leaving true) renewal)
    | _ => none

/-- One step of the system. -/
def step : Step (System σ ι) (Event ι) := fun system event =>
  match event with
  | .pass duration => some { system with now := system.now + duration }
  | .replica i event =>
    (replicaStep system.now (system.replicas i) event).map fun next =>
      { system with replicas := Function.update system.replicas i next }
  | .server i request =>
    (serve lock system.now system.lease i (system.replicas i) request).map fun (lease, next) =>
      { system with lease, replicas := Function.update system.replicas i next }

end

/-- The controller is started, running, or finishing its reconciles. -/
def Phase.controls : Phase → Bool
  | .controlling | .draining => true
  | .leaving _ => false

def Replica.Running : Replica → Prop
  | .spawned phase _ => phase.controls = true
  | _ => False

instance : DecidablePred Replica.Running := fun replica =>
  match replica with
  | .spawned phase _ => inferInstanceAs (Decidable (phase.controls = true))
  | .exited | .attempting _ | .waiting _ | .initializing _ | .backingOff _ _ => isFalse id

/-- No replica has been launched. The lease is what earlier replicas left. -/
def Initial {σ ι : Type} (system : System σ ι) : Prop :=
  ∀ i, system.replicas i = .exited

end VaultwardenOperator.Leader
