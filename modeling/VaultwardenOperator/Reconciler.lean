import VaultwardenOperator.ClientSteps
import VaultwardenOperator.Controller

/-!
# The whole operator

A leader runs any number of reconciles over its one Vaultwarden client. A
reconcile is a state machine over its await points: the call of `fetch_secrets`,
the get, the create or apply of the managed Secret, and the patch of the status.
Its state has all that its next request carries, so the requests a reconcile
makes are those of the states it passes.

The API server may answer every request as it likes, and every answer may come at
any time. Only reconciles call `fetch_secrets`; each has one call, under its own
identity. One object may be reconciled under any number of identities.
-/

namespace VaultwardenOperator.Reconciler

open Rust Machine VaultClient Crd Status Json Controller

/-! ## One reconcile -/

/-- A request to the Kubernetes API. -/
inductive KubeRequest where
  | getSecret (ns name : String)
  | createSecret (body : SecretBody)
  | applySecret (body : SecretBody)
  | patchStatus (ns name : String) (patch : Value)

/-- The namespace and the name of the resource whose status a request patches. -/
def patchedResource : KubeRequest → Option (String × String)
  | .patchStatus ns name _ => some (ns, name)
  | _ => none

/-- A reconcile at its await points. -/
inductive Reconcile where
  | idle
  | fetching (vws : VaultwardenSecret) (interval : Nat)
  | getting (vws : VaultwardenSecret) (interval : Nat) (body : SecretBody)
  | writing (vws : VaultwardenSecret) (interval : Nat) (body : SecretBody) (present : Bool)
  | patching (vws : VaultwardenSecret) (status : VaultwardenSecretStatus) (after : Nat)
  | finished (result : Except ReconcileError Action)
  | crashed

/-- The namespace that a reconcile works in. -/
def namespaceOf (vws : VaultwardenSecret) : String := vws.ns.getD "default"

/-- The request that a reconcile waits for, if it is one to the Kubernetes API. -/
def Reconcile.request : Reconcile → Option KubeRequest
  | .getting vws _ _ => some (.getSecret (namespaceOf vws) vws.name)
  | .writing _ _ body false => some (.createSecret body)
  | .writing _ _ body true => some (.applySecret body)
  | .patching vws status _ => some (.patchStatus (namespaceOf vws) vws.name (statusPatch status))
  | _ => none

/-- `set_failed_status` up to its request. -/
def failing (vws : VaultwardenSecret) (now msg : String) (after : Nat) : Reconcile :=
  .patching vws (setFailedStatus vws.status (vws.generation.getD 0) now msg) after

section
variable (unicode : UnicodeTables)

/-- The steps before `fetch_secrets`, with the requests it is called with. -/
def begun (now : String) (vws : VaultwardenSecret) : Reconcile × Option (List SecretRequest) :=
  match parseSyncInterval unicode vws.spec.syncInterval with
  | .error .panic => (.crashed, none)
  | .error (.err msg) => (failing vws now msg defaultSyncInterval, none)
  | .ok interval =>
    match buildRequests unicode vws.spec with
    | .error .panic => (.crashed, none)
    | .error (.err msg) => (failing vws now msg interval, none)
    | .ok requests => (.fetching vws interval, some requests)

/-- After `fetch_secrets`. -/
def afterFetch (now : String) (vws : VaultwardenSecret) (interval : Nat) :
    Except VaultError (List String) → Reconcile
  | .ok values => .getting vws interval (secretBody vws values)
  | .error error => failing vws now (fetchFailure unicode error) interval

end

/-- After the get: an error leaves through `?`. -/
def afterGet (vws : VaultwardenSecret) (interval : Nat) (body : SecretBody) :
    Except KubeError Bool → Reconcile
  | .ok present => .writing vws interval body present
  | .error error => .finished (.error (.kube error))

/-- After the create or the apply: an error leaves through `?`, else
`set_ready_status` up to its request. -/
def afterWrite (now : String) (vws : VaultwardenSecret) (interval : Nat) :
    Except KubeError Unit → Reconcile
  | .ok () => .patching vws (setReadyStatus vws.status (vws.generation.getD 0) now) interval
  | .error error => .finished (.error (.kube error))

/-- After the patch of the status. -/
def afterPatch (after : Nat) : Except KubeError Unit → Reconcile
  | .ok () => .finished (.ok (.requeue after))
  | .error error => .finished (.error (.kube error))

/-! ## The system -/

structure Operator (ι : Type) where
  client : System ι
  reconciles : ι → Reconcile

/-- A task of the client, or a step of a reconcile: its begin, the return of its call, or
an answer of the API server. Steps that build a status read the time. -/
inductive Event (ι : Type) where
  | client (event : VaultClient.Event ι)
  | start (id : ι) (now : String) (vws : VaultwardenSecret)
  | fetched (id : ι) (now : String)
  | got (id : ι) (answer : Except KubeError Bool)
  | wrote (id : ι) (now : String) (answer : Except KubeError Unit)
  | patched (id : ι) (answer : Except KubeError Unit)

section
variable {RsaPrivateKey : Type} (client : Client RsaPrivateKey) {ι : Type} [DecidableEq ι]

def Operator.withReconcile (operator : Operator ι) (id : ι) (reconcile : Reconcile) :
    Operator ι :=
  { operator with reconciles := Function.update operator.reconciles id reconcile }

@[simp] theorem with_reconcile_self (operator : Operator ι) (id : ι) (reconcile : Reconcile) :
    (operator.withReconcile id reconcile).reconciles id = reconcile := by
  simp [Operator.withReconcile]

@[simp] theorem with_reconcile_other (operator : Operator ι) (id other : ι)
    (reconcile : Reconcile) (distinct : other ≠ id) :
    (operator.withReconcile id reconcile).reconciles other = operator.reconciles other := by
  simp [Operator.withReconcile, distinct]

@[simp] theorem with_reconcile_client (operator : Operator ι) (id : ι) (reconcile : Reconcile) :
    (operator.withReconcile id reconcile).client = operator.client := rfl

/-- The begin of a reconcile, with the call it makes. -/
def startStep (operator : Operator ι) (id : ι) (now : String) (vws : VaultwardenSecret) :
    Option (Operator ι) :=
  match operator.reconciles id, begun client.unicode now vws with
  | .idle, (reconcile, none) => some (operator.withReconcile id reconcile)
  | .idle, (reconcile, some requests) =>
    (VaultClient.step client operator.client (.arrive id requests)).map (fun next =>
      Operator.withReconcile { operator with client := next } id reconcile)
  | _, _ => none

/-- The return of the call of a reconcile. A panic of the call is one of the reconcile. -/
def fetchedStep (operator : Operator ι) (id : ι) (now : String) : Option (Operator ι) :=
  match operator.reconciles id, operator.client.fetches id with
  | .fetching vws interval, .returned _ result =>
    some (operator.withReconcile id (afterFetch client.unicode now vws interval result))
  | .fetching _ _, .crashed => some (operator.withReconcile id .crashed)
  | _, _ => none

/-- Calls are made by reconciles alone. -/
def isCall : VaultClient.Event ι → Bool
  | .arrive _ _ => true
  | _ => false

/-- A step of the client's own tasks. -/
def clientStep (operator : Operator ι) (event : VaultClient.Event ι) : Option (Operator ι) :=
  if isCall event then none
  else (VaultClient.step client operator.client event).map (fun next =>
    { operator with client := next })

/-- What is left of a reconcile after an answer of the API server, if it waits for such a
one. -/
def afterAnswer : Reconcile → Event ι → Option Reconcile
  | .getting vws interval body, .got _ answer => some (afterGet vws interval body answer)
  | .writing vws interval _ _, .wrote _ now answer => some (afterWrite now vws interval answer)
  | .patching _ _ after, .patched _ answer => some (afterPatch after answer)
  | _, _ => none

/-- One step of the operator. -/
def step : Step (Operator ι) (Event ι) := fun operator event =>
  match event with
  | .client event => clientStep client operator event
  | .start id now vws => startStep client operator id now vws
  | .fetched id now => fetchedStep client operator id now
  | .got id _ | .wrote id _ _ | .patched id _ =>
    (afterAnswer (operator.reconciles id) event).map (operator.withReconcile id)

/-- The operator around a client that has just been created: no reconcile has begun. -/
def Operator.around (ι : Type) (now : Nat) (session : Session) : Operator ι where
  client := System.around ι now session
  reconciles := fun _ => .idle

/-! ## What a step can do -/

/-- The steps of the operator, from a state to the state after. -/
inductive Move (operator : Operator ι) : Event ι → Operator ι → Prop where
  | client (event : VaultClient.Event ι) (next : System ι)
      (internal : ∀ id requests, event ≠ .arrive id requests)
      (taken : VaultClient.step client operator.client event = some next) :
      Move operator (.client event) { operator with client := next }
  | refused (id : ι) (now : String) (vws : VaultwardenSecret) (reconcile : Reconcile)
      (idle : operator.reconciles id = .idle)
      (early : begun client.unicode now vws = (reconcile, none)) :
      Move operator (.start id now vws) (operator.withReconcile id reconcile)
  | started (id : ι) (now : String) (vws : VaultwardenSecret) (interval : Nat)
      (requests : List SecretRequest) (idle : operator.reconciles id = .idle)
      (parsed : parseSyncInterval client.unicode vws.spec.syncInterval = .ok interval)
      (built : buildRequests client.unicode vws.spec = .ok requests)
      (uncalled : operator.client.fetches id = .idle) :
      Move operator (.start id now vws)
        (Operator.withReconcile
          { operator with client := operator.client.withFetch id (.looking requests) } id
          (.fetching vws interval))
  | fetched (id : ι) (now : String) (vws : VaultwardenSecret) (interval : Nat)
      (requests : List SecretRequest) (result : Except VaultError (List String))
      (fetching : operator.reconciles id = .fetching vws interval)
      (returned : operator.client.fetches id = .returned requests result) :
      Move operator (.fetched id now)
        (operator.withReconcile id (afterFetch client.unicode now vws interval result))
  | panicked (id : ι) (now : String) (vws : VaultwardenSecret) (interval : Nat)
      (fetching : operator.reconciles id = .fetching vws interval)
      (crashed : operator.client.fetches id = .crashed) :
      Move operator (.fetched id now) (operator.withReconcile id .crashed)
  | got (id : ι) (answer : Except KubeError Bool) (vws : VaultwardenSecret) (interval : Nat)
      (body : SecretBody) (getting : operator.reconciles id = .getting vws interval body) :
      Move operator (.got id answer)
        (operator.withReconcile id (afterGet vws interval body answer))
  | wrote (id : ι) (now : String) (answer : Except KubeError Unit) (vws : VaultwardenSecret)
      (interval : Nat) (body : SecretBody) (present : Bool)
      (writing : operator.reconciles id = .writing vws interval body present) :
      Move operator (.wrote id now answer)
        (operator.withReconcile id (afterWrite now vws interval answer))
  | patched (id : ι) (answer : Except KubeError Unit) (vws : VaultwardenSecret)
      (status : VaultwardenSecretStatus) (after : Nat)
      (patching : operator.reconciles id = .patching vws status after) :
      Move operator (.patched id answer) (operator.withReconcile id (afterPatch after answer))

/-- The begin of a reconcile ends early, or with the requests of its call. -/
theorem begun_cases (unicode : UnicodeTables) (now : String) (vws : VaultwardenSecret) :
    (∃ reconcile, begun unicode now vws = (reconcile, none) ∧
        (reconcile = .crashed ∨ ∃ msg after, reconcile = failing vws now msg after ∧
          (parseSyncInterval unicode vws.spec.syncInterval = .error (.err msg) ∨
            buildRequests unicode vws.spec = .error (.err msg)))) ∨
      ∃ interval requests, begun unicode now vws = (.fetching vws interval, some requests) ∧
        parseSyncInterval unicode vws.spec.syncInterval = .ok interval ∧
        buildRequests unicode vws.spec = .ok requests := by
  unfold begun
  cases parsed : parseSyncInterval unicode vws.spec.syncInterval with
  | error halt =>
    cases halt with
    | panic => exact .inl ⟨.crashed, rfl, .inl rfl⟩
    | err msg => exact .inl ⟨_, rfl, .inr ⟨msg, defaultSyncInterval, rfl, .inl rfl⟩⟩
  | ok interval =>
    cases built : buildRequests unicode vws.spec with
    | error halt =>
      cases halt with
      | panic => exact .inl ⟨.crashed, rfl, .inl rfl⟩
      | err msg => exact .inl ⟨_, rfl, .inr ⟨msg, interval, rfl, .inr rfl⟩⟩
    | ok requests => exact .inr ⟨interval, requests, rfl, rfl, rfl⟩

theorem start_move (operator next : Operator ι) (id : ι) (now : String) (vws : VaultwardenSecret)
    (taken : startStep client operator id now vws = some next) :
    Move client operator (.start id now vws) next := by
  unfold startStep at taken
  split at taken
  case h_1 reconcile idle early =>
    cases taken
    exact .refused id now vws reconcile idle early
  case h_2 reconcile requests idle calls =>
    obtain ⟨called, arrived, same⟩ := Option.map_eq_some_iff.mp taken
    subst same
    rcases begun_cases client.unicode now vws with
      ⟨other, early, -⟩ | ⟨interval, built, goesOn, parsed, accepted⟩
    · rw [early] at calls
      cases calls
    · rw [goesOn] at calls
      cases calls
      cases ClientSteps.step_move client operator.client called _ arrived with
      | arrive _ _ uncalled =>
        exact .started id now vws interval requests idle parsed accepted uncalled
  case h_3 => cases taken

theorem step_move (operator next : Operator ι) (event : Event ι)
    (taken : step client operator event = some next) : Move client operator event next := by
  cases event with
  | client event =>
    change clientStep client operator event = some next at taken
    unfold clientStep at taken
    split_ifs at taken with call
    obtain ⟨reached, inside, same⟩ := Option.map_eq_some_iff.mp taken
    subst same
    refine .client event reached ?_ inside
    rintro id requests rfl
    exact call rfl
  | start id now vws => exact start_move client operator next id now vws taken
  | fetched id now =>
    change fetchedStep client operator id now = some next at taken
    unfold fetchedStep at taken
    split at taken
    case h_1 vws interval requests result fetching returned =>
      cases taken
      exact .fetched id now vws interval requests result fetching returned
    case h_2 vws interval fetching crashed =>
      cases taken
      exact .panicked id now vws interval fetching crashed
    case h_3 => cases taken
  | got id answer =>
    obtain ⟨reconcile, answered, same⟩ := Option.map_eq_some_iff.mp taken
    subst same
    cases phase : operator.reconciles id with
    | getting vws interval body =>
      rw [phase] at answered
      cases answered
      exact .got id answer vws interval body phase
    | _ =>
      rw [phase] at answered
      cases answered
  | wrote id now answer =>
    obtain ⟨reconcile, answered, same⟩ := Option.map_eq_some_iff.mp taken
    subst same
    cases phase : operator.reconciles id with
    | writing vws interval body present =>
      rw [phase] at answered
      cases answered
      exact .wrote id now answer vws interval body present phase
    | _ =>
      rw [phase] at answered
      cases answered
  | patched id answer =>
    obtain ⟨reconcile, answered, same⟩ := Option.map_eq_some_iff.mp taken
    subst same
    cases phase : operator.reconciles id with
    | patching vws status after =>
      rw [phase] at answered
      cases answered
      exact .patched id answer vws status after phase
    | _ =>
      rw [phase] at answered
      cases answered

/-! ## In one piece -/

/-- A server that takes the request of a reconcile, and the reconcile after its answer. -/
def served {σ : Type} (api : Api σ) (now : String) :
    Cluster σ × Reconcile → Cluster σ × Reconcile
  | (cluster, .getting vws interval body) =>
    (cluster, afterGet vws interval body (api.secretExists cluster.secrets))
  | (cluster, .writing vws interval body present) =>
    match (if present then api.applySecret else api.createSecret) cluster.secrets body with
    | .ok secrets => ({ cluster with secrets }, afterWrite now vws interval (.ok ()))
    | .error error => (cluster, afterWrite now vws interval (.error error))
  | (cluster, .patching _ status after) =>
    match api.mergeStatus cluster.resource (statusPatch status) with
    | .ok resource => ({ cluster with resource }, afterPatch after (.ok ()))
    | .error error => (cluster, afterPatch after (.error error))
  | (cluster, reconcile) => (cluster, reconcile)

/-- The reconcile after its call, if it makes one. -/
def called (unicode : UnicodeTables) (fetcher : Fetcher) (now : String) :
    Reconcile × Option (List SecretRequest) → Reconcile
  | (.fetching vws interval, some requests) =>
    match fetcher.fetchSecrets requests with
    | .ok values => afterFetch unicode now vws interval (.ok values)
    | .error (.err error) => afterFetch unicode now vws interval (.error error)
    | .error .panic => .crashed
  | (reconcile, _) => reconcile

/-- The fetcher that gives the result of a call to its requests. -/
def fetcherOf (requests : List SecretRequest) (result : Except VaultError (List String))
    (aligned : ClientSteps.Aligned (.returned requests result)) : Fetcher where
  fetchSecrets made := if made = requests then result.mapError .err else .error .panic
  aligned := by
    intro made values answered
    split_ifs at answered with same
    subst same
    cases result with
    | error error => cases answered
    | ok others =>
      cases answered
      exact aligned

/-- What a call returns in a run of the client is what some fetcher returns, and the
reconcile goes on with it. -/
theorem returned_called (system last : System ι)
    (events : List (VaultClient.Event ι)) (initial : Initial system)
    (ran : run (VaultClient.step client) system events = some last) (id : ι)
    (requests : List SecretRequest) (result : Except VaultError (List String))
    (returned : last.fetches id = .returned requests result) :
    ∃ fetcher : Fetcher, fetcher.fetchSecrets requests = result.mapError .err ∧
      ∀ now vws interval,
        called client.unicode fetcher now (.fetching vws interval, some requests) =
          afterFetch client.unicode now vws interval result := by
  have aligned := ClientSteps.run_aligned client system last events initial ran id
  rw [returned] at aligned
  have answers : (fetcherOf requests result aligned).fetchSecrets requests = result.mapError .err :=
    if_pos rfl
  refine ⟨fetcherOf requests result aligned, answers, fun now vws interval => ?_⟩
  rw [called, answers]
  cases result <;> rfl

/-- A reconcile that has ended. -/
def ended : Call ReconcileError Action → Reconcile
  | .ok action => .finished (.ok action)
  | .error (.err error) => .finished (.error error)
  | .error .panic => .crashed

theorem served_failing {σ : Type} (api : Api σ) (now later msg : String) (cluster : Cluster σ)
    (vws : VaultwardenSecret) (after : Nat) :
    served api later (served api later (served api later (cluster, failing vws now msg after))) =
      ((finish api cluster (setFailedStatus vws.status (vws.generation.getD 0) now msg) after).1,
        ended
          (finish api cluster (setFailedStatus vws.status (vws.generation.getD 0) now msg) after).2) := by
  unfold failing finish
  cases merged : api.mergeStatus cluster.resource
      (statusPatch (setFailedStatus vws.status (vws.generation.getD 0) now msg)) <;>
    simp [served, merged, afterPatch, ended]

/-- The state machine refines the function: a reconcile that nothing disturbs does to one
server what `reconcile_apply` does, and ends as it does. -/
theorem reconcile_apply_in_one_piece {σ : Type} (api : Api σ) (unicode : UnicodeTables)
    (fetcher : Fetcher) (now : String) (vws : VaultwardenSecret) (cluster : Cluster σ) :
    served api now (served api now (served api now
        (cluster, called unicode fetcher now (begun unicode now vws)))) =
      ((reconcileApply api unicode fetcher now vws cluster).1,
        ended (reconcileApply api unicode fetcher now vws cluster).2) := by
  unfold reconcileApply prepare begun
  cases parsed : parseSyncInterval unicode vws.spec.syncInterval with
  | error halt =>
    cases halt with
    | panic => rfl
    | err msg => exact served_failing api now now msg cluster vws defaultSyncInterval
  | ok interval =>
    cases built : buildRequests unicode vws.spec with
    | error halt =>
      cases halt with
      | panic => rfl
      | err msg => exact served_failing api now now msg cluster vws interval
    | ok requests =>
      cases fetched : fetcher.fetchSecrets requests with
      | error halt =>
        cases halt with
        | panic =>
          simp only [called, fetched]
          rfl
        | err error =>
          simp only [called, fetched, afterFetch]
          exact served_failing api now now _ cluster vws interval
      | ok values =>
        simp only [called, fetched, afterFetch, writeSecret]
        cases gotten : api.secretExists cluster.secrets with
        | error error => simp [served, gotten, afterGet, ended]
        | ok present =>
          cases present with
          | false =>
            cases created : api.createSecret cluster.secrets (secretBody vws values) with
            | error error => simp [served, gotten, created, afterGet, afterWrite, ended]
            | ok secrets =>
              simp only [served, gotten, created, afterGet, afterWrite, finish, Bool.false_eq_true,
                if_false]
              cases api.mergeStatus cluster.resource
                (statusPatch (setReadyStatus vws.status (vws.generation.getD 0) now)) <;> rfl
          | true =>
            cases applied : api.applySecret cluster.secrets (secretBody vws values) with
            | error error => simp [served, gotten, applied, afterGet, afterWrite, ended]
            | ok secrets =>
              simp only [served, gotten, applied, afterGet, afterWrite, finish, if_true]
              cases api.mergeStatus cluster.resource
                (statusPatch (setReadyStatus vws.status (vws.generation.getD 0) now)) <;> rfl

/-! ## The client inside -/

/-- What the client sees of an event. -/
def toClient (unicode : UnicodeTables) : Event ι → Option (VaultClient.Event ι)
  | .client event => some event
  | .start id now vws => (begun unicode now vws).2.map (.arrive id)
  | _ => none

/-- A run of the operator is a run of its client. -/
theorem run_client (operator last : Operator ι) (events : List (Event ι))
    (ran : run (step client) operator events = some last) :
    run (VaultClient.step client) operator.client (events.filterMap (toClient client.unicode)) =
      some last.client := by
  apply run_view (step client) (VaultClient.step client) Operator.client (toClient client.unicode)
    ?_ ?_ operator last events ran
  · intro state event next after taken visible
    cases step_move client state next event taken with
    | client event next internal inside =>
      cases visible
      exact inside
    | refused id now vws reconcile idle early =>
      rw [toClient, early] at visible
      cases visible
    | started id now vws interval requests idle parsed built uncalled =>
      have calls : begun client.unicode now vws = (.fetching vws interval, some requests) := by
        simp only [begun, parsed, built]
      rw [toClient, calls] at visible
      cases visible
      simp only [VaultClient.step, uncalled, with_reconcile_client]
    | fetched => cases visible
    | panicked => cases visible
    | got => cases visible
    | wrote => cases visible
    | patched => cases visible
  · intro state event next taken visible
    cases step_move client state next event taken with
    | client event next internal inside => cases visible
    | started id now vws interval requests idle parsed built uncalled =>
      have calls : begun client.unicode now vws = (.fetching vws interval, some requests) := by
        simp only [begun, parsed, built]
      rw [toClient, calls] at visible
      cases visible
    | _ => rfl

/-- A sound client stays sound, whatever the reconciles do with it. -/
theorem run_keeps_sound (operator last : Operator ι) (events : List (Event ι))
    (sound : ClientSteps.Sound operator.client)
    (ran : run (step client) operator events = some last) : ClientSteps.Sound last.client :=
  run_invariant (VaultClient.step client) ClientSteps.Sound
    (fun system event next sound taken => ClientSteps.move_sound client system next event sound
      (ClientSteps.step_move client system next event taken)) _ _ _ sound
    (run_client client operator last events ran)

theorem run_sound (now : Nat) (session : Session) (last : Operator ι) (events : List (Event ι))
    (initial : Initial (System.around ι now session))
    (ran : run (step client) (Operator.around ι now session) events = some last) :
    ClientSteps.Sound last.client :=
  run_keeps_sound client _ last events (ClientSteps.initial_sound _ initial) ran

end

end VaultwardenOperator.Reconciler
