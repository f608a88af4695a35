import VaultwardenOperator.Duration
import VaultwardenOperator.LastWins
import VaultwardenOperator.Status
import VaultwardenOperator.VaultClient

/-!
# The reconciler

One reconcile of a custom resource against a Kubernetes API whose answers are a
parameter: the steps before the first request for the managed Secret, the write
of the Secret, and the patch of the status. The result of `fetch_secrets` is a
parameter too; what the vault client does for it is modelled elsewhere.

The finalizer around the reconcile and the log lines are left out.
-/

namespace VaultwardenOperator.Controller

open Rust Sync Duration VaultClient Crd Status Json

/-- The default of five minutes, in nanoseconds. -/
def defaultSyncInterval : Nat := 5 * 60 * secondNs

section
variable (unicode : UnicodeTables)

/-- The request of one entry, with its index in `spec.data`. -/
def buildRequest (defaultVault : Option String) (item : VaultwardenSecretDataItem) (i : Nat) :
    Call String SecretRequest :=
  match item.resolvedSecretName with
  | none =>
    let quoted := unicode.escapeDebug item.key
    .error (.err s!"spec.data[{i}] (key {quoted}): one of secretName or vaultwardenSecret must be set")
  | some name => .ok ⟨name, (item.vault.filter (· ≠ "")).or defaultVault⟩

/-- `build_requests`. -/
def buildRequests (spec : VaultwardenSecretSpec) : Call String (List SecretRequest) :=
  let defaultVault := spec.defaultVault.filter (· ≠ "")
  spec.data.zipIdx.mapM (fun (item, i) => buildRequest unicode defaultVault item i)

/-- `parse_sync_interval`. -/
def parseSyncInterval (s : String) : Call String Nat :=
  if s = "" then .ok defaultSyncInterval
  else do
    let d ← parseDuration unicode s
    if d = 0 then .error (.err "syncInterval must be positive") else .ok d

/-- A mapping that succeeds keeps the length. -/
theorem build_requests_length (spec : VaultwardenSecretSpec) (requests : List SecretRequest)
    (built : buildRequests unicode spec = .ok requests) : requests.length = spec.data.length := by
  have same := map_length _ spec.data.zipIdx requests built
  rwa [List.length_zipIdx] at same

theorem build_request_total (defaultVault : Option String) (item : VaultwardenSecretDataItem)
    (i : Nat) : buildRequest unicode defaultVault item i ≠ .error .panic := by
  unfold buildRequest
  split <;> simp

theorem build_requests_total (spec : VaultwardenSecretSpec) :
    buildRequests unicode spec ≠ .error .panic :=
  map_total _ _ (fun entry => build_request_total unicode _ entry.1 entry.2)

/-- The interval panics where the duration parser does; the empty one is not parsed. -/
theorem parse_sync_interval_panic_iff (s : String) :
    parseSyncInterval unicode s = .error .panic ↔ CutsCharacter s := by
  rw [← parse_duration_panic_iff unicode s]
  by_cases vacant : s = ""
  · subst vacant
    simp [parseSyncInterval, parseDuration, trim]
  · simp only [parseSyncInterval, vacant, if_false]
    cases parsed : parseDuration unicode s with
    | ok d =>
      simp only [bind, Except.bind]
      split_ifs <;> simp
    | error halt => simp [bind, Except.bind]

end

/-! ## The reconcile -/

/-- A resource as the reconciler has it, in some version that was stored. -/
structure VaultwardenSecret where
  name : String
  ns : Option String
  uid : String
  generation : Option Int64
  spec : VaultwardenSecretSpec
  status : Option VaultwardenSecretStatus

/-- What the vault client answers to a list of requests: one value for each, or an
error. A renewal inside the call may panic. -/
structure Fetcher where
  fetchSecrets : List SecretRequest → Call VaultError (List String)
  aligned : ∀ requests values, fetchSecrets requests = .ok values →
    values.length = requests.length

/-- The body of the managed Secret. Its type is `Opaque`, its owner the resource. -/
structure SecretBody where
  name : String
  ns : String
  labels : List (String × String)
  ownerUid : String
  stringData : StringMap String
deriving DecidableEq

structure KubeError where
  message : String
deriving DecidableEq

inductive ReconcileError where
  | kube (error : KubeError)
deriving DecidableEq

inductive Action where
  | requeue (after : Nat)
deriving DecidableEq

/-- The requests a reconcile makes about one resource, over what the server stores for
the Secret of its name. A merge of the status gives the resource stored after it. -/
structure Api (σ : Type) where
  secretExists : σ → Except KubeError Bool
  createSecret : σ → SecretBody → Except KubeError σ
  applySecret : σ → SecretBody → Except KubeError σ
  mergeStatus : Value → Value → Except KubeError Value

/-- What the server stores: the Secret and the resource. -/
structure Cluster (σ : Type) where
  secrets : σ
  resource : Value

/-- Values by key; of two entries with one key the later one counts. -/
def secretData (spec : VaultwardenSecretSpec) (values : List String) : StringMap String :=
  (spec.data.zip values).foldl (fun data entry => data.insert entry.1.key entry.2) ∅

theorem secret_data_inserted (spec : VaultwardenSecretSpec) (values : List String) :
    secretData spec values = LastWins.insertAll ∅
      ((spec.data.zip values).map (fun entry => (entry.1.key, entry.2))) := by
  rw [LastWins.insertAll, List.foldl_map]
  rfl

def secretBody (vws : VaultwardenSecret) (values : List String) : SecretBody where
  name := vws.name
  ns := vws.ns.getD "default"
  labels := [("app.kubernetes.io/managed-by", "vaultwarden-operator")]
  ownerUid := vws.uid
  stringData := secretData vws.spec values

/-- `error_policy`: requeue after the default interval, whatever the error. -/
def errorPolicy (_error : ReconcileError) : Action := .requeue defaultSyncInterval

section
variable {σ : Type} (api : Api σ) (unicode : UnicodeTables)

/-- The message of a failed fetch. -/
def fetchFailure (error : VaultError) : String :=
  let text := error.display unicode
  s!"failed to fetch Vaultwarden secrets: {text}"

/-- The steps before the first request for the Secret: the requeue interval and the
body, or the message of a failure and its requeue interval. -/
def prepare (fetcher : Fetcher) (vws : VaultwardenSecret) : Call (String × Nat) (Nat × SecretBody) :=
  match parseSyncInterval unicode vws.spec.syncInterval with
  | .error .panic => .error .panic
  | .error (.err msg) => .error (.err (msg, defaultSyncInterval))
  | .ok interval =>
    match buildRequests unicode vws.spec with
    | .error .panic => .error .panic
    | .error (.err msg) => .error (.err (msg, interval))
    | .ok requests =>
      match fetcher.fetchSecrets requests with
      | .error .panic => .error .panic
      | .error (.err error) => .error (.err (fetchFailure unicode error, interval))
      | .ok values => .ok (interval, secretBody vws values)

/-- Create the Secret, or apply it when it exists. -/
def writeSecret (secrets : σ) (body : SecretBody) : Except KubeError σ :=
  match api.secretExists secrets with
  | .error error => .error error
  | .ok false => api.createSecret secrets body
  | .ok true => api.applySecret secrets body

/-- Patch the status, and then requeue. -/
def finish (cluster : Cluster σ) (status : VaultwardenSecretStatus) (after : Nat) :
    Cluster σ × Call ReconcileError Action :=
  match api.mergeStatus cluster.resource (statusPatch status) with
  | .error error => (cluster, .error (.err (.kube error)))
  | .ok resource => ({ cluster with resource }, .ok (.requeue after))

/-- `reconcile_apply`. Errors of the requests for the Secret leave through `?`. -/
def reconcileApply (fetcher : Fetcher) (now : String) (vws : VaultwardenSecret)
    (cluster : Cluster σ) : Cluster σ × Call ReconcileError Action :=
  let generation := vws.generation.getD 0
  match prepare unicode fetcher vws with
  | .error .panic => (cluster, .error .panic)
  | .error (.err (msg, after)) =>
    finish api cluster (setFailedStatus vws.status generation now msg) after
  | .ok (interval, body) =>
    match writeSecret api cluster.secrets body with
    | .error error => (cluster, .error (.err (.kube error)))
    | .ok secrets =>
      finish api { cluster with secrets } (setReadyStatus vws.status generation now) interval

/-- A reconcile as the controller drives it. An error goes to `error_policy`; a panic
ends the process. -/
def reconcile (fetcher : Fetcher) (now : String) (vws : VaultwardenSecret)
    (cluster : Cluster σ) : Cluster σ × Option Action :=
  match reconcileApply api unicode fetcher now vws cluster with
  | (after, .ok action) => (after, some action)
  | (after, .error (.err error)) => (after, some (errorPolicy error))
  | (after, .error .panic) => (after, none)

/-- The values a reconcile writes: the interval and the requests are accepted and the
vault answers. -/
def fetchedValues (fetcher : Fetcher) (spec : VaultwardenSecretSpec) : Option (List String) :=
  match parseSyncInterval unicode spec.syncInterval, buildRequests unicode spec with
  | .ok _, .ok requests => (fetcher.fetchSecrets requests).toOption
  | _, _ => none

/-- The reconcile panics before its first request for the Secret: in the parser of the
interval, or in the fetch that its requests lead to. -/
def Crashes (fetcher : Fetcher) (spec : VaultwardenSecretSpec) : Prop :=
  CutsCharacter spec.syncInterval ∨
    ∃ interval requests, parseSyncInterval unicode spec.syncInterval = .ok interval ∧
      buildRequests unicode spec = .ok requests ∧ fetcher.fetchSecrets requests = .error .panic

/-- The steps before the first request for the Secret end in one of three ways. -/
theorem prepare_cases (fetcher : Fetcher) (vws : VaultwardenSecret) :
    (prepare unicode fetcher vws = .error .panic ∧ Crashes unicode fetcher vws.spec ∧
        fetchedValues unicode fetcher vws.spec = none) ∨
      (∃ failure, prepare unicode fetcher vws = .error (.err failure) ∧
        ¬ Crashes unicode fetcher vws.spec ∧
        fetchedValues unicode fetcher vws.spec = none) ∨
      ∃ interval values, prepare unicode fetcher vws = .ok (interval, secretBody vws values) ∧
        ¬ Crashes unicode fetcher vws.spec ∧
        fetchedValues unicode fetcher vws.spec = some values := by
  rw [Crashes, ← parse_sync_interval_panic_iff unicode]
  cases parsed : parseSyncInterval unicode vws.spec.syncInterval with
  | error halt =>
    cases halt with
    | panic =>
      exact .inl ⟨by simp [prepare, parsed], .inl rfl, by simp [fetchedValues, parsed]⟩
    | err msg =>
      exact .inr (.inl ⟨(msg, defaultSyncInterval), by simp only [prepare, parsed], by simp,
        by simp [fetchedValues, parsed]⟩)
  | ok interval =>
    cases built : buildRequests unicode vws.spec with
    | error halt =>
      cases halt with
      | panic => exact absurd built (build_requests_total unicode vws.spec)
      | err msg =>
        exact .inr (.inl ⟨(msg, interval), by simp only [prepare, parsed, built], by simp,
          by simp [fetchedValues, parsed, built]⟩)
    | ok requests =>
      cases fetched : fetcher.fetchSecrets requests with
      | error halt =>
        cases halt with
        | panic =>
          exact .inl ⟨by simp only [prepare, parsed, built, fetched],
            .inr ⟨interval, requests, rfl, rfl, fetched⟩,
            by simp [fetchedValues, parsed, built, fetched, Except.toOption]⟩
        | err error =>
          exact .inr (.inl ⟨(fetchFailure unicode error, interval),
            by simp only [prepare, parsed, built, fetched], by simp [fetched],
            by simp [fetchedValues, parsed, built, fetched, Except.toOption]⟩)
      | ok values =>
        exact .inr (.inr ⟨interval, values, by simp only [prepare, parsed, built, fetched],
          by simp [fetched], by simp [fetchedValues, parsed, built, fetched, Except.toOption]⟩)

/-- The fetched values are as many as the entries. -/
theorem fetched_values_length (fetcher : Fetcher) (spec : VaultwardenSecretSpec)
    (values : List String) (fetched : fetchedValues unicode fetcher spec = some values) :
    values.length = spec.data.length := by
  unfold fetchedValues at fetched
  split at fetched
  · rename_i requests _ built
    rw [← build_requests_length unicode spec requests built]
    cases answer : fetcher.fetchSecrets requests with
    | error error => simp [answer, Except.toOption] at fetched
    | ok values' =>
      rw [answer] at fetched
      cases fetched
      exact fetcher.aligned requests values answer
  · cases fetched

end

/-- A vault that answers one value to every request. -/
def sampleFetcher : Fetcher where
  fetchSecrets requests := .ok (requests.map (fun _ => "hunter2"))
  aligned := by
    rintro requests values ⟨⟩
    exact List.length_map _

/-- A resource that copies one vault item to each of the given keys. -/
def sampleResource (keys : List String) : VaultwardenSecret where
  name := "app"
  ns := some "prod"
  uid := "uid"
  generation := some 1
  spec := ⟨"5m", none, keys.map (fun key => ⟨key, some "db", none, none⟩)⟩
  status := none

end VaultwardenOperator.Controller
