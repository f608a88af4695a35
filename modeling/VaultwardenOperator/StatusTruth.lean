import VaultwardenOperator.Controller

/-!
# What the status says about the Secret

A reconcile reports through the stored status whether it wrote the managed
Secret. Every step before the first request for the Secret reports its failure;
a refused request leaves the reconcile through `?`, past both helpers, and the
status keeps what an earlier reconcile stored. The API server may give any
answer to the requests for the Secret; the patch of the status is accepted.
-/

namespace VaultwardenOperator.StatusTruth

open Rust Duration VaultClient Crd Status Json Controller

section
variable {σ : Type} (api : Api σ)

/-- A server that also records the writes of the Secret it accepted, last one first. -/
def recorded : Api (σ × List SecretBody) where
  secretExists secrets := api.secretExists secrets.1
  createSecret secrets body :=
    (api.createSecret secrets.1 body).map (fun next => (next, body :: secrets.2))
  applySecret secrets body :=
    (api.applySecret secrets.1 body).map (fun next => (next, body :: secrets.2))
  mergeStatus := api.mergeStatus

/-- The server accepts every patch of the status, and merges it. -/
def AcceptsStatus : Prop :=
  ∀ resource patch, api.mergeStatus resource patch = .ok (mergePatch resource patch)

/-- The server refuses the get, or the create or the patch that follows it. -/
def Refuses (secrets : σ) (body : SecretBody) : Prop :=
  (∃ error, api.secretExists secrets = .error error) ∨
    (api.secretExists secrets = .ok false ∧ ∃ error, api.createSecret secrets body = .error error) ∨
    (api.secretExists secrets = .ok true ∧ ∃ error, api.applySecret secrets body = .error error)

/-- A write is refused, or the server stores and records the body. -/
theorem write_recorded (secrets : σ × List SecretBody) (body : SecretBody) :
    (Refuses api secrets.1 body ∧ ∃ error, writeSecret (recorded api) secrets body = .error error) ∨
      (¬ Refuses api secrets.1 body ∧
        ∃ next, writeSecret (recorded api) secrets body = .ok (next, body :: secrets.2)) := by
  cases gotten : api.secretExists secrets.1 with
  | error error => exact .inl ⟨.inl ⟨error, gotten⟩, error, by simp [writeSecret, recorded, gotten]⟩
  | ok found =>
    cases found with
    | false =>
      cases created : api.createSecret secrets.1 body with
      | error error =>
        exact .inl ⟨.inr (.inl ⟨gotten, error, created⟩), error,
          by simp [writeSecret, recorded, gotten, created, Except.map]⟩
      | ok next =>
        exact .inr ⟨by simp [Refuses, gotten, created], next,
          by simp [writeSecret, recorded, gotten, created, Except.map]⟩
    | true =>
      cases applied : api.applySecret secrets.1 body with
      | error error =>
        exact .inl ⟨.inr (.inr ⟨gotten, error, applied⟩), error,
          by simp [writeSecret, recorded, gotten, applied, Except.map]⟩
      | ok next =>
        exact .inr ⟨by simp [Refuses, gotten, applied], next,
          by simp [writeSecret, recorded, gotten, applied, Except.map]⟩

/-- Drop the record. -/
def forget (cluster : Cluster (σ × List SecretBody)) : Cluster σ :=
  ⟨cluster.secrets.1, cluster.resource⟩

theorem finish_forget (cluster : Cluster (σ × List SecretBody)) (status : VaultwardenSecretStatus)
    (after : Nat) :
    finish api (forget cluster) status after =
      (finish (recorded api) cluster status after).map forget id := by
  cases merged : api.mergeStatus cluster.resource (statusPatch status) <;>
    simp [finish, forget, recorded, merged]

theorem write_forget (secrets : σ × List SecretBody) (body : SecretBody) :
    writeSecret api secrets.1 body = (writeSecret (recorded api) secrets body).map Prod.fst := by
  cases gotten : api.secretExists secrets.1 with
  | error error => simp [writeSecret, recorded, gotten, Except.map]
  | ok found =>
    cases found with
    | false =>
      cases created : api.createSecret secrets.1 body <;>
        simp [writeSecret, recorded, gotten, created, Except.map]
    | true =>
      cases applied : api.applySecret secrets.1 body <;>
        simp [writeSecret, recorded, gotten, applied, Except.map]

/-- The record changes nothing that the reconcile does. -/
theorem reconcile_forget (unicode : UnicodeTables) (fetcher : Fetcher) (now : String)
    (vws : VaultwardenSecret) (cluster : Cluster (σ × List SecretBody)) :
    reconcileApply api unicode fetcher now vws (forget cluster) =
      (reconcileApply (recorded api) unicode fetcher now vws cluster).map forget id := by
  cases prepared : prepare unicode fetcher vws with
  | error halt =>
    cases halt with
    | panic => simp [reconcileApply, prepared]
    | err failure => simp only [reconcileApply, prepared, finish_forget]
  | ok result =>
    obtain ⟨interval, body⟩ := result
    have written := write_forget api cluster.secrets body
    cases stored : writeSecret (recorded api) cluster.secrets body with
    | error error =>
      rw [stored] at written
      simp [reconcileApply, prepared, stored, forget, written, Except.map]
    | ok next =>
      rw [stored] at written
      simp only [reconcileApply, prepared, stored, forget, written, Except.map]
      exact finish_forget api { cluster with secrets := next } _ _

end

/-! ## The stored status -/

/-- The stored status says that the Secret is synced. -/
def StoredReady (resource : Value) : Prop :=
  ∃ status, readStatus resource = some (some status) ∧ status.ready = true

/-- The stored status says that the last sync failed, and how. -/
def StoredFailure (resource : Value) : Prop :=
  ∃ status, readStatus resource = some (some status) ∧ status.ready = false ∧
    status.lastSyncError ≠ ""

theorem failure_not_ready (resource : Value) (failure : StoredFailure resource) :
    ¬ StoredReady resource := by
  rintro ⟨status, reads, ready⟩
  obtain ⟨status', reads', notReady, -⟩ := failure
  rw [reads] at reads'
  cases reads'
  exact absurd ready (by simp [notReady])

section
variable (stored : Value) (old read : Option VaultwardenSecretStatus) (generation : Int64)
  (now msg : String) (reads : readStatus stored = some old)
include reads

theorem stored_ready_patched :
    StoredReady (patchStatus stored (setReadyStatus read generation now)) :=
  ⟨_, read_patched stored old _ reads, rfl⟩

theorem stored_failed_patched :
    ¬ StoredReady (patchStatus stored (setFailedStatus read generation now msg)) := by
  rintro ⟨status, readsLast, ready⟩
  rw [read_patched stored old _ reads] at readsLast
  cases readsLast
  exact absurd ready (by simp [overlay, setFailedStatus])

end

/-! ## Runs of a reconcile -/

section
variable {σ : Type} (api : Api σ) (unicode : UnicodeTables) (fetcher : Fetcher)
  (now : String) (vws : VaultwardenSecret)

/-- The run makes a request for the Secret that the server refuses. -/
def RefusedRun (before : Cluster (σ × List SecretBody)) : Prop :=
  ∃ values, fetchedValues unicode fetcher vws.spec = some values ∧
    Refuses api before.secrets.1 (secretBody vws values)

/-- The run wrote the Secret with the values it fetched. -/
def Wrote (before after : Cluster (σ × List SecretBody)) : Prop :=
  ∃ values, fetchedValues unicode fetcher vws.spec = some values ∧
    after.secrets.2 = secretBody vws values :: before.secrets.2

/-- After the run the status is ready exactly when the run wrote the Secret, and a
refused request shows as a failure. -/
structure Truthful (before after : Cluster (σ × List SecretBody)) : Prop where
  ready : StoredReady after.resource ↔ Wrote unicode fetcher vws before after
  refused : RefusedRun api unicode fetcher vws before → StoredFailure after.resource

/-- The status stored before the run already says what the run leaves unsaid: a
failure when a request for the Secret is refused, and not ready when the
reconcile panics, on its interval or in its fetch. -/
structure SaidBefore (before : Cluster (σ × List SecretBody)) : Prop where
  refused : RefusedRun api unicode fetcher vws before → StoredFailure before.resource
  crashed : Crashes unicode fetcher vws.spec → ¬ StoredReady before.resource

/-- A run that writes nothing has no new record. -/
theorem unrecorded (before after : Cluster (σ × List SecretBody))
    (same : after.secrets = before.secrets) : ¬ Wrote unicode fetcher vws before after := by
  rintro ⟨values, -, written⟩
  rw [same] at written
  exact List.cons_ne_self _ _ written.symm

theorem no_refused_run (before : Cluster (σ × List SecretBody))
    (nothing : fetchedValues unicode fetcher vws.spec = none) :
    ¬ RefusedRun api unicode fetcher vws before := by
  rintro ⟨values, fetched, -⟩
  rw [nothing] at fetched
  cases fetched

/-- The state after a run: nothing changes in a crash or a refusal; a reported failure
patches the status; a write is recorded and reported. -/
theorem reconcile_cases (before : Cluster (σ × List SecretBody)) (accepts : AcceptsStatus api) :
    let after := (reconcile (recorded api) unicode fetcher now vws before).1
    (Crashes unicode fetcher vws.spec ∧ fetchedValues unicode fetcher vws.spec = none ∧
        after = before) ∨
      (¬ Crashes unicode fetcher vws.spec ∧ fetchedValues unicode fetcher vws.spec = none ∧
        ∃ msg, after = ⟨before.secrets, patchStatus before.resource
          (setFailedStatus vws.status (vws.generation.getD 0) now msg)⟩) ∨
      (¬ Crashes unicode fetcher vws.spec ∧ RefusedRun api unicode fetcher vws before ∧
        after = before) ∨
      (¬ Crashes unicode fetcher vws.spec ∧ ¬ RefusedRun api unicode fetcher vws before ∧
        ∃ next values, fetchedValues unicode fetcher vws.spec = some values ∧
          after = ⟨(next, secretBody vws values :: before.secrets.2),
            patchStatus before.resource
              (setReadyStatus vws.status (vws.generation.getD 0) now)⟩) := by
  have merges : ∀ resource patch,
      (recorded api).mergeStatus resource patch = .ok (mergePatch resource patch) := accepts
  rcases prepare_cases unicode fetcher vws with
    ⟨crashed, cuts, nothing⟩ | ⟨⟨msg, interval⟩, failed, whole, nothing⟩ |
      ⟨interval, values, prepared, whole, fetched⟩
  · exact .inl ⟨cuts, nothing, by simp only [reconcile, reconcileApply, crashed]⟩
  · refine .inr (.inl ⟨whole, nothing, msg, ?_⟩)
    simp only [reconcile, reconcileApply, failed, finish, merges]
    rfl
  · rcases write_recorded api before.secrets (secretBody vws values) with
      ⟨refuses, error, refused⟩ | ⟨accepted, next, written⟩
    · refine .inr (.inr (.inl ⟨whole, ⟨values, fetched, refuses⟩, ?_⟩))
      simp only [reconcile, reconcileApply, prepared, refused]
    · refine .inr (.inr (.inr ⟨whole, ?_, next, values, fetched, ?_⟩))
      · rintro ⟨values', fetched', refuses⟩
        rw [fetched] at fetched'
        cases fetched'
        exact accepted refuses
      · simp only [reconcile, reconcileApply, prepared, written, finish, merges]
        rfl

/-- A reconcile tells the truth about the Secret if and only if no request for it is
refused, or the status already said that the last sync failed, and it does not panic, or
the status was not ready. -/
theorem status_truthful_iff (before : Cluster (σ × List SecretBody))
    (old : Option VaultwardenSecretStatus) (accepts : AcceptsStatus api)
    (reads : readStatus before.resource = some old) :
    Truthful api unicode fetcher vws before
        (reconcile (recorded api) unicode fetcher now vws before).1 ↔
      SaidBefore api unicode fetcher vws before := by
  rcases reconcile_cases api unicode fetcher now vws before accepts with
    ⟨cuts, nothing, after⟩ | ⟨whole, nothing, msg, after⟩ | ⟨whole, refused, after⟩ |
      ⟨whole, accepted, next, values, fetched, after⟩
  · -- The crash: the stored status stays, and nothing is written.
    have noWrite := unrecorded unicode fetcher vws before before rfl
    have noRefusal := no_refused_run api unicode fetcher vws before nothing
    rw [after]
    constructor
    · intro truthful
      exact ⟨truthful.refused, fun _ ready => noWrite (truthful.ready.mp ready)⟩
    · intro said
      constructor
      · exact iff_of_false (said.crashed cuts) noWrite
      · intro refused
        exact absurd refused noRefusal
  · -- The reported failure: the stored status is the failure, and nothing is written.
    have noWrite := unrecorded unicode fetcher vws before
    have noRefusal := no_refused_run api unicode fetcher vws before nothing
    have notReady := stored_failed_patched before.resource old vws.status
      (vws.generation.getD 0) now msg reads
    rw [after]
    constructor
    · intro truthful
      exact ⟨fun refused => absurd refused noRefusal, fun cuts => absurd cuts whole⟩
    · intro said
      constructor
      · exact iff_of_false notReady (noWrite _ rfl)
      · intro refused
        exact absurd refused noRefusal
  · -- The refusal: the stored status stays, whatever it says.
    have noWrite := unrecorded unicode fetcher vws before before rfl
    rw [after]
    constructor
    · intro truthful
      exact ⟨truthful.refused, fun cuts => absurd cuts whole⟩
    · intro said
      have failure := said.refused refused
      exact ⟨iff_of_false (failure_not_ready _ failure) noWrite, fun _ => failure⟩
  · -- The write: it is recorded, and the stored status says so.
    have ready := stored_ready_patched before.resource old vws.status (vws.generation.getD 0) now
      reads
    rw [after]
    constructor
    · intro truthful
      exact ⟨fun refused => absurd refused accepted, fun cuts => absurd cuts whole⟩
    · intro said
      constructor
      · exact iff_of_true ready ⟨values, fetched, rfl⟩
      · intro refused
        exact absurd refused accepted

end

/-- A server that has the Secret and accepts its patch as told. -/
def sampleServer (patch : Except KubeError Unit) : Api Unit where
  secretExists _ := .ok true
  createSecret _ _ := .ok ()
  applySecret _ _ := patch
  mergeStatus resource patch := .ok (mergePatch resource patch)

/-- A resource that an earlier reconcile found synced. -/
def syncedBefore : Cluster (Unit × List SecretBody) where
  secrets := ((), [])
  resource := .obj [("status", .obj [("ready", .bool true), ("lastSyncTime", .str "t0")])]

theorem sample_fetched :
    fetchedValues asciiTables sampleFetcher (sampleResource ["token"]).spec = some ["hunter2"] := by
  decide +kernel

theorem sample_prepared :
    prepare asciiTables sampleFetcher (sampleResource ["token"]) =
      .ok (defaultSyncInterval, secretBody (sampleResource ["token"]) ["hunter2"]) := by
  decide +kernel

/-- With an accepted patch the reconcile of a synced resource tells the truth. -/
theorem status_truthful_iff_sample :
    Truthful (sampleServer (.ok ())) asciiTables sampleFetcher (sampleResource ["token"]) syncedBefore
        (reconcile (recorded (sampleServer (.ok ()))) asciiTables sampleFetcher "t1"
          (sampleResource ["token"]) syncedBefore).1 ↔
      SaidBefore (sampleServer (.ok ())) asciiTables sampleFetcher (sampleResource ["token"])
        syncedBefore :=
  status_truthful_iff (sampleServer (.ok ())) asciiTables sampleFetcher "t1"
    (sampleResource ["token"]) syncedBefore (some ⟨true, some "t0", "", none, []⟩)
    (fun _ _ => rfl) rfl

/-- A forbidden patch leaves the old success in the status. -/
theorem stale_ready :
    AcceptsStatus (sampleServer (.error ⟨"forbidden"⟩)) ∧
      ¬ Truthful (sampleServer (.error ⟨"forbidden"⟩)) asciiTables sampleFetcher
        (sampleResource ["token"]) syncedBefore
        (reconcile (recorded (sampleServer (.error ⟨"forbidden"⟩))) asciiTables sampleFetcher "t1"
          (sampleResource ["token"]) syncedBefore).1 := by
  refine ⟨fun _ _ => rfl, fun truthful => ?_⟩
  have unchanged : (reconcile (recorded (sampleServer (.error ⟨"forbidden"⟩))) asciiTables
      sampleFetcher "t1" (sampleResource ["token"]) syncedBefore).1 = syncedBefore := by
    simp only [reconcile, reconcileApply, sample_prepared]
    rfl
  rw [unchanged] at truthful
  have refused : RefusedRun (sampleServer (.error ⟨"forbidden"⟩)) asciiTables sampleFetcher
      (sampleResource ["token"]) syncedBefore :=
    ⟨["hunter2"], sample_fetched, .inr (.inr ⟨rfl, ⟨"forbidden"⟩, rfl⟩)⟩
  exact failure_not_ready _ (truthful.refused refused) ⟨_, rfl, rfl⟩

end VaultwardenOperator.StatusTruth
