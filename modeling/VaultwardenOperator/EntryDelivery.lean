import VaultwardenOperator.ClientSteps
import VaultwardenOperator.LastWins
import VaultwardenOperator.Scoping
import VaultwardenOperator.StatusTruth

/-!
# Entries of the spec and values of the Secret

A reconcile goes from entries to requests, from requests to values and from
values to the data of the Secret; the four lists are aligned by position only.
Here each entry has its own value, computed from the entry and the snapshot,
and the written data is compared with these values. The stages keep every entry
until the last one, which is a map: of two entries with one key it keeps the
later.

The vault answers from one snapshot, whose organization index comes from
decryption.
-/

namespace VaultwardenOperator.EntryDelivery

open Rust Crypto Sync Scoping Duration VaultClient ClientSteps Crd Status Controller StatusTruth
  LastWins

/-- A snapshot as decryption builds it: each name in its index has an id. -/
structure Snapshot where
  cache : VaultCache
  indexed : ∀ name ids, cache.orgsByName.lookup name = some ids → ids ≠ []

section
variable {RsaPrivateKey : Type} (client : Client RsaPrivateKey)

/-- Every cache that decryption builds is a snapshot. -/
theorem decrypted_snapshot (response : SyncResponse) (symKey : SymmetricKey) :
    ∃ (snapshot : Snapshot) (skips : DecryptSkips),
      decryptVault client.crypto client.unicode response symKey = .ok (snapshot.cache, skips) := by
  obtain ⟨orgKeys, skips, -, decrypted⟩ :=
    decrypt_vault_spec client.crypto client.unicode response symKey
  exact ⟨⟨_, index_orgs_nonempty client.unicode response.profile.organizations⟩, skips, decrypted⟩

theorem try_fetch_total (snapshot : Snapshot) (requests : List SecretRequest) :
    tryFetchSecrets client (some snapshot.cache) requests ≠ .error .panic := by
  refine map_total _ requests (fun req => bind_total _ _ ?_ (fun item => by
    simp [pure, Except.pure]))
  exact map_error_total _ _
    (lookup_item_total client.unicode snapshot.cache req.name req.vault snapshot.indexed)

/-- The vault that answers from one snapshot. -/
def snapshotFetcher (snapshot : Snapshot) : Fetcher where
  fetchSecrets := tryFetchSecrets client (some snapshot.cache)
  aligned requests values fetched := map_length _ requests values fetched

/-- A reconcile on a snapshot panics in the parser of the interval only. -/
theorem snapshot_crashes_iff (snapshot : Snapshot) (spec : VaultwardenSecretSpec) :
    Crashes client.unicode (snapshotFetcher client snapshot) spec ↔
      CutsCharacter spec.syncInterval := by
  constructor
  · rintro (cuts | ⟨interval, requests, -, -, panicked⟩)
    · exact cuts
    · exact absurd panicked (try_fetch_total client snapshot requests)
  · exact .inl

/-! ## The value of an entry -/

/-- The request of an entry: its name, in its own vault, else in the default one,
else in the whole account. -/
def entryRequest (spec : VaultwardenSecretSpec) (item : VaultwardenSecretDataItem) :
    Option SecretRequest :=
  item.resolvedSecretName.map (fun name =>
    ⟨name, (item.vault.filter (· ≠ "")).or (spec.defaultVault.filter (· ≠ ""))⟩)

/-- The value of an entry, if it has a name and its lookup succeeds. -/
def entryValue (cache : VaultCache) (spec : VaultwardenSecretSpec)
    (item : VaultwardenSecretDataItem) : Option String :=
  (entryRequest spec item).bind (requestValue client cache)

/-- The keys and values of the entries, in order. -/
def entries (cache : VaultCache) (spec : VaultwardenSecretSpec) : List (String × String) :=
  spec.data.filterMap (fun item =>
    (entryValue client cache spec item).map (fun value => (item.key, value)))

/-- The data has the value of every entry under its key, and no other key. -/
structure Complete (cache : VaultCache) (spec : VaultwardenSecretSpec) (data : StringMap String) :
    Prop where
  stored : ∀ item ∈ spec.data, ∃ value, entryValue client cache spec item = some value ∧
    data.lookup item.key = some value
  only : ∀ key ∈ data, ∃ item ∈ spec.data, item.key = key

/-- No data is complete: an entry has no value, or two entries have one key and
different values. -/
def Impossible (cache : VaultCache) (spec : VaultwardenSecretSpec) : Prop :=
  (∃ item ∈ spec.data, entryValue client cache spec item = none) ∨ ¬ Agree (entries client cache spec)

/-- What a reconcile owes the entries: written data is complete, and when there is no
complete data nothing is written and the failure goes into the status. -/
structure Delivered {σ : Type} (api : Api σ) (cache : VaultCache) (now : String)
    (vws : VaultwardenSecret) (before : Cluster (σ × List SecretBody))
    (result : Cluster (σ × List SecretBody) × Call ReconcileError Action) : Prop where
  written : ∀ body, result.1.secrets.2 = body :: before.secrets.2 →
    Complete client cache vws.spec body.stringData
  untouched : Impossible client cache vws.spec → result.1.secrets = before.secrets
  failed : Impossible client cache vws.spec → ∃ msg after,
    result = finish (recorded api) before
      (setFailedStatus vws.status (vws.generation.getD 0) now msg) after

/-- Every reconcile of a resource on a snapshot owes this, whatever the API server
stores and answers. -/
def Delivers (snapshot : Snapshot) (vws : VaultwardenSecret) : Prop :=
  ∀ (σ : Type) (api : Api σ) (now : String) (before : Cluster (σ × List SecretBody)),
    Delivered client api snapshot.cache now vws before
      (reconcileApply (recorded api) client.unicode (snapshotFetcher client snapshot) now vws before)

/-- The entries can be delivered by a map that keeps the last value of a key: they agree,
unless the reconcile fails on the interval or an entry anyway; and the interval does
not crash a reconcile that would have to report a failure. -/
structure Deliverable (cache : VaultCache) (spec : VaultwardenSecretSpec) : Prop where
  agree : (∃ interval, parseSyncInterval client.unicode spec.syncInterval = .ok interval) →
    (∀ item ∈ spec.data, ∃ value, entryValue client cache spec item = some value) →
    Agree (entries client cache spec)
  returns : CutsCharacter spec.syncInterval → ¬ Impossible client cache spec

/-! ## The stages -/

/-- The requests are those of the entries; an entry without a name stops them. -/
theorem build_requests_ok_iff (unicode : UnicodeTables) (spec : VaultwardenSecretSpec)
    (requests : List SecretRequest) :
    buildRequests unicode spec = .ok requests ↔
      spec.data.map (entryRequest spec) = requests.map some := by
  have single : ∀ entry : VaultwardenSecretDataItem × Nat,
      (buildRequest unicode (spec.defaultVault.filter (· ≠ "")) entry.1 entry.2).toOption =
        entryRequest spec entry.1 := by
    intro entry
    unfold buildRequest entryRequest
    cases entry.1.resolvedSecretName <;> rfl
  have unindexed : spec.data.zipIdx.map (fun entry => entryRequest spec entry.1) =
      spec.data.map (entryRequest spec) := by
    conv_rhs => rw [← List.zipIdx_map_fst 0 spec.data, List.map_map]
    rfl
  simp only [buildRequests, map_ok_iff, single, unindexed]

/-- The fetched values are those of the entries, when the interval is accepted and
every entry has one. -/
theorem fetched_values_iff (snapshot : Snapshot) (spec : VaultwardenSecretSpec)
    (values : List String) :
    fetchedValues client.unicode (snapshotFetcher client snapshot) spec = some values ↔
      (∃ interval, parseSyncInterval client.unicode spec.syncInterval = .ok interval) ∧
        spec.data.map (entryValue client snapshot.cache spec) = values.map some := by
  unfold fetchedValues
  cases parsed : parseSyncInterval client.unicode spec.syncInterval with
  | error halt => simp
  | ok interval =>
    cases built : buildRequests client.unicode spec with
    | error halt =>
      have unnamed : spec.data.map (entryValue client snapshot.cache spec) ≠ values.map some := by
        intro same
        have named : ∀ item ∈ spec.data, ∃ request, entryRequest spec item = some request := by
          intro item member
          obtain ⟨value, found⟩ := (exists_map_some_iff _ _).mp ⟨values, same⟩ item member
          obtain ⟨request, isRequest, -⟩ := Option.bind_eq_some_iff.mp found
          exact ⟨request, isRequest⟩
        obtain ⟨requests, requested⟩ := (exists_map_some_iff _ _).mpr named
        rw [(build_requests_ok_iff client.unicode spec requests).mpr requested] at built
        cases built
      simp [unnamed]
    | ok requests =>
      have requested := (build_requests_ok_iff client.unicode spec requests).mp built
      have valued : spec.data.map (entryValue client snapshot.cache spec) =
          requests.map (requestValue client snapshot.cache) := by
        calc spec.data.map (entryValue client snapshot.cache spec)
            = (spec.data.map (entryRequest spec)).map
                (·.bind (requestValue client snapshot.cache)) := by simp [entryValue]
          _ = requests.map (requestValue client snapshot.cache) := by simp [requested]
      simp [snapshotFetcher, try_fetch_ok_iff, valued]

/-- The list of entries, from the values. -/
theorem entries_of_values (cache : VaultCache) (spec : VaultwardenSecretSpec)
    (values : List String)
    (valued : spec.data.map (entryValue client cache spec) = values.map some) :
    (spec.data.zip values).map (fun entry => (entry.1.key, entry.2)) =
      entries client cache spec := by
  unfold entries
  generalize spec.data = items at valued
  induction items generalizing values with
  | nil => rfl
  | cons item rest inductionHypothesis =>
    cases values with
    | nil => cases valued
    | cons value others =>
      obtain ⟨found, following⟩ := List.cons.inj valued
      simp [found, inductionHypothesis others following]

/-- The written data is built from the list of entries. -/
theorem secret_data_built (cache : VaultCache) (spec : VaultwardenSecretSpec)
    (values : List String)
    (valued : spec.data.map (entryValue client cache spec) = values.map some) :
    secretData spec values = insertAll ∅ (entries client cache spec) := by
  rw [← entries_of_values client cache spec values valued, secret_data_inserted]

/-- When every entry has a value, the written data is complete if and only if the
entries agree. -/
theorem complete_iff (cache : VaultCache) (spec : VaultwardenSecretSpec) (values : List String)
    (valued : spec.data.map (entryValue client cache spec) = values.map some) :
    Complete client cache spec (secretData spec values) ↔ Agree (entries client cache spec) := by
  rw [secret_data_built client cache spec values valued, ← keeps_all_iff]
  constructor
  · rintro complete ⟨key, content⟩ member
    obtain ⟨item, inData, isEntry⟩ := List.mem_filterMap.mp member
    obtain ⟨value, found, stored⟩ := complete.stored item inData
    rw [found] at isEntry
    cases isEntry
    exact stored
  · intro kept
    constructor
    · intro item member
      obtain ⟨value, found⟩ := (exists_map_some_iff _ _).mp ⟨values, valued⟩ item member
      refine ⟨value, found, kept (item.key, value) (List.mem_filterMap.mpr ⟨item, member, ?_⟩)⟩
      simp [found]
    · intro key present
      obtain ⟨entry, member, rfl⟩ := (mem_built _ key).mp present
      obtain ⟨item, inData, isEntry⟩ := List.mem_filterMap.mp member
      obtain ⟨value, -, rfl⟩ := Option.map_eq_some_iff.mp isEntry
      exact ⟨item, inData, rfl⟩

/-! ## The reconcile -/

/-- A reconcile on a snapshot crashes, reports a failure, or asks to write the values of
the entries. -/
theorem snapshot_cases (snapshot : Snapshot) (vws : VaultwardenSecret) :
    (prepare client.unicode (snapshotFetcher client snapshot) vws = .error .panic ∧
        CutsCharacter vws.spec.syncInterval) ∨
      (∃ failure, prepare client.unicode (snapshotFetcher client snapshot) vws =
          .error (.err failure) ∧ ¬ CutsCharacter vws.spec.syncInterval ∧
        ¬ ((∃ interval, parseSyncInterval client.unicode vws.spec.syncInterval = .ok interval) ∧
          ∀ item ∈ vws.spec.data,
            ∃ value, entryValue client snapshot.cache vws.spec item = some value)) ∨
      ∃ interval values, prepare client.unicode (snapshotFetcher client snapshot) vws =
          .ok (interval, secretBody vws values) ∧ ¬ CutsCharacter vws.spec.syncInterval ∧
        (∃ interval, parseSyncInterval client.unicode vws.spec.syncInterval = .ok interval) ∧
        vws.spec.data.map (entryValue client snapshot.cache vws.spec) = values.map some := by
  rw [← snapshot_crashes_iff client snapshot]
  rcases prepare_cases client.unicode (snapshotFetcher client snapshot) vws with
    ⟨crashed, cuts, -⟩ | ⟨failure, failed, whole, nothing⟩ | ⟨interval, values, prepared, whole, fetched⟩
  · exact .inl ⟨crashed, cuts⟩
  · refine .inr (.inl ⟨failure, failed, whole, ?_⟩)
    rintro ⟨accepted, all⟩
    obtain ⟨values, valued⟩ := (exists_map_some_iff _ _).mpr all
    rw [(fetched_values_iff client snapshot vws.spec values).mpr ⟨accepted, valued⟩] at nothing
    cases nothing
  · exact .inr (.inr ⟨interval, values, prepared, whole,
      (fetched_values_iff client snapshot vws.spec values).mp fetched⟩)

theorem finish_secrets {σ : Type} (api : Api σ) (cluster : Cluster σ)
    (status : VaultwardenSecretStatus) (after : Nat) :
    (finish api cluster status after).1.secrets = cluster.secrets := by
  unfold finish
  cases api.mergeStatus cluster.resource (statusPatch status) <;> rfl

/-- A write that is recorded is one of the body that was prepared. -/
theorem recorded_body {σ : Type} (api : Api σ) (now : String) (vws : VaultwardenSecret)
    (fetcher : Fetcher) (unicode : UnicodeTables) (before : Cluster (σ × List SecretBody))
    (interval : Nat) (prepared body : SecretBody)
    (ready : prepare unicode fetcher vws = .ok (interval, prepared))
    (wrote : (reconcileApply (recorded api) unicode fetcher now vws before).1.secrets.2 =
      body :: before.secrets.2) : body = prepared := by
  simp only [reconcileApply, ready] at wrote
  rcases write_recorded api before.secrets prepared with
    ⟨-, error, refused⟩ | ⟨-, next, written⟩
  · rw [refused] at wrote
    exact absurd wrote.symm (List.cons_ne_self _ _)
  · rw [written] at wrote
    simp only [finish_secrets] at wrote
    exact (List.cons.inj wrote).1.symm

/-- A reconcile that prepares a body delivers it when the entries agree. -/
theorem delivered_agreeing {σ : Type} (api : Api σ) (snapshot : Snapshot) (now : String)
    (vws : VaultwardenSecret) (before : Cluster (σ × List SecretBody)) (interval : Nat)
    (values : List String)
    (ready : prepare client.unicode (snapshotFetcher client snapshot) vws =
      .ok (interval, secretBody vws values))
    (valued : vws.spec.data.map (entryValue client snapshot.cache vws.spec) = values.map some)
    (agree : Agree (entries client snapshot.cache vws.spec)) :
    Delivered client api snapshot.cache now vws before
      (reconcileApply (recorded api) client.unicode (snapshotFetcher client snapshot) now vws
        before) := by
  have possible : ¬ Impossible client snapshot.cache vws.spec := by
    rintro (⟨item, member, nothing⟩ | disagree)
    · obtain ⟨value, found⟩ := (exists_map_some_iff _ _).mp ⟨values, valued⟩ item member
      rw [nothing] at found
      cases found
    · exact disagree agree
  refine ⟨fun body wrote => ?_, fun impossible => absurd impossible possible,
    fun impossible => absurd impossible possible⟩
  rw [recorded_body api now vws _ _ before interval _ body ready wrote]
  exact (complete_iff client snapshot.cache vws.spec values valued).mpr agree

/-- A reconcile whose failure is reported delivers nothing, as it should. -/
theorem delivered_failed {σ : Type} (api : Api σ) (snapshot : Snapshot) (now : String)
    (vws : VaultwardenSecret) (before : Cluster (σ × List SecretBody)) (failure : String × Nat)
    (failed : prepare client.unicode (snapshotFetcher client snapshot) vws =
      .error (.err failure)) :
    Delivered client api snapshot.cache now vws before
      (reconcileApply (recorded api) client.unicode (snapshotFetcher client snapshot) now vws
        before) := by
  have ends : reconcileApply (recorded api) client.unicode (snapshotFetcher client snapshot) now
      vws before = finish (recorded api) before
        (setFailedStatus vws.status (vws.generation.getD 0) now failure.1) failure.2 := by
    simp only [reconcileApply, failed]
  have same : (finish (recorded api) before
      (setFailedStatus vws.status (vws.generation.getD 0) now failure.1) failure.2).1.secrets =
        before.secrets := finish_secrets _ _ _ _
  rw [ends]
  refine ⟨fun body wrote => ?_, fun _ => same, fun _ => ⟨failure.1, failure.2, rfl⟩⟩
  rw [same] at wrote
  exact absurd wrote.symm (List.cons_ne_self _ _)

/-- A server that accepts everything. -/
def acceptingServer : Api Unit where
  secretExists _ := .ok true
  createSecret _ _ := .ok ()
  applySecret _ _ := .ok ()
  mergeStatus resource _ := .ok resource

/-- The entries of a spec are delivered, or reported as undeliverable, if and only if
those with one key have one value. -/
theorem delivers_iff (snapshot : Snapshot) (vws : VaultwardenSecret) :
    Delivers client snapshot vws ↔ Deliverable client snapshot.cache vws.spec := by
  rcases snapshot_cases client snapshot vws with
    ⟨crashed, cuts⟩ | ⟨failure, failed, whole, rejected⟩ |
      ⟨interval, values, ready, whole, accepted, valued⟩
  · -- The crash: nothing is written, and no failure is reported.
    have ends : ∀ (σ : Type) (api : Api σ) now before, reconcileApply (recorded api) client.unicode
        (snapshotFetcher client snapshot) now vws before = (before, .error .panic) := by
      intro σ api now before
      simp only [reconcileApply, crashed]
    constructor
    · intro delivers
      constructor
      · rintro ⟨interval, parsed⟩
        rw [(parse_sync_interval_panic_iff client.unicode _).mpr cuts] at parsed
        cases parsed
      · intro _ impossible
        obtain ⟨msg, after, same⟩ := (delivers Unit acceptingServer "" ⟨((), []), .null⟩).failed
          impossible
        rw [ends] at same
        cases same
    · intro deliverable σ api now before
      rw [ends]
      refine ⟨fun body wrote => absurd wrote.symm (List.cons_ne_self _ _), fun _ => rfl, ?_⟩
      exact fun impossible => absurd impossible (deliverable.returns cuts)
  · -- The reported failure.
    apply iff_of_true
    · exact fun σ api now before => delivered_failed client api snapshot now vws before failure failed
    · exact ⟨fun accepted all => absurd ⟨accepted, all⟩ rejected, fun cuts => absurd cuts whole⟩
  · -- The write: it is complete when the entries agree.
    constructor
    · intro delivers
      have wrote : (reconcileApply (recorded acceptingServer) client.unicode
          (snapshotFetcher client snapshot) "" vws ⟨((), []), .null⟩).1.secrets.2 =
            [secretBody vws values] := by
        simp only [reconcileApply, ready]
        rfl
      have complete := (delivers Unit acceptingServer "" ⟨((), []), .null⟩).written _ wrote
      have agree := (complete_iff client snapshot.cache vws.spec values valued).mp complete
      exact ⟨fun _ _ => agree, fun cuts => absurd cuts whole⟩
    · intro deliverable σ api now before
      have all := (exists_map_some_iff _ _).mp ⟨values, valued⟩
      exact delivered_agreeing client api snapshot now vws before interval values ready valued
        (deliverable.agree accepted all)

end

/-- A snapshot with two items. -/
def sampleSnapshot : Snapshot where
  cache := ⟨[sampleItem "db" "one", sampleItem "api" "two"], ∅⟩
  indexed := by
    intro name ids found
    cases found

/-- Two entries for one key. -/
def sharedKey : VaultwardenSecret where
  name := "app"
  ns := some "prod"
  uid := "uid"
  generation := some 1
  spec := ⟨"5m", none, [⟨"token", some "db", none, none⟩, ⟨"token", some "api", none, none⟩]⟩
  status := none

/-- The Secret is written without the first entry. -/
theorem shared_key_lost :
    entryValue sampleClient sampleSnapshot.cache sharedKey.spec ⟨"token", some "db", none, none⟩ =
        some "one" ∧
      (secretData sharedKey.spec ["one", "two"]).lookup "token" = some "two" ∧
      ¬ Delivers sampleClient sampleSnapshot sharedKey := by
  have valued : entryValue sampleClient sampleSnapshot.cache sharedKey.spec
      ⟨"token", some "db", none, none⟩ = some "one" := by
    decide +kernel
  have kept : (secretData sharedKey.spec ["one", "two"]).lookup "token" = some "two" := by
    decide +kernel
  have prepared : prepare asciiTables (snapshotFetcher sampleClient sampleSnapshot) sharedKey =
      .ok (defaultSyncInterval, secretBody sharedKey ["one", "two"]) := by
    decide +kernel
  refine ⟨valued, kept, fun delivers => ?_⟩
  have wrote : (reconcileApply (recorded acceptingServer) asciiTables
      (snapshotFetcher sampleClient sampleSnapshot) "t1" sharedKey
      ⟨((), []), .null⟩).1.secrets.2 = [secretBody sharedKey ["one", "two"]] := by
    simp only [reconcileApply, prepared]
    rfl
  have complete := (delivers Unit acceptingServer "t1" ⟨((), []), .null⟩).written _ wrote
  obtain ⟨value, isValue, stored⟩ := complete.stored _ List.mem_cons_self
  rw [valued] at isValue
  cases isValue
  change (secretData sharedKey.spec ["one", "two"]).lookup "token" = some "one" at stored
  rw [kept] at stored
  exact absurd stored (by decide)

end VaultwardenOperator.EntryDelivery
