import VaultwardenOperator.DurationGrammar
import VaultwardenOperator.Growth
import VaultwardenOperator.SecretOrigin

/-!
# The spec as a document

The spec of a resource is stored as JSON. An empty interval is left out of the document and
read back as the default, so the spec that is read is not always the one that was written;
what the operator does for it is the same. Members that a later version of the resource
knows change nothing either.
-/

namespace VaultwardenOperator.SpecJson

open Rust Json Serde Growth Machine VaultClient Crd Controller Reconciler
open Duration (Term)
open DurationGrammar (Spells accumulate duration_spelled)

/-! ## The document of a spec -/

def encodeItem (item : VaultwardenSecretDataItem) : Value :=
  .obj ([("key", .str item.key)] ++ optionalMember "secretName" (item.secretName.map .str) ++
    optionalMember "vaultwardenSecret" (item.vaultwardenSecret.map .str) ++
    optionalMember "vault" (item.vault.map .str))

def encodeSpec (spec : VaultwardenSecretSpec) : Value :=
  .obj (optionalMember "syncInterval"
      (if spec.syncInterval = "" then none else some (.str spec.syncInterval)) ++
    optionalMember "defaultVault" (spec.defaultVault.map .str) ++
    [("data", .arr (spec.data.map encodeItem))])

def itemNames : List String := ["key", "secretName", "vaultwardenSecret", "vault"]

def decodeItem (value : Value) : Option VaultwardenSecretDataItem := do
  let slot ← slots itemNames value
  let key ← required decodeStr (slot "key")
  let secretName ← defaulted none (nullable decodeStr) (slot "secretName")
  let vaultwardenSecret ← defaulted none (nullable decodeStr) (slot "vaultwardenSecret")
  let vault ← defaulted none (nullable decodeStr) (slot "vault")
  pure { key, secretName, vaultwardenSecret, vault }

/-- `default_sync_interval`. -/
def defaultSyncIntervalText : String := "5m"

def specNames : List String := ["syncInterval", "defaultVault", "data"]

def decodeSpec (value : Value) : Option VaultwardenSecretSpec := do
  let slot ← slots specNames value
  let syncInterval ← defaulted defaultSyncIntervalText decodeStr (slot "syncInterval")
  let defaultVault ← defaulted none (nullable decodeStr) (slot "defaultVault")
  let data ← required (decodeList decodeItem) (slot "data")
  pure { syncInterval, defaultVault, data }

/-- The spec that is read from the document of a spec. -/
def readBack (spec : VaultwardenSecretSpec) : VaultwardenSecretSpec :=
  { spec with
    syncInterval := if spec.syncInterval = "" then defaultSyncIntervalText else spec.syncInterval }

theorem decode_encode_item (item : VaultwardenSecretDataItem) :
    decodeItem (encodeItem item) = some item := by
  obtain ⟨key, secretName, vaultwardenSecret, vault⟩ := item
  cases secretName <;> cases vaultwardenSecret <;> cases vault <;> rfl

theorem decode_encode_items (data : List VaultwardenSecretDataItem) :
    decodeList decodeItem (.arr (data.map encodeItem)) = some data := by
  unfold decodeList
  induction data with
  | nil => rfl
  | cons item rest inductionHypothesis =>
    simp only [List.map_cons, List.mapM_cons, decode_encode_item, inductionHypothesis]
    rfl

/-- The interval is read from the document with its default. -/
theorem decode_encode_spec (spec : VaultwardenSecretSpec) :
    decodeSpec (encodeSpec spec) = some (readBack spec) := by
  obtain ⟨syncInterval, defaultVault, data⟩ := spec
  have items := decode_encode_items data
  by_cases vacant : syncInterval = ""
  · have fields : decodeSpec (encodeSpec ⟨syncInterval, defaultVault, data⟩) =
        (decodeList decodeItem (.arr (data.map encodeItem))).bind
          (fun data => some ⟨defaultSyncIntervalText, defaultVault, data⟩) := by
      simp only [encodeSpec, if_pos vacant]
      cases defaultVault <;> rfl
    rw [fields, items, readBack, if_pos vacant]
    rfl
  · have fields : decodeSpec (encodeSpec ⟨syncInterval, defaultVault, data⟩) =
        (decodeList decodeItem (.arr (data.map encodeItem))).bind
          (fun data => some ⟨syncInterval, defaultVault, data⟩) := by
      simp only [encodeSpec, if_neg vacant]
      cases defaultVault <;> rfl
    rw [fields, items, readBack, if_neg vacant]
    rfl

/-! ## Members that are not known -/

def itemShape : List (String × Shape) :=
  [("key", .leaf), ("secretName", .leaf), ("vaultwardenSecret", .leaf), ("vault", .leaf)]

def specShape : List (String × Shape) :=
  [("syncInterval", .leaf), ("defaultVault", .leaf), ("data", .list (.record itemShape))]

theorem item_blind : Blind decodeItem (.record itemShape) := by
  refine record_blind itemShape _ _ (by decide) (fun _ => rfl) ?_
  intro slot later grown
  have key := required_leaf _ _ _ grown "key" (by simp [itemShape]) decodeStr
  have optional (name : String) (known : (name, .leaf) ∈ itemShape) :=
    defaulted_leaf _ _ _ grown name known (nullable decodeStr) none
  simp only [key, optional "secretName" (by simp [itemShape]),
    optional "vaultwardenSecret" (by simp [itemShape]), optional "vault" (by simp [itemShape])]

theorem spec_blind : Blind decodeSpec (.record specShape) := by
  refine record_blind specShape _ _ (by decide) (fun _ => rfl) ?_
  intro slot later grown
  have syncInterval := defaulted_leaf _ _ _ grown "syncInterval" (by simp [specShape]) decodeStr
    defaultSyncIntervalText
  have defaultVault := defaulted_leaf _ _ _ grown "defaultVault" (by simp [specShape])
    (nullable decodeStr) none
  have data := required_blind _ _ (list_blind _ _ item_blind) _ _
    (grown ("data", .list (.record itemShape)) (by simp [specShape]))
  simp only [syncInterval, defaultVault, data]

/-- What is read from a document of a spec to which members have been added. -/
theorem grown_spec_read (spec : VaultwardenSecretSpec) (document : Value)
    (grown : GrowsTo (.record specShape) (encodeSpec spec) document) :
    decodeSpec document = some (readBack spec) := by
  rw [blind_to _ _ spec_blind _ _ grown, decode_encode_spec]

/-! ## Reconciles of what is read back -/

def rereadResource (vws : VaultwardenSecret) : VaultwardenSecret :=
  { vws with spec := readBack vws.spec }

def rereadReconcile : Reconcile → Reconcile
  | .fetching vws interval => .fetching (rereadResource vws) interval
  | .getting vws interval body => .getting (rereadResource vws) interval body
  | .writing vws interval body present => .writing (rereadResource vws) interval body present
  | .patching vws status after => .patching (rereadResource vws) status after
  | reconcile => reconcile

def fiveMinutes : Term := ⟨['5'], ['m'], .m, by decide, by simp, by decide, by decide⟩

/-- The default text means the default interval. -/
theorem parse_default (unicode : UnicodeTables) :
    parseSyncInterval unicode defaultSyncIntervalText = .ok defaultSyncInterval := by
  have spelled : Spells defaultSyncIntervalText [fiveMinutes] := ⟨by decide, by decide +kernel⟩
  have parsed := duration_spelled unicode defaultSyncIntervalText [fiveMinutes] spelled
  have present : defaultSyncIntervalText ≠ "" := by decide
  have total : accumulate 0 [fiveMinutes] * 10 ^ 9 = defaultSyncInterval := by decide +kernel
  have positive : defaultSyncInterval ≠ 0 := by decide
  rw [parseSyncInterval, if_neg present, parsed, total]
  simp only [bind, Except.bind, if_neg positive]

theorem parse_read_back (unicode : UnicodeTables) (spec : VaultwardenSecretSpec) :
    parseSyncInterval unicode (readBack spec).syncInterval =
      parseSyncInterval unicode spec.syncInterval := by
  unfold readBack
  split_ifs with vacant
  · rw [vacant]
    exact parse_default unicode
  · rfl

/-- The begin of a reconcile reads of the spec what is read back. -/
theorem begun_reread (unicode : UnicodeTables) (now : String) (vws : VaultwardenSecret) :
    begun unicode now (rereadResource vws) =
      (rereadReconcile (begun unicode now vws).1, (begun unicode now vws).2) := by
  have requests : buildRequests unicode (readBack vws.spec) = buildRequests unicode vws.spec := rfl
  simp only [begun, rereadResource, parse_read_back, requests]
  cases parseSyncInterval unicode vws.spec.syncInterval with
  | error halt => cases halt <;> rfl
  | ok interval =>
    cases buildRequests unicode vws.spec with
    | error halt => cases halt <;> rfl
    | ok requests => rfl

theorem after_fetch_reread (unicode : UnicodeTables) (now : String) (vws : VaultwardenSecret)
    (interval : Nat) (result : Except VaultError (List String)) :
    afterFetch unicode now (rereadResource vws) interval result =
      rereadReconcile (afterFetch unicode now vws interval result) := by
  cases result <;> rfl

theorem request_reread (reconcile : Reconcile) :
    (rereadReconcile reconcile).request = reconcile.request := by
  cases reconcile with
  | writing vws interval body present => cases present <;> rfl
  | _ => rfl

section
variable {RsaPrivateKey : Type} (client : Client RsaPrivateKey) {ι : Type}

def rereadOperator (operator : Operator ι) : Operator ι :=
  { operator with reconciles := fun id => rereadReconcile (operator.reconciles id) }

def rereadEvent : Reconciler.Event ι → Reconciler.Event ι
  | .start id now vws => .start id now (rereadResource vws)
  | event => event

theorem after_answer_reread (reconcile : Reconcile) (event : Reconciler.Event ι) :
    afterAnswer (rereadReconcile reconcile) event =
      (afterAnswer reconcile event).map rereadReconcile := by
  cases reconcile with
  | getting vws interval body =>
    cases event with
    | got id answer => cases answer <;> rfl
    | _ => rfl
  | writing vws interval body present =>
    cases event with
    | wrote id now answer => cases answer <;> rfl
    | _ => rfl
  | patching vws status after =>
    cases event with
    | patched id answer => cases answer <;> rfl
    | _ => rfl
  | _ => cases event <;> rfl

variable [DecidableEq ι]

theorem with_reconcile_reread (operator : Operator ι) (id : ι) (reconcile : Reconcile) :
    rereadOperator (operator.withReconcile id reconcile) =
      (rereadOperator operator).withReconcile id (rereadReconcile reconcile) := by
  simp only [rereadOperator, Operator.withReconcile, Operator.mk.injEq, true_and]
  funext other
  by_cases same : other = id
  · subst same
    simp only [Function.update_self]
  · simp only [Function.update_of_ne same]

theorem start_step_reread (operator : Operator ι) (id : ι) (now : String)
    (vws : VaultwardenSecret) :
    (startStep client operator id now vws).map rereadOperator =
      startStep client (rereadOperator operator) id now (rereadResource vws) := by
  have phases : (rereadOperator operator).reconciles id =
      rereadReconcile (operator.reconciles id) := rfl
  have inside : (rereadOperator operator).client = operator.client := rfl
  unfold startStep
  rw [phases, begun_reread, inside]
  cases operator.reconciles id with
  | idle =>
    rcases begun client.unicode now vws with ⟨reconcile, _ | requests⟩
    · simp only [rereadReconcile, Option.map_some, with_reconcile_reread]
    · simp only [rereadReconcile]
      cases VaultClient.step client operator.client (.arrive id requests) with
      | none => rfl
      | some next =>
        simp only [Option.map_some, with_reconcile_reread]
        rfl
  | _ => rfl

theorem fetched_step_reread (operator : Operator ι) (id : ι) (now : String) :
    (fetchedStep client operator id now).map rereadOperator =
      fetchedStep client (rereadOperator operator) id now := by
  have phases : (rereadOperator operator).reconciles id =
      rereadReconcile (operator.reconciles id) := rfl
  have inside : (rereadOperator operator).client = operator.client := rfl
  unfold fetchedStep
  rw [phases, inside]
  cases operator.reconciles id with
  | fetching vws interval =>
    cases operator.client.fetches id with
    | returned requests result =>
      simp only [rereadReconcile, Option.map_some, with_reconcile_reread, after_fetch_reread]
    | crashed => simp only [rereadReconcile, Option.map_some, with_reconcile_reread]
    | _ => rfl
  | _ => rfl

theorem step_reread (operator : Operator ι) (event : Reconciler.Event ι) :
    (Reconciler.step client operator event).map rereadOperator =
      Reconciler.step client (rereadOperator operator) (rereadEvent event) := by
  have answered (id : ι) (answer : Reconciler.Event ι) :
      ((afterAnswer (operator.reconciles id) answer).map (operator.withReconcile id)).map
          rereadOperator =
        (afterAnswer ((rereadOperator operator).reconciles id) answer).map
          ((rereadOperator operator).withReconcile id) := by
    have phases : (rereadOperator operator).reconciles id =
        rereadReconcile (operator.reconciles id) := rfl
    rw [phases, after_answer_reread]
    cases afterAnswer (operator.reconciles id) answer with
    | none => rfl
    | some reconcile => exact congrArg some (with_reconcile_reread operator id reconcile)
  cases event with
  | client event =>
    change (clientStep client operator event).map rereadOperator =
      clientStep client (rereadOperator operator) event
    unfold clientStep
    split_ifs
    · rfl
    · rw [Option.map_map]
      rfl
  | start id now vws => exact start_step_reread client operator id now vws
  | fetched id now => exact fetched_step_reread client operator id now
  | got id answer => exact answered id (.got id answer)
  | wrote id now answer => exact answered id (.wrote id now answer)
  | patched id answer => exact answered id (.patched id answer)

/-! ## Reading resources again -/

omit [DecidableEq ι] in
theorem reread_around (now : Nat) (session : Session) :
    rereadOperator (Operator.around ι now session) = Operator.around ι now session := rfl

/-- The same event, with the resource of a begin read from a document of its spec to which
members may have been added. -/
inductive Reread : Reconciler.Event ι → Reconciler.Event ι → Prop where
  | start (id : ι) (now : String) (vws : VaultwardenSecret) (spec : VaultwardenSecretSpec)
      (document : Value) (grown : GrowsTo (.record specShape) (encodeSpec vws.spec) document)
      (read : decodeSpec document = some spec) :
      Reread (.start id now vws) (.start id now { vws with spec })
  | same (event : Reconciler.Event ι) (other : ∀ id now vws, event ≠ .start id now vws) :
      Reread event event

omit [DecidableEq ι] in
/-- What is read again is what is read back. -/
theorem reread_event (event other : Reconciler.Event ι) (reread : Reread event other) :
    other = rereadEvent event := by
  cases reread with
  | start id now vws spec document grown read =>
    rw [grown_spec_read vws.spec document grown] at read
    cases read
    rfl
  | same event other =>
    cases event with
    | start id now vws => exact absurd rfl (other id now vws)
    | _ => rfl

/-- A resource does what it did before it was stored. The document of every spec is read, and
whatever members a later version of the resource adds to it at any depth, what is read is
the spec with an empty interval replaced by the default. In any run of the operator each
resource may be replaced by one that was read from such a document: the run goes on as
before, with the same requests to the API server and the same client in every state. -/
theorem resources_survive_storage (now : Nat) (session : Session)
    (events others : List (Reconciler.Event ι)) (reread : List.Forall₂ Reread events others) :
    (∀ spec document, GrowsTo (.record specShape) (encodeSpec spec) document →
      decodeSpec document = some (readBack spec)) ∧
    (run (Reconciler.step client) (Operator.around ι now session) others).map
        (fun last => (last.client, fun id => (last.reconciles id).request)) =
      (run (Reconciler.step client) (Operator.around ι now session) events).map
        (fun last => (last.client, fun id => (last.reconciles id).request)) := by
  refine ⟨grown_spec_read, ?_⟩
  have mapped : others = events.map rereadEvent := by
    induction reread with
    | nil => rfl
    | cons first rest inductionHypothesis =>
      rw [List.map_cons, reread_event _ _ first, inductionHypothesis]
  have through := run_through (Reconciler.step client) (Reconciler.step client) rereadOperator
    rereadEvent (step_reread client) (Operator.around ι now session) events
  rw [reread_around] at through
  rw [mapped, ← through, Option.map_map]
  congr 1
  funext last
  simp only [Function.comp, rereadOperator, request_reread]

end

/-- The sample resource without an interval, and as it is read with a member that is not
known. -/
def unsetResource : VaultwardenSecret :=
  let vws := sampleResource ["token"]
  { vws with spec := { vws.spec with syncInterval := "" } }

def laterDocument : Value :=
  .obj [("data", .arr [.obj [("key", .str "token"), ("secretName", .str "db")]]),
    ("suspended", .bool false)]

theorem resources_survive_storage_sample :
    decodeSpec laterDocument = some (sampleResource ["token"]).spec ∧
    (run (Reconciler.step sampleClient) (Operator.around Bool 0 (sampleSystem Bool).session)
        [.start false "t1" (sampleResource ["token"])]).map
        (fun last => (last.client, fun id => (last.reconciles id).request)) =
      (run (Reconciler.step sampleClient) (Operator.around Bool 0 (sampleSystem Bool).session)
        [.start false "t1" unsetResource]).map
        (fun last => (last.client, fun id => (last.reconciles id).request)) := by
  have grown : GrowsTo (.record specShape) (encodeSpec unsetResource.spec) laterDocument :=
    .single (.unknown specShape
      [("data", .arr [.obj [("key", .str "token"), ("secretName", .str "db")]])] [] "suspended"
      (.bool false) (by decide))
  have survives := resources_survive_storage sampleClient 0 (sampleSystem Bool).session
    [.start false "t1" unsetResource] [.start false "t1" (sampleResource ["token"])]
    (.cons (.start false "t1" unsetResource (sampleResource ["token"]).spec laterDocument grown
      rfl) .nil)
  exact ⟨survives.1 unsetResource.spec laterDocument grown, survives.2⟩

end VaultwardenOperator.SpecJson
