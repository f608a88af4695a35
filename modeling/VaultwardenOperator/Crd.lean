import VaultwardenOperator.Json

/-!
# The custom resource

The spec and the status of a `VaultwardenSecret`, and the JSON form of the
status. A field with `skip_serializing_if` is left out of the JSON when it is
empty; reading the JSON back restores it.
-/

namespace VaultwardenOperator.Crd

open Json

structure VaultwardenSecretDataItem where
  key : String
  secretName : Option String
  vaultwardenSecret : Option String
  vault : Option String
deriving DecidableEq

/-- `resolved_secret_name`: empty strings are unset. -/
def VaultwardenSecretDataItem.resolvedSecretName (item : VaultwardenSecretDataItem) :
    Option String :=
  (item.secretName.filter (· ≠ "")).or (item.vaultwardenSecret.filter (· ≠ ""))

structure VaultwardenSecretSpec where
  syncInterval : String
  defaultVault : Option String
  data : List VaultwardenSecretDataItem
deriving DecidableEq

structure StatusCondition where
  type : String
  status : String
  reason : String
  message : String
  observedGeneration : Option Int64
  lastTransitionTime : String
deriving DecidableEq

structure VaultwardenSecretStatus where
  ready : Bool
  lastSyncTime : Option String
  lastSyncError : String
  observedGeneration : Option Int64
  conditions : List StatusCondition
deriving DecidableEq

/-! ## JSON form -/

def encodeInt64 (value : Int64) : Value := .int value.toInt

def StatusCondition.encode (condition : StatusCondition) : Value :=
  .obj ([("type", .str condition.type), ("status", .str condition.status),
      ("reason", .str condition.reason), ("message", .str condition.message)] ++
    optionalMember "observedGeneration" (condition.observedGeneration.map encodeInt64) ++
    [("lastTransitionTime", .str condition.lastTransitionTime)])

def StatusCondition.decode (value : Value) : Option StatusCondition := do
  let type ← requiredField decodeStr (value.get "type")
  let status ← requiredField decodeStr (value.get "status")
  let reason ← requiredField decodeStr (value.get "reason")
  let message ← requiredField decodeStr (value.get "message")
  let observedGeneration ← optionalField decodeInt64 (value.get "observedGeneration")
  let lastTransitionTime ← requiredField decodeStr (value.get "lastTransitionTime")
  pure { type, status, reason, message, observedGeneration, lastTransitionTime }

def VaultwardenSecretStatus.members (status : VaultwardenSecretStatus) : Members :=
  [("ready", .bool status.ready)] ++
    optionalMember "lastSyncTime" (status.lastSyncTime.map .str) ++
    optionalMember "lastSyncError"
      (if status.lastSyncError = "" then none else some (.str status.lastSyncError)) ++
    optionalMember "observedGeneration" (status.observedGeneration.map encodeInt64) ++
    optionalMember "conditions"
      (if status.conditions = [] then none
        else some (.arr (status.conditions.map StatusCondition.encode)))

def VaultwardenSecretStatus.encode (status : VaultwardenSecretStatus) : Value :=
  .obj status.members

def VaultwardenSecretStatus.decode (value : Value) : Option VaultwardenSecretStatus := do
  let ready ← defaultField false decodeBool (value.get "ready")
  let lastSyncTime ← optionalField decodeStr (value.get "lastSyncTime")
  let lastSyncError ← defaultField "" decodeStr (value.get "lastSyncError")
  let observedGeneration ← optionalField decodeInt64 (value.get "observedGeneration")
  let conditions ← defaultField [] (decodeList StatusCondition.decode) (value.get "conditions")
  pure { ready, lastSyncTime, lastSyncError, observedGeneration, conditions }

/-- The status of a stored resource; absent or `null` is no status. A status that
does not deserialise makes the resource unreadable. -/
def readStatus (resource : Value) : Option (Option VaultwardenSecretStatus) :=
  optionalField VaultwardenSecretStatus.decode (resource.get "status")

theorem optional_int64 (value : Option Int64) :
    optionalField decodeInt64 (value.map encodeInt64) = some value := by
  cases value with
  | none => rfl
  | some value => simp [optionalField, encodeInt64, decode_int64_to_int]

/-- A condition survives its JSON form. -/
theorem decode_encode_condition (condition : StatusCondition) :
    StatusCondition.decode condition.encode = some condition := by
  simp [StatusCondition.decode, StatusCondition.encode, Value.get, Value.members,
    List.lookup_append, List.lookup_cons, requiredField, decodeStr, optional_int64]

theorem decode_encode_conditions (conditions : List StatusCondition) :
    decodeList StatusCondition.decode (.arr (conditions.map StatusCondition.encode)) =
      some conditions := by
  unfold decodeList
  induction conditions with
  | nil => rfl
  | cons condition rest inductionHypothesis =>
    simp only [List.map_cons, List.mapM_cons, decode_encode_condition, inductionHypothesis]
    rfl

end VaultwardenOperator.Crd
