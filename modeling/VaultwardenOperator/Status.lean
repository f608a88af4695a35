import VaultwardenOperator.Crd
import VaultwardenOperator.Machine
import Mathlib.Data.List.Induction

/-!
# The status state machine

A reconcile ends by computing a new status from the one it has read and sending
it as a merge patch. The patch leaves out what the new status leaves empty, so
the stored status is the new one laid over the old one; the error, which must
be able to go away, is deleted explicitly. The statuses that the two helpers
compute leave nothing else out that they mean to clear.
-/

namespace VaultwardenOperator.Status

open Json Crd Machine

def conditionReady : String := "Ready"
def conditionSyncFailed : String := "SyncFailed"

theorem ready_ne_sync_failed : conditionReady ≠ conditionSyncFailed := by decide

/-- The types of conditions that the helpers are not about. -/
def isOther (type : String) : Bool :=
  decide (type ≠ conditionReady ∧ type ≠ conditionSyncFailed)

theorem other_ready : isOther conditionReady = false := by decide

theorem other_sync_failed : isOther conditionSyncFailed = false := by decide

/-- `upsert_condition`: replace the first condition of the type, or append. -/
def upsertCondition (new : StatusCondition) : List StatusCondition → List StatusCondition
  | [] => [new]
  | condition :: rest =>
      if condition.type = new.type then new :: rest else condition :: upsertCondition new rest

/-- The status that `set_ready_status` sends. -/
def setReadyStatus (read : Option VaultwardenSecretStatus) (generation : Int64) (now : String) :
    VaultwardenSecretStatus where
  ready := true
  lastSyncTime := some now
  lastSyncError := ""
  observedGeneration := some generation
  conditions := upsertCondition
    { type := conditionReady
      status := "True"
      reason := "SyncSucceeded"
      message := "Vault secrets synced successfully"
      observedGeneration := some generation
      lastTransitionTime := now }
    ((read.elim [] (·.conditions)).filter (fun condition => condition.type ≠ conditionSyncFailed))

/-- The status that `set_failed_status` sends. -/
def setFailedStatus (read : Option VaultwardenSecretStatus) (generation : Int64)
    (now msg : String) : VaultwardenSecretStatus where
  ready := false
  lastSyncTime := read.bind (·.lastSyncTime)
  lastSyncError := msg
  observedGeneration := some generation
  conditions := upsertCondition
    { type := conditionSyncFailed
      status := "True"
      reason := "SyncFailed"
      message := msg
      observedGeneration := some generation
      lastTransitionTime := now }
    (upsertCondition
      { type := conditionReady
        status := "False"
        reason := "SyncFailed"
        message := msg
        observedGeneration := some generation
        lastTransitionTime := now }
      (read.elim [] (·.conditions)))

/-- The members of the patch: those of the status, with `null` for an empty error. -/
def patchMembers (status : VaultwardenSecretStatus) : Members :=
  if status.lastSyncError = "" then insert "lastSyncError" .null status.members
  else status.members

/-- `status_patch`. -/
def statusPatch (status : VaultwardenSecretStatus) : Value :=
  .obj [("status", .obj (patchMembers status))]

/-- `patch_status`: what the server stores. -/
def patchStatus (stored : Value) (status : VaultwardenSecretStatus) : Value :=
  mergePatch stored (statusPatch status)

/-! ## The stored status -/

/-- A status laid over the stored one: what it leaves empty stays, except the error. -/
def overlay (old : Option VaultwardenSecretStatus) (new : VaultwardenSecretStatus) :
    VaultwardenSecretStatus where
  ready := new.ready
  lastSyncTime := new.lastSyncTime.or (old.bind (·.lastSyncTime))
  lastSyncError := new.lastSyncError
  observedGeneration := new.observedGeneration.or (old.bind (·.observedGeneration))
  conditions := if new.conditions = [] then old.elim [] (·.conditions) else new.conditions

/-- The members of the stored status. -/
def statusMembers (resource : Value) : Members := ((resource.get "status").getD .null).members

/-- A status has each member once. -/
theorem members_distinct (status : VaultwardenSecretStatus) :
    (status.members.map Prod.fst).Nodup := by
  have names : (status.members.map Prod.fst).Sublist
      (["ready"] ++ ["lastSyncTime"] ++ ["lastSyncError"] ++ ["observedGeneration"] ++
        ["conditions"]) := by
    simp only [VaultwardenSecretStatus.members, List.map_append]
    refine List.Sublist.append (List.Sublist.append (List.Sublist.append (List.Sublist.append ?_
      ?_) ?_) ?_) ?_
    · exact List.Sublist.refl _
    all_goals exact optional_member_names _ _
  exact names.nodup (by decide)

theorem erase_distinct (name : String) (members : Members)
    (distinct : (members.map Prod.fst).Nodup) :
    ((erase name members).map Prod.fst).Nodup :=
  (List.Sublist.map Prod.fst List.filter_sublist).nodup distinct

theorem patch_members_distinct (status : VaultwardenSecretStatus) :
    ((patchMembers status).map Prod.fst).Nodup := by
  unfold patchMembers
  split_ifs
  · refine List.nodup_cons.mpr ⟨?_, erase_distinct _ _ (members_distinct status)⟩
    simp [erase]
  · exact members_distinct status

/-- The stored members after a patch. -/
theorem status_members_patch (stored : Value) (status : VaultwardenSecretStatus) :
    (patchStatus stored status).get "status" =
      some (.obj (mergeMembers (statusMembers stored) (patchMembers status))) := by
  simp only [patchStatus, statusPatch, mergePatch, Value.get, Value.members]
  rw [lookup_merge _ _ _ (by simp), List.lookup_cons_self]
  simp only [patched, mergePatch]
  rfl

theorem lookup_status_patch (stored : Value) (status : VaultwardenSecretStatus) (key : String) :
    (mergeMembers (statusMembers stored) (patchMembers status)).lookup key =
      patched ((statusMembers stored).lookup key) ((patchMembers status).lookup key) :=
  lookup_merge _ _ key (patch_members_distinct status)

/-- What a readable stored status gives for the fields that a patch may leave out. -/
theorem stored_fields (stored : Value) (old : Option VaultwardenSecretStatus)
    (reads : readStatus stored = some old) :
    optionalField decodeStr ((statusMembers stored).lookup "lastSyncTime") =
        some (old.bind (·.lastSyncTime)) ∧
      optionalField decodeInt64 ((statusMembers stored).lookup "observedGeneration") =
        some (old.bind (·.observedGeneration)) ∧
      defaultField [] (decodeList StatusCondition.decode)
        ((statusMembers stored).lookup "conditions") = some (old.elim [] (·.conditions)) := by
  unfold readStatus optionalField at reads
  unfold statusMembers
  split at reads
  · rename_i absent
    cases reads
    rw [absent]
    exact ⟨rfl, rfl, rfl⟩
  · rename_i isNull
    cases reads
    rw [isNull]
    exact ⟨rfl, rfl, rfl⟩
  · rename_i value _ present
    rw [present]
    obtain ⟨status, decoded, same⟩ := Option.map_eq_some_iff.mp reads
    subst same
    simp only [VaultwardenSecretStatus.decode, Option.bind_eq_bind,
      Option.bind_eq_some_iff] at decoded
    obtain ⟨ready, -, lastSyncTime, timeIs, lastSyncError, -, generation, generationIs,
      conditions, conditionsAre, built⟩ := decoded
    cases built
    exact ⟨timeIs, generationIs, conditionsAre⟩

/-- The members of a patch. -/
theorem lookup_patch_members (status : VaultwardenSecretStatus) :
    (patchMembers status).lookup "ready" = some (.bool status.ready) ∧
      (patchMembers status).lookup "lastSyncTime" = status.lastSyncTime.map .str ∧
      (patchMembers status).lookup "lastSyncError" =
        some (if status.lastSyncError = "" then .null else .str status.lastSyncError) ∧
      (patchMembers status).lookup "observedGeneration" =
        status.observedGeneration.map encodeInt64 ∧
      (patchMembers status).lookup "conditions" =
        if status.conditions = [] then none
        else some (.arr (status.conditions.map StatusCondition.encode)) := by
  unfold patchMembers
  by_cases cleared : status.lastSyncError = "" <;>
    simp [cleared, VaultwardenSecretStatus.members, List.lookup_append, List.lookup_cons]

/-- The stored status after a patch is the new one laid over the old one. -/
theorem read_patched (stored : Value) (old : Option VaultwardenSecretStatus)
    (new : VaultwardenSecretStatus) (reads : readStatus stored = some old) :
    readStatus (patchStatus stored new) = some (some (overlay old new)) := by
  obtain ⟨time, generation, conditions⟩ := stored_fields stored old reads
  obtain ⟨readyNew, timeNew, errorNew, generationNew, conditionsNew⟩ := lookup_patch_members new
  have ready : defaultField false decodeBool ((mergeMembers (statusMembers stored)
      (patchMembers new)).lookup "ready") = some new.ready := by
    rw [lookup_status_patch, readyNew]
    simp [patched, mergePatch, defaultField, decodeBool]
  have lastSyncTime : optionalField decodeStr ((mergeMembers (statusMembers stored)
      (patchMembers new)).lookup "lastSyncTime") = some (overlay old new).lastSyncTime := by
    rw [lookup_status_patch, timeNew]
    cases value : new.lastSyncTime with
    | none => simpa [patched, overlay, value] using time
    | some now => simp [patched, mergePatch, optionalField, decodeStr, overlay, value]
  have lastSyncError : defaultField "" decodeStr ((mergeMembers (statusMembers stored)
      (patchMembers new)).lookup "lastSyncError") = some new.lastSyncError := by
    rw [lookup_status_patch, errorNew]
    by_cases cleared : new.lastSyncError = ""
    · simp [patched, defaultField, cleared]
    · simp [patched, mergePatch, defaultField, decodeStr, cleared]
  have observedGeneration : optionalField decodeInt64 ((mergeMembers (statusMembers stored)
      (patchMembers new)).lookup "observedGeneration") =
        some (overlay old new).observedGeneration := by
    rw [lookup_status_patch, generationNew]
    cases value : new.observedGeneration with
    | none => simpa [patched, overlay, value] using generation
    | some value' =>
      simp [patched, mergePatch, optionalField, encodeInt64, decode_int64_to_int, overlay, value]
  have conditionsRead : defaultField [] (decodeList StatusCondition.decode)
      ((mergeMembers (statusMembers stored) (patchMembers new)).lookup "conditions") =
        some (overlay old new).conditions := by
    rw [lookup_status_patch, conditionsNew]
    by_cases none : new.conditions = []
    · simpa [patched, overlay, none] using conditions
    · simp [patched, mergePatch, defaultField, decode_encode_conditions, overlay, none]
  have decoded : VaultwardenSecretStatus.decode
      (.obj (mergeMembers (statusMembers stored) (patchMembers new))) = some (overlay old new) := by
    simp only [VaultwardenSecretStatus.decode, Value.get, Value.members, ready, lastSyncTime,
      lastSyncError, observedGeneration, conditionsRead]
    rfl
  rw [readStatus, status_members_patch]
  simp only [optionalField, decoded, Option.map_some]

/-- The error is absent from the stored status exactly when it is empty. -/
theorem patched_error (stored : Value) (new : VaultwardenSecretStatus) :
    (statusMembers (patchStatus stored new)).lookup "lastSyncError" =
      if new.lastSyncError = "" then none else some (.str new.lastSyncError) := by
  obtain ⟨-, -, errorNew, -, -⟩ := lookup_patch_members new
  rw [statusMembers, status_members_patch, Option.getD_some]
  simp only [Value.members, lookup_status_patch, errorNew]
  by_cases cleared : new.lastSyncError = ""
  · simp [patched, cleared]
  · simp [patched, mergePatch, cleared]

/-! ## Conditions -/

/-- Replacing a condition changes no condition that a test on types leaves out. -/
theorem filter_upsert (keep : String → Bool) (new : StatusCondition)
    (conditions : List StatusCondition) (apart : keep new.type = false) :
    (upsertCondition new conditions).filter (fun condition => keep condition.type) =
      conditions.filter (fun condition => keep condition.type) := by
  induction conditions with
  | nil => simp [upsertCondition, apart]
  | cons condition rest inductionHypothesis =>
    by_cases same : condition.type = new.type
    · simp [upsertCondition, same, apart]
    · simp [upsertCondition, same, List.filter_cons, inductionHypothesis]

/-- The types after an upsert. -/
theorem types_upsert (new : StatusCondition) (conditions : List StatusCondition) :
    (upsertCondition new conditions).map StatusCondition.type =
      if new.type ∈ conditions.map StatusCondition.type then
        conditions.map StatusCondition.type
      else conditions.map StatusCondition.type ++ [new.type] := by
  induction conditions with
  | nil => simp [upsertCondition]
  | cons condition rest inductionHypothesis =>
    by_cases same : condition.type = new.type
    · simp [upsertCondition, same]
    · have apart : ¬ new.type = condition.type := fun equal => same equal.symm
      simp only [upsertCondition, same, if_false, List.map_cons, inductionHypothesis,
        List.mem_cons, apart, false_or]
      split_ifs <;> rfl

theorem distinct_upsert (new : StatusCondition) (conditions : List StatusCondition)
    (distinct : (conditions.map StatusCondition.type).Nodup) :
    ((upsertCondition new conditions).map StatusCondition.type).Nodup := by
  rw [types_upsert]
  split_ifs with present
  · exact distinct
  · refine List.nodup_append.mpr ⟨distinct, List.nodup_singleton _, ?_⟩
    rintro type member _ single rfl
    rw [List.mem_singleton.mp single] at member
    exact present member

theorem mem_upsert (new : StatusCondition) (conditions : List StatusCondition) :
    new ∈ upsertCondition new conditions := by
  induction conditions with
  | nil => exact List.mem_cons_self
  | cons condition rest inductionHypothesis =>
    unfold upsertCondition
    split_ifs
    · exact List.mem_cons_self
    · exact List.mem_cons_of_mem _ inductionHypothesis

/-- With one condition per type, the condition of the type is the new one. -/
theorem upsert_unique (new condition : StatusCondition) (conditions : List StatusCondition)
    (distinct : (conditions.map StatusCondition.type).Nodup)
    (member : condition ∈ upsertCondition new conditions) (same : condition.type = new.type) :
    condition = new :=
  List.inj_on_of_nodup_map (distinct_upsert new conditions distinct) member
    (mem_upsert new conditions) same

/-- A condition of another type comes from before. -/
theorem mem_upsert_other (new condition : StatusCondition) (conditions : List StatusCondition)
    (other : condition.type ≠ new.type) :
    condition ∈ upsertCondition new conditions ↔ condition ∈ conditions := by
  have filtered := filter_upsert (fun type => decide (type ≠ new.type)) new conditions (by simp)
  constructor
  · intro member
    have kept : condition ∈ conditions.filter
        (fun condition => decide (condition.type ≠ new.type)) := by
      rw [← filtered]
      exact List.mem_filter.mpr ⟨member, by simpa using other⟩
    exact (List.mem_filter.mp kept).1
  · intro member
    have kept : condition ∈ (upsertCondition new conditions).filter
        (fun condition => decide (condition.type ≠ new.type)) := by
      rw [filtered]
      exact List.mem_filter.mpr ⟨member, by simpa using other⟩
    exact (List.mem_filter.mp kept).1

/-! ## What the helpers compute -/

/-- The four encodings of success agree, and no condition type occurs twice. -/
structure Consistent (status : VaultwardenSecretStatus) : Prop where
  condition : status.ready = true ↔
    ∃ condition ∈ status.conditions, condition.type = conditionReady ∧ condition.status = "True"
  failure : status.ready = true ↔
    ∀ condition ∈ status.conditions, condition.type ≠ conditionSyncFailed
  error : status.ready = true ↔ status.lastSyncError = ""
  distinct : (status.conditions.map StatusCondition.type).Nodup

/-- At most one condition per type in the status that is read. -/
def DistinctConditions (read : Option VaultwardenSecretStatus) : Prop :=
  ((read.elim [] (·.conditions)).map StatusCondition.type).Nodup

/-- The conditions that the helpers are not about. -/
def otherConditions (read : Option VaultwardenSecretStatus) : List StatusCondition :=
  (read.elim [] (·.conditions)).filter (fun condition => isOther condition.type)

theorem ready_consistent (read : Option VaultwardenSecretStatus) (generation : Int64)
    (now : String) (distinct : DistinctConditions read) :
    Consistent (setReadyStatus read generation now) where
  condition := by
    constructor
    · intro ready
      exact ⟨_, mem_upsert _ _, rfl, rfl⟩
    · intro present
      rfl
  failure := by
    constructor
    · intro ready condition member failed
      have other : condition.type ≠ conditionReady := by
        rw [failed]
        exact ready_ne_sync_failed.symm
      have old := (mem_upsert_other _ condition _ other).mp member
      simp [failed] at old
    · intro noFailure
      rfl
  error := by
    constructor
    · intro ready
      rfl
    · intro cleared
      rfl
  distinct := by
    apply distinct_upsert
    exact (List.Sublist.map _ List.filter_sublist).nodup distinct

theorem failed_consistent (read : Option VaultwardenSecretStatus) (generation : Int64)
    (now msg : String) (explained : msg ≠ "") (distinct : DistinctConditions read) :
    Consistent (setFailedStatus read generation now msg) := by
  have distinctReady := distinct_upsert
    { type := conditionReady, status := "False", reason := "SyncFailed", message := msg,
      observedGeneration := some generation, lastTransitionTime := now }
    (read.elim [] (·.conditions)) distinct
  have notReady : ¬ (setFailedStatus read generation now msg).ready = true := by
    simp [setFailedStatus]
  constructor
  · apply iff_of_false notReady
    rintro ⟨condition, member, type, isTrue⟩
    have other : condition.type ≠ conditionSyncFailed := by
      rw [type]
      exact ready_ne_sync_failed
    have inner := (mem_upsert_other _ condition _ other).mp member
    rw [upsert_unique _ condition _ distinct inner type] at isTrue
    exact absurd isTrue (by simp)
  · apply iff_of_false notReady
    intro noFailure
    exact noFailure _ (mem_upsert _ _) rfl
  · exact iff_of_false notReady explained
  · exact distinct_upsert _ _ distinctReady

theorem ready_other_conditions (read : Option VaultwardenSecretStatus) (generation : Int64)
    (now : String) :
    otherConditions (some (setReadyStatus read generation now)) = otherConditions read := by
  simp only [otherConditions, Option.elim_some, setReadyStatus]
  rw [filter_upsert isOther _ _ other_ready, List.filter_filter]
  refine List.filter_congr (fun condition _ => ?_)
  by_cases failed : condition.type = conditionSyncFailed <;> simp [failed, other_sync_failed]

theorem failed_other_conditions (read : Option VaultwardenSecretStatus) (generation : Int64)
    (now msg : String) :
    otherConditions (some (setFailedStatus read generation now msg)) = otherConditions read := by
  simp only [otherConditions, Option.elim_some, setFailedStatus]
  rw [filter_upsert isOther _ _ other_sync_failed, filter_upsert isOther _ _ other_ready]

theorem upsert_nonempty (new : StatusCondition) (conditions : List StatusCondition) :
    upsertCondition new conditions ≠ [] :=
  List.ne_nil_of_mem (mem_upsert new conditions)

/-- Laid over the status it was computed from, a success is itself. -/
theorem overlay_ready (read : Option VaultwardenSecretStatus) (generation : Int64) (now : String) :
    overlay read (setReadyStatus read generation now) = setReadyStatus read generation now := by
  simp [overlay, setReadyStatus, upsert_nonempty]

theorem overlay_failed (read : Option VaultwardenSecretStatus) (generation : Int64)
    (now msg : String) :
    overlay read (setFailedStatus read generation now msg) =
      setFailedStatus read generation now msg := by
  simp [overlay, setFailedStatus, upsert_nonempty]

/-! ## Runs of outcomes -/

/-- The outcome of a reconcile. A failure has a message. -/
inductive Outcome where
  | succeeded (generation : Int64) (now : String)
  | failed (generation : Int64) (now msg : String) (explained : msg ≠ "")

/-- The status that the helper of the outcome computes from the one it reads. -/
def Outcome.status (read : Option VaultwardenSecretStatus) : Outcome → VaultwardenSecretStatus
  | .succeeded generation now => setReadyStatus read generation now
  | .failed generation now msg _ => setFailedStatus read generation now msg

def Outcome.successTime : Outcome → Option String
  | .succeeded _ now => some now
  | .failed _ _ _ _ => none

/-- One reconcile: it reads the stored status and patches the stored resource. -/
def step : Step Value Outcome := fun stored outcome =>
  (readStatus stored).map (fun read => patchStatus stored (outcome.status read))

/-- The status that the last helper of a sequence computes, each reading that of
the one before. -/
def computed (initial : Option VaultwardenSecretStatus) (outcomes : List Outcome) :
    Option VaultwardenSecretStatus :=
  outcomes.foldl (fun read outcome => some (outcome.status read)) initial

theorem computed_snoc (initial : Option VaultwardenSecretStatus) (outcomes : List Outcome)
    (outcome : Outcome) :
    computed initial (outcomes ++ [outcome]) =
      some (outcome.status (computed initial outcomes)) := by
  simp [computed]

theorem outcome_overlay (read : Option VaultwardenSecretStatus) (outcome : Outcome) :
    overlay read (outcome.status read) = outcome.status read := by
  cases outcome with
  | succeeded generation now => exact overlay_ready read generation now
  | failed generation now msg explained => exact overlay_failed read generation now msg

theorem outcome_consistent (read : Option VaultwardenSecretStatus) (outcome : Outcome)
    (distinct : DistinctConditions read) : Consistent (outcome.status read) := by
  cases outcome with
  | succeeded generation now => exact ready_consistent read generation now distinct
  | failed generation now msg explained =>
    exact failed_consistent read generation now msg explained distinct

theorem outcome_other_conditions (read : Option VaultwardenSecretStatus) (outcome : Outcome) :
    otherConditions (some (outcome.status read)) = otherConditions read := by
  cases outcome with
  | succeeded generation now => exact ready_other_conditions read generation now
  | failed generation now msg explained => exact failed_other_conditions read generation now msg

theorem outcome_last_sync_time (read : Option VaultwardenSecretStatus) (outcome : Outcome) :
    (outcome.status read).lastSyncTime =
      outcome.successTime.or (read.bind (·.lastSyncTime)) := by
  cases outcome <;> rfl

/-- One step stores exactly what the helper computed. -/
theorem step_exact (stored : Value) (read : Option VaultwardenSecretStatus) (outcome : Outcome)
    (reads : readStatus stored = some read) :
    step stored outcome = some (patchStatus stored (outcome.status read)) ∧
      readStatus (patchStatus stored (outcome.status read)) = some (some (outcome.status read)) := by
  constructor
  · simp [step, reads]
  · rw [read_patched stored read _ reads, outcome_overlay]

/-- No step is refused, and the stored status is always the computed one. -/
theorem run_exact (stored : Value) (initial : Option VaultwardenSecretStatus)
    (outcomes : List Outcome) (reads : readStatus stored = some initial) :
    ∃ last, run step stored outcomes = some last ∧
      readStatus last = some (computed initial outcomes) := by
  induction outcomes generalizing stored initial with
  | nil => exact ⟨stored, rfl, reads⟩
  | cons outcome rest inductionHypothesis =>
    obtain ⟨taken, readsNext⟩ := step_exact stored initial outcome reads
    obtain ⟨last, following, readsLast⟩ := inductionHypothesis _ _ readsNext
    refine ⟨last, ?_, readsLast⟩
    rw [run_next step stored _ outcome rest taken]
    exact following

/-- What a sequence of outcomes keeps of the status it starts from. -/
theorem computed_keeps (initial : Option VaultwardenSecretStatus) (outcomes : List Outcome)
    (distinct : DistinctConditions initial) :
    DistinctConditions (computed initial outcomes) ∧
      otherConditions (computed initial outcomes) = otherConditions initial ∧
      (computed initial outcomes).bind (·.lastSyncTime) =
        (outcomes.reverse.findSome? Outcome.successTime).or (initial.bind (·.lastSyncTime)) := by
  induction outcomes using List.reverseRecOn with
  | nil => exact ⟨distinct, rfl, rfl⟩
  | append_singleton before outcome inductionHypothesis =>
    obtain ⟨distinctBefore, othersBefore, timeBefore⟩ := inductionHypothesis
    rw [computed_snoc]
    refine ⟨(outcome_consistent _ outcome distinctBefore).distinct, ?_, ?_⟩
    · rw [outcome_other_conditions, othersBefore]
    · rw [Option.bind_some, outcome_last_sync_time, timeBefore, List.reverse_append,
        List.reverse_singleton, List.singleton_append, List.findSome?_cons]
      cases outcome.successTime <;> rfl

/-- The status state machine through the merge patch. From an absent status, or
any status with at most one condition per type, after any sequence of outcomes
the stored status is exactly the one computed last; success has one meaning in
all its encodings, conditions of other types are untouched, and the last sync
time is that of the last success. -/
theorem stored_status_exact (stored : Value) (initial : Option VaultwardenSecretStatus)
    (outcomes : List Outcome) (reads : readStatus stored = some initial)
    (distinct : DistinctConditions initial) (nonempty : outcomes ≠ []) :
    ∃ last status, run step stored outcomes = some last ∧
      computed initial outcomes = some status ∧ readStatus last = some (some status) ∧
      Consistent status ∧
      (status.ready = true ↔ (statusMembers last).lookup "lastSyncError" = none) ∧
      otherConditions (some status) = otherConditions initial ∧
      status.lastSyncTime =
        (outcomes.reverse.findSome? Outcome.successTime).or (initial.bind (·.lastSyncTime)) := by
  obtain ⟨before, outcome, rfl⟩ : ∃ before outcome, outcomes = before ++ [outcome] :=
    ⟨_, _, (List.dropLast_append_getLast nonempty).symm⟩
  obtain ⟨middle, reached, readsMiddle⟩ := run_exact stored initial before reads
  obtain ⟨distinctBefore, -, -⟩ := computed_keeps initial before distinct
  obtain ⟨-, others, time⟩ := computed_keeps initial (before ++ [outcome]) distinct
  obtain ⟨taken, readsLast⟩ := step_exact middle _ outcome readsMiddle
  have consistent := outcome_consistent (computed initial before) outcome distinctBefore
  rw [computed_snoc] at others time
  refine ⟨_, _, ?_, computed_snoc initial before outcome, readsLast, consistent, ?_, others, time⟩
  · rw [run_append step stored middle before [outcome] reached,
      run_next step middle _ outcome [] taken]
    rfl
  · rw [patched_error, consistent.error]
    split_ifs with cleared <;> simp [cleared]

/-- A resource whose status names an old success, and then a failure and a success. -/
theorem stored_status_exact_sample :
    ∃ last status,
      run step (.obj [("status", .obj [("ready", .bool true), ("lastSyncTime", .str "t0")])])
        [.failed 1 "t1" "boom" (by decide), .succeeded 1 "t2"] = some last ∧
      readStatus last = some (some status) ∧ status.ready = true ∧
      (statusMembers last).lookup "lastSyncError" = none ∧ status.lastSyncTime = some "t2" := by
  obtain ⟨last, status, ran, computedIs, reads, -, cleared, -, time⟩ :=
    stored_status_exact
      (.obj [("status", .obj [("ready", .bool true), ("lastSyncTime", .str "t0")])])
      (some ⟨true, some "t0", "", none, []⟩)
      [.failed 1 "t1" "boom" (by decide), .succeeded 1 "t2"] (by rfl) List.nodup_nil (by simp)
  cases computedIs
  exact ⟨last, _, ran, reads, rfl, cleared.mp rfl, time⟩

end VaultwardenOperator.Status
