import Mathlib.Data.List.Nodup
import Mathlib.Data.List.Basic

/-!
# JSON values and merge patches

Objects are association lists read by their first entry; their order carries no
meaning. A number that is not written as an integer keeps its text. The merge patch is
RFC 7386: a member of the patch that is `null` deletes, any other member is merged into
the target, and a member that is left out keeps what is there.

Decoding follows serde: a decoder may refuse a value, a field that is absent
has its default if it has one, and an optional field may be absent or `null`.
-/

namespace VaultwardenOperator.Json

universe u
variable {α : Type u}

inductive Value where
  | null
  | bool (value : Bool)
  | int (value : Int)
  | decimal (text : String)
  | str (value : String)
  | arr (items : List Value)
  | obj (members : List (String × Value))

abbrev Members := List (String × Value)

/-- The members of an object; every other value has none. -/
def Value.members : Value → Members
  | .obj members => members
  | _ => []

def Value.get (value : Value) (name : String) : Option Value := value.members.lookup name

/-- Members without those of one name. -/
def erase (name : String) (members : Members) : Members :=
  members.filter (fun entry => entry.1 ≠ name)

/-- One value for a name, in the place of any others. -/
def insert (name : String) (value : Value) (members : Members) : Members :=
  (name, value) :: erase name members

mutual

/-- `MergePatch` of RFC 7386, of a target and a patch. -/
def mergePatch (target : Value) : Value → Value
  | .obj patch => .obj (mergeMembers target.members patch)
  | patch => patch

/-- The members of the patch are merged one after the other. -/
def mergeMembers (target : Members) : Members → Members
  | [] => target
  | (name, value) :: rest => mergeMembers (mergeMember target name value) rest

def mergeMember (target : Members) (name : String) : Value → Members
  | .null => erase name target
  | value => insert name (mergePatch ((target.lookup name).getD .null) value) target

end

/-! ## Laws of members -/

/-- A member of another name is passed over. -/
theorem lookup_cons_other (key : String) (entry : String × Value) (rest : Members)
    (other : key ≠ entry.1) : (entry :: rest).lookup key = rest.lookup key := by
  have skipped : (key == entry.1) = false := by simpa using other
  rw [List.lookup_cons, skipped]

@[simp] theorem lookup_erase_self (name : String) (members : Members) :
    (erase name members).lookup name = none := by
  rw [List.lookup_eq_none_iff]
  intro entry member
  have kept : entry.1 ≠ name := by simpa using (List.mem_filter.mp member).2
  simpa using kept.symm

@[simp] theorem lookup_erase_other (name key : String) (members : Members) (other : key ≠ name) :
    (erase name members).lookup key = members.lookup key := by
  induction members with
  | nil => rfl
  | cons entry rest inductionHypothesis =>
    by_cases erased : entry.1 = name
    · rw [erase, List.filter_cons_of_neg (by simpa using erased),
        lookup_cons_other key entry rest (by rwa [erased])]
      exact inductionHypothesis
    · rw [erase, List.filter_cons_of_pos (by simpa using erased), List.lookup_cons,
        List.lookup_cons]
      split
      · rfl
      · exact inductionHypothesis

@[simp] theorem lookup_insert_self (name : String) (value : Value) (members : Members) :
    (insert name value members).lookup name = some value := by
  simp [insert]

@[simp] theorem lookup_insert_other (name key : String) (value : Value) (members : Members)
    (other : key ≠ name) : (insert name value members).lookup key = members.lookup key := by
  rw [insert, lookup_cons_other key _ _ other, lookup_erase_other name key members other]

/-- A member of a merged object, from the member of the target and that of the patch. -/
def patched (target : Option Value) : Option Value → Option Value
  | none => target
  | some .null => none
  | some value => some (mergePatch (target.getD .null) value)

theorem lookup_merge_member_self (target : Members) (name : String) (value : Value) :
    (mergeMember target name value).lookup name = patched (target.lookup name) (some value) := by
  cases value <;> simp [mergeMember, patched]

theorem lookup_merge_member_other (target : Members) (name key : String) (value : Value)
    (other : key ≠ name) : (mergeMember target name value).lookup key = target.lookup key := by
  cases value <;> simp [mergeMember, other]

/-- Members that the patch does not name stay. -/
theorem lookup_merge_absent (target patch : Members) (key : String)
    (absent : patch.lookup key = none) :
    (mergeMembers target patch).lookup key = target.lookup key := by
  induction patch generalizing target with
  | nil => simp [mergeMembers]
  | cons entry rest inductionHypothesis =>
    rw [List.lookup_cons] at absent
    split at absent
    · cases absent
    · rename_i distinct
      have other : key ≠ entry.1 := by simpa using distinct
      rw [mergeMembers, inductionHypothesis _ absent,
        lookup_merge_member_other target entry.1 key entry.2 other]

/-- The law of a merge: with distinct names in the patch, each member of the
result depends on the target's and the patch's members of that name. -/
theorem lookup_merge (target patch : Members) (key : String)
    (distinct : (patch.map Prod.fst).Nodup) :
    (mergeMembers target patch).lookup key = patched (target.lookup key) (patch.lookup key) := by
  induction patch generalizing target with
  | nil => simp [mergeMembers, patched]
  | cons entry rest inductionHypothesis =>
    obtain ⟨unrepeated, others⟩ := List.nodup_cons.mp distinct
    rw [mergeMembers]
    by_cases same : key = entry.1
    · subst same
      have absent : rest.lookup entry.1 = none := by
        rw [List.lookup_eq_none_iff]
        intro later member
        have apart : entry.1 ≠ later.1 := fun equal =>
          unrepeated (equal ▸ List.mem_map_of_mem member)
        simpa using apart
      rw [lookup_merge_absent _ rest entry.1 absent, lookup_merge_member_self, List.lookup_cons_self]
    · rw [inductionHypothesis _ others, lookup_merge_member_other target entry.1 key entry.2 same,
        lookup_cons_other key entry rest same]

/-! ## Decoding -/

def decodeBool : Value → Option Bool
  | .bool value => some value
  | _ => none

def decodeStr : Value → Option String
  | .str value => some value
  | _ => none

/-- A signed 64-bit integer; a number outside its range is refused. -/
def decodeInt64 : Value → Option Int64
  | .int value =>
      if Int64.minValue.toInt ≤ value ∧ value ≤ Int64.maxValue.toInt then some (Int64.ofInt value)
      else none
  | _ => none

def decodeList (decode : Value → Option α) : Value → Option (List α)
  | .arr items => items.mapM decode
  | _ => none

/-- A field that must be there. -/
def requiredField (decode : Value → Option α) (field : Option Value) : Option α := field.bind decode

/-- A field with a default; `null` is not an absent field. -/
def defaultField (default : α) (decode : Value → Option α) : Option Value → Option α
  | none => some default
  | some value => decode value

/-- An optional field. -/
def optionalField (decode : Value → Option α) : Option Value → Option (Option α)
  | none => some none
  | some .null => some none
  | some value => (decode value).map some

/-- A member that is written only when there is a value. -/
def optionalMember (name : String) (value : Option Value) : Members :=
  (value.map (fun value => (name, value))).toList

@[simp] theorem lookup_optional_member (name key : String) (value : Option Value) :
    (optionalMember name value).lookup key = if key = name then value else none := by
  cases value with
  | none => simp [optionalMember]
  | some value =>
    by_cases same : key = name
    · simp [optionalMember, same]
    · rw [if_neg same]
      exact lookup_cons_other key (name, value) [] same

/-- An optional member adds at most its name. -/
theorem optional_member_names (name : String) (value : Option Value) :
    ((optionalMember name value).map Prod.fst).Sublist [name] := by
  cases value <;> simp [optionalMember]

theorem decode_int64_to_int (value : Int64) : decodeInt64 (.int value.toInt) = some value := by
  have inRange : Int64.minValue.toInt ≤ value.toInt ∧ value.toInt ≤ Int64.maxValue.toInt :=
    ⟨value.minValue_le_toInt, value.toInt_le⟩
  simp only [decodeInt64, if_pos inRange, Int64.ofInt_toInt]

end VaultwardenOperator.Json
