import VaultwardenOperator.Json

/-!
# Records decoded from JSON

A derived decoder reads a record from an object, where a field that occurs twice
is refused and unknown members are passed over, or from an array of its fields in
order. A default stands in for a field that is absent, not for one that is `null`;
an optional field may be `null`, and absent only from an object.

`Record` says which values such a decoder accepts. It is connected to the
decoders field by field, so that what a nested decoder accepts is known from the
shapes of its parts.
-/

namespace VaultwardenOperator.Serde

open Json

universe u
variable {α : Type u}

/-- What a record has for one of its fields. -/
inductive Slot where
  | absent
  | ended
  | given (value : Value)

def Slot.ofMember : Option Value → Slot
  | none => .absent
  | some value => .given value

def Slot.ofElement : Option Value → Slot
  | none => .ended
  | some value => .given value

/-- The fields of a record of the given names. An array may end early. -/
def slots (names : List String) : Value → Option (String → Slot)
  | .obj members =>
    if ∀ name ∈ names, (members.map Prod.fst).count name ≤ 1 then
      some (fun name => Slot.ofMember (members.lookup name))
    else none
  | .arr items =>
    if items.length ≤ names.length then
      some (fun name => Slot.ofElement items[names.idxOf name]?)
    else none
  | _ => none

/-! ## Decoders of fields -/

/-- A field that must be there. -/
def required (decode : Value → Option α) : Slot → Option α
  | .given value => decode value
  | _ => none

/-- A field of type `Option`. -/
def optional (decode : Value → Option α) : Slot → Option (Option α)
  | .absent => some none
  | .ended => none
  | .given .null => some none
  | .given value => (decode value).map some

/-- A field with the attribute `default`. -/
def defaulted (default : α) (decode : Value → Option α) : Slot → Option α
  | .given value => decode value
  | _ => some default

/-- A value of type `Option`, under a field with the attribute `default`. -/
def nullable (decode : Value → Option α) : Value → Option (Option α)
  | .null => some none
  | value => (decode value).map some

/-- An unsigned 8-bit integer; a number outside its range is refused. -/
def decodeByte : Value → Option UInt8
  | .int value => if 0 ≤ value ∧ value ≤ 255 then some (UInt8.ofNat value.toNat) else none
  | _ => none

/-! ## Shapes -/

def IsStr : Value → Prop
  | .str _ => True
  | _ => False

def IsByte : Value → Prop
  | .int value => 0 ≤ value ∧ value ≤ 255
  | _ => False

def ListOf (shape : Value → Prop) : Value → Prop
  | .arr items => ∀ item ∈ items, shape item
  | _ => False

inductive Need where
  | required
  | optional
  | defaulted

/-- One field of a record: its name, whether it may be left out, and its shape. -/
structure Field where
  name : String
  need : Need
  shape : Value → Prop

/-- The values a field may be given. -/
def Field.Given (field : Field) (value : Value) : Prop :=
  field.shape value ∨ field.need = .optional ∧ value = .null

/-- Objects and arrays that hold a record of the given fields. -/
def Record (fields : List Field) : Value → Prop
  | .obj members => ∀ field ∈ fields, (members.map Prod.fst).count field.name ≤ 1 ∧
      match members.lookup field.name with
      | some value => field.Given value
      | none => field.need = .optional ∨ field.need = .defaulted
  | .arr items => items.length ≤ fields.length ∧
      ∀ (position : Nat) (field : Field), fields[position]? = some field →
        match items[position]? with
        | some value => field.Given value
        | none => field.need = .defaulted
  | _ => False

/-- What a field may find in its slot. -/
def Field.Fits (field : Field) : Slot → Prop
  | .absent => field.need = .optional ∨ field.need = .defaulted
  | .ended => field.need = .defaulted
  | .given value => field.Given value

/-- A record is a value with slots that its fields fit. -/
theorem record_iff (fields : List Field) (value : Value)
    (distinct : (fields.map Field.name).Nodup) :
    Record fields value ↔ ∃ slot, slots (fields.map Field.name) value = some slot ∧
      ∀ field ∈ fields, field.Fits (slot field.name) := by
  cases value with
  | obj members =>
    by_cases once : ∀ name ∈ fields.map Field.name, (members.map Prod.fst).count name ≤ 1
    · simp only [Record, slots, if_pos once, Option.some.injEq, exists_eq_left']
      apply forall₂_congr
      intro field member
      have single := once field.name (List.mem_map_of_mem member)
      cases found : members.lookup field.name <;> simp [single, Slot.ofMember, Field.Fits]
    · simp only [Record, slots, if_neg once, reduceCtorEq, false_and, exists_false, iff_false]
      intro record
      apply once
      intro name member
      obtain ⟨field, listed, rfl⟩ := List.mem_map.mp member
      exact (record field listed).1
  | arr items =>
    by_cases short : items.length ≤ fields.length
    · simp only [Record, slots, List.length_map, if_pos short, Option.some.injEq, exists_eq_left']
      have place : ∀ (position : Nat) (field : Field), fields[position]? = some field →
          (fields.map Field.name).idxOf field.name = position := by
        intro position field found
        obtain ⟨bounded, rfl⟩ := List.getElem?_eq_some_iff.mp found
        have inside : position < (fields.map Field.name).length := by simpa using bounded
        simpa using distinct.idxOf_getElem position inside
      constructor
      · rintro ⟨-, fit⟩ field member
        obtain ⟨position, found⟩ := List.mem_iff_getElem?.mp member
        have fits := fit position field found
        rw [place position field found]
        cases given : items[position]? <;> simpa [given, Slot.ofElement, Field.Fits] using fits
      · intro fit
        refine ⟨short, ?_⟩
        intro position field found
        have fits := fit field (List.mem_of_getElem? found)
        rw [place position field found] at fits
        cases given : items[position]? <;> simpa [given, Slot.ofElement, Field.Fits] using fits
    · simp [Record, slots, short]
  | null => simp [Record, slots]
  | bool => simp [Record, slots]
  | int => simp [Record, slots]
  | decimal => simp [Record, slots]
  | str => simp [Record, slots]

/-! ## What the decoders accept -/

/-- Decoders in sequence accept if and only if each does. -/
theorem exists_bind_iff {β : Type u} (first : Option α) (next : α → Option β) :
    (∃ decoded, first.bind next = some decoded) ↔
      ∃ value, first = some value ∧ ∃ decoded, next value = some decoded := by
  cases first <;> simp

/-- The decoder accepts exactly the values of a shape. -/
def Accepts (decode : Value → Option α) (shape : Value → Prop) : Prop :=
  ∀ value, (∃ decoded, decode value = some decoded) ↔ shape value

theorem str_accepts : Accepts decodeStr IsStr := by
  intro value
  cases value <;> simp [decodeStr, IsStr]

theorem byte_accepts : Accepts decodeByte IsByte := by
  intro value
  cases value <;> simp [decodeByte, IsByte]

theorem list_accepts (decode : Value → Option α) (shape : Value → Prop)
    (accepts : Accepts decode shape) : Accepts (decodeList decode) (ListOf shape) := by
  intro value
  cases value with
  | arr items =>
    simp only [decodeList, ListOf]
    induction items with
    | nil => simp
    | cons item rest inductionHypothesis =>
      rw [List.forall_mem_cons, ← inductionHypothesis, ← accepts item, List.mapM_cons]
      cases decode item <;> cases rest.mapM decode <;> simp
  | null => simp [decodeList, ListOf]
  | bool => simp [decodeList, ListOf]
  | int => simp [decodeList, ListOf]
  | decimal => simp [decodeList, ListOf]
  | str => simp [decodeList, ListOf]
  | obj => simp [decodeList, ListOf]

section
variable {decode : Value → Option α} {shape : Value → Prop} (accepts : Accepts decode shape)
  (name : String) (slot : Slot)
include accepts

theorem required_accepts :
    (∃ decoded, required decode slot = some decoded) ↔ (Field.mk name .required shape).Fits slot := by
  cases slot with
  | absent => simp [required, Field.Fits]
  | ended => simp [required, Field.Fits]
  | given value => simp [required, Field.Fits, Field.Given, accepts value]

theorem optional_accepts :
    (∃ decoded, optional decode slot = some decoded) ↔ (Field.mk name .optional shape).Fits slot := by
  cases slot with
  | absent => simp [optional, Field.Fits]
  | ended => simp [optional, Field.Fits]
  | given value => cases value <;> simp [optional, Field.Fits, Field.Given, ← accepts _]

theorem defaulted_accepts (default : α) :
    (∃ decoded, defaulted default decode slot = some decoded) ↔
      (Field.mk name .defaulted shape).Fits slot := by
  cases slot with
  | absent => simp [defaulted, Field.Fits]
  | ended => simp [defaulted, Field.Fits]
  | given value => simp [defaulted, Field.Fits, Field.Given, accepts value]

end

end VaultwardenOperator.Serde
