import VaultwardenOperator.Serde
import Mathlib.Logic.Relation

/-!
# Documents that grow

A shape says which parts of a JSON value a derived decoder looks into: the items of a
list, and the fields of a record by their names. A document grows when a member that no
field names is added to one of its records, at any depth. A decoder that follows the shape
does not see it: it refuses the grown document when it refuses the old one, and else
returns the same.
-/

namespace VaultwardenOperator.Growth

open Json Serde

universe u
variable {α : Type u}

/-- What a decoder looks into. -/
inductive Shape where
  | leaf
  | list (item : Shape)
  | record (fields : List (String × Shape))

/-- One member that no field names is added somewhere below. -/
inductive Grows : Shape → Value → Value → Prop where
  | unknown (fields : List (String × Shape)) (before after : Members) (name : String)
      (value : Value) (fresh : name ∉ fields.map Prod.fst) :
      Grows (.record fields) (.obj (before ++ after)) (.obj (before ++ (name, value) :: after))
  | member (fields : List (String × Shape)) (before after : Members) (name : String)
      (shape : Shape) (old new : Value) (known : (name, shape) ∈ fields)
      (inside : Grows shape old new) :
      Grows (.record fields) (.obj (before ++ (name, old) :: after))
        (.obj (before ++ (name, new) :: after))
  | position (fields : List (String × Shape)) (before after : List Value) (name : String)
      (shape : Shape) (old new : Value) (known : fields[before.length]? = some (name, shape))
      (inside : Grows shape old new) :
      Grows (.record fields) (.arr (before ++ old :: after)) (.arr (before ++ new :: after))
  | item (shape : Shape) (before after : List Value) (old new : Value)
      (inside : Grows shape old new) :
      Grows (.list shape) (.arr (before ++ old :: after)) (.arr (before ++ new :: after))

/-- Any number of members are added, one after the other. -/
abbrev GrowsTo (shape : Shape) : Value → Value → Prop := Relation.ReflTransGen (Grows shape)

/-- The decoder does not see that its document has grown. -/
def Blind (decode : Value → Option α) (shape : Shape) : Prop :=
  ∀ old new, Grows shape old new → decode new = decode old

/-- What is not seen once is not seen at all. -/
theorem blind_to (decode : Value → Option α) (shape : Shape) (blind : Blind decode shape)
    (old new : Value) (grown : GrowsTo shape old new) : decode new = decode old := by
  induction grown with
  | refl => rfl
  | tail earlier last inductionHypothesis => rw [blind _ _ last, inductionHypothesis]

/-- What grows is an object or an array. -/
theorem grows_not_null (shape : Shape) (old new : Value) (grows : Grows shape old new) :
    old ≠ .null ∧ new ≠ .null := by
  cases grows <;> exact ⟨Value.noConfusion, Value.noConfusion⟩

/-! ## Slots -/

/-- A slot of a grown document: the same, or what was in it has grown. -/
inductive SlotGrows (shape : Shape) : Slot → Slot → Prop where
  | same (slot : Slot) : SlotGrows shape slot slot
  | inside (old new : Value) (grows : Grows shape old new) :
      SlotGrows shape (.given old) (.given new)

/-- All slots of a grown document, by the names of the fields. -/
def SlotsGrow (fields : List (String × Shape)) (old new : String → Slot) : Prop :=
  ∀ field ∈ fields, SlotGrows field.2 (old field.1) (new field.1)

/-- The member before which another one is added is found as before. -/
theorem lookup_grown (name key : String) (value : Value) (before after : Members)
    (other : key ≠ name) :
    (before ++ (name, value) :: after).lookup key = (before ++ after).lookup key := by
  rw [List.lookup_append, List.lookup_append, lookup_cons_other key (name, value) after other]

/-- A member of a changed object: the one that was changed, or the same as before. -/
theorem lookup_changed (name key : String) (old new : Value) (before after : Members) :
    (before ++ (name, new) :: after).lookup key = (before ++ (name, old) :: after).lookup key ∨
      key = name ∧ (before ++ (name, old) :: after).lookup key = some old ∧
        (before ++ (name, new) :: after).lookup key = some new := by
  by_cases same : key = name
  · subst same
    simp only [List.lookup_append, List.lookup_cons_self]
    cases before.lookup key with
    | none => exact .inr ⟨trivial, rfl, rfl⟩
    | some value => exact .inl rfl
  · rw [lookup_grown name key new before after same, lookup_grown name key old before after same]
    exact .inl rfl

/-- An element of a changed array: the one that was changed, or the same as before. -/
theorem element_changed (old new : Value) (before after : List Value) (place : Nat) :
    (before ++ new :: after)[place]? = (before ++ old :: after)[place]? ∨
      place = before.length ∧ (before ++ old :: after)[place]? = some old ∧
        (before ++ new :: after)[place]? = some new := by
  rcases Nat.lt_trichotomy place before.length with earlier | rfl | later
  · rw [List.getElem?_append_left earlier, List.getElem?_append_left earlier]
    exact .inl rfl
  · simp
  · obtain ⟨more, rfl⟩ := Nat.exists_eq_add_of_lt later
    have shifted : before.length + more + 1 - before.length = more + 1 := by omega
    rw [List.getElem?_append_right (by omega), List.getElem?_append_right (by omega), shifted,
      List.getElem?_cons_succ, List.getElem?_cons_succ]
    exact .inl rfl

/-- With distinct names, a field has one shape. -/
theorem shape_unique (fields : List (String × Shape)) (distinct : (fields.map Prod.fst).Nodup)
    (name : String) (shape other : Shape) (known : (name, shape) ∈ fields)
    (knownToo : (name, other) ∈ fields) : shape = other := by
  have same := List.inj_on_of_nodup_map distinct known knownToo rfl
  exact (Prod.mk.inj same).2

/-- The slots of a grown record grow, and it has slots when the old one has. -/
theorem slots_grow (fields : List (String × Shape)) (distinct : (fields.map Prod.fst).Nodup)
    (old new : Value) (grows : Grows (.record fields) old new) :
    (slots (fields.map Prod.fst) old = none ∧ slots (fields.map Prod.fst) new = none) ∨
      ∃ slot later, slots (fields.map Prod.fst) old = some slot ∧
        slots (fields.map Prod.fst) new = some later ∧ SlotsGrow fields slot later := by
  cases grows with
  | unknown _ before after name value fresh =>
    have counts (key : String) (known : key ∈ fields.map Prod.fst) :
        ((before ++ (name, value) :: after).map Prod.fst).count key =
          ((before ++ after).map Prod.fst).count key := by
      have other : name ≠ key := fun same => fresh (same ▸ known)
      simp [List.count_cons_of_ne other]
    by_cases once : ∀ key ∈ fields.map Prod.fst, ((before ++ after).map Prod.fst).count key ≤ 1
    · have onceToo : ∀ key ∈ fields.map Prod.fst,
          ((before ++ (name, value) :: after).map Prod.fst).count key ≤ 1 := by
        intro key known
        rw [counts key known]
        exact once key known
      refine .inr ⟨_, _, if_pos once, if_pos onceToo, fun field member => ?_⟩
      have other : field.1 ≠ name := fun same =>
        fresh (same ▸ List.mem_map_of_mem member)
      rw [lookup_grown name field.1 value before after other]
      exact .same _
    · refine .inl ⟨if_neg once, if_neg (fun onceToo => once (fun key known => ?_))⟩
      rw [← counts key known]
      exact onceToo key known
  | member _ before after name shape old new known inside =>
    have names : ((before ++ (name, new) :: after).map Prod.fst) =
        (before ++ (name, old) :: after).map Prod.fst := by simp
    by_cases once : ∀ key ∈ fields.map Prod.fst,
        ((before ++ (name, old) :: after).map Prod.fst).count key ≤ 1
    · refine .inr ⟨_, _, if_pos once, if_pos (by rwa [names]), fun field member => ?_⟩
      change SlotGrows field.2
        (.ofMember ((before ++ (name, old) :: after).lookup field.1))
        (.ofMember ((before ++ (name, new) :: after).lookup field.1))
      rcases lookup_changed name field.1 old new before after with same | ⟨rfl, was, is⟩
      · rw [same]
        exact .same _
      · have fits := shape_unique fields distinct field.1 shape field.2 known member
        rw [was, is]
        exact .inside old new (fits ▸ inside)
    · exact .inl ⟨if_neg once, if_neg (by rwa [names])⟩
  | position _ before after name shape old new known inside =>
    have lengths : (before ++ new :: after).length = (before ++ old :: after).length := by simp
    by_cases short : (before ++ old :: after).length ≤ (fields.map Prod.fst).length
    · refine .inr ⟨_, _, if_pos short, if_pos (by rwa [lengths]), fun field member => ?_⟩
      obtain ⟨place, found⟩ := List.mem_iff_getElem?.mp member
      have index : (fields.map Prod.fst).idxOf field.1 = place := by
        obtain ⟨bounded, rfl⟩ := List.getElem?_eq_some_iff.mp found
        have insideNames : place < (fields.map Prod.fst).length := by simpa using bounded
        simpa using distinct.idxOf_getElem place insideNames
      change SlotGrows field.2
        (.ofElement (before ++ old :: after)[(fields.map Prod.fst).idxOf field.1]?)
        (.ofElement (before ++ new :: after)[(fields.map Prod.fst).idxOf field.1]?)
      rw [index]
      rcases element_changed old new before after place with same | ⟨rfl, was, is⟩
      · rw [same]
        exact .same _
      · rw [known] at found
        cases found
        rw [was, is]
        exact .inside old new inside
    · exact .inl ⟨if_neg short, if_neg (by rwa [lengths])⟩

/-! ## Decoders -/

theorem leaf_blind (decode : Value → Option α) : Blind decode .leaf := by
  intro old new grows
  cases grows

theorem list_blind (decode : Value → Option α) (shape : Shape) (blind : Blind decode shape) :
    Blind (decodeList decode) (.list shape) := by
  intro old new grows
  cases grows with
  | item _ before after old new inside =>
    have item := blind old new inside
    simp only [decodeList, List.mapM_append, List.mapM_cons, item]

section
variable (decode : Value → Option α) (shape : Shape) (blind : Blind decode shape)
  (slot later : Slot) (grows : SlotGrows shape slot later)
include blind grows

theorem required_blind : required decode later = required decode slot := by
  cases grows with
  | same => rfl
  | inside old new inside => exact blind old new inside

theorem defaulted_blind (default : α) :
    defaulted default decode later = defaulted default decode slot := by
  cases grows with
  | same => rfl
  | inside old new inside => exact blind old new inside

theorem optional_blind : optional decode later = optional decode slot := by
  cases grows with
  | same => rfl
  | inside old new inside =>
    obtain ⟨was, is⟩ := grows_not_null shape old new inside
    have decoded := blind old new inside
    have given (value : Value) (present : value ≠ .null) :
        optional decode (.given value) = (decode value).map some := by
      cases value with
      | null => exact absurd rfl present
      | _ => rfl
    rw [given old was, given new is, decoded]

end

/-! Fields of a grown record that nothing is looked into. -/

section
variable (fields : List (String × Shape)) (slot later : String → Slot)
  (grown : SlotsGrow fields slot later) (name : String) (known : (name, .leaf) ∈ fields)
  (decode : Value → Option α)
include grown known

theorem required_leaf : required decode (later name) = required decode (slot name) :=
  required_blind decode .leaf (leaf_blind decode) _ _ (grown (name, .leaf) known)

theorem optional_leaf : optional decode (later name) = optional decode (slot name) :=
  optional_blind decode .leaf (leaf_blind decode) _ _ (grown (name, .leaf) known)

theorem defaulted_leaf (default : α) :
    defaulted default decode (later name) = defaulted default decode (slot name) :=
  defaulted_blind decode .leaf (leaf_blind decode) _ _ (grown (name, .leaf) known) default

end

/-- A decoder of records is blind when what it builds from the slots is. -/
theorem record_blind (fields : List (String × Shape)) (decode : Value → Option α)
    (build : (String → Slot) → Option α) (distinct : (fields.map Prod.fst).Nodup)
    (reads : ∀ value, decode value = (slots (fields.map Prod.fst) value).bind build)
    (same : ∀ slot later, SlotsGrow fields slot later → build later = build slot) :
    Blind decode (.record fields) := by
  intro old new grows
  rw [reads old, reads new]
  rcases slots_grow fields distinct old new grows with ⟨was, is⟩ | ⟨slot, later, was, is, grown⟩
  · rw [was, is]
  · rw [was, is]
    exact same slot later grown

end VaultwardenOperator.Growth
