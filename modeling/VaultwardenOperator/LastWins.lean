import Mathlib.Data.List.AList

/-!
# Maps built by insertion

A list of entries inserted one after the other into a map: of the entries with
one key the last one counts. The map keeps every entry if and only if entries
with one key have one value.

The order in which a map yields its values is left open. What holds in every
order is a property of the set of values.
-/

namespace VaultwardenOperator.LastWins

universe u v
variable {κ : Type u} {β : Type v} [DecidableEq κ]

/-- Insert the entries in order. -/
def insertAll (map : AList (fun _ : κ => β)) (entries : List (κ × β)) : AList (fun _ : κ => β) :=
  entries.foldl (fun map entry => map.insert entry.1 entry.2) map

/-- The value of the last entry with a key. -/
def lastValue (key : κ) : List (κ × β) → Option β
  | [] => none
  | entry :: rest => (lastValue key rest).or (if entry.1 = key then some entry.2 else none)

/-- Entries with one key have one value. -/
def Agree (entries : List (κ × β)) : Prop :=
  ∀ entry ∈ entries, ∀ other ∈ entries, entry.1 = other.1 → entry.2 = other.2

/-- The values of a map, in the order of its entries. -/
def values (map : AList (fun _ : κ => β)) : List β := map.entries.map Sigma.snd

@[simp] theorem last_value_cons_self (key : κ) (value : β) (rest : List (κ × β)) :
    lastValue key ((key, value) :: rest) = (lastValue key rest).or (some value) := by
  simp [lastValue]

@[simp] theorem last_value_cons_other (key : κ) (entry : κ × β) (rest : List (κ × β))
    (other : entry.1 ≠ key) : lastValue key (entry :: rest) = lastValue key rest := by
  simp [lastValue, other]

/-- The last value is that of some entry. -/
theorem last_value_mem (key : κ) (value : β) (entries : List (κ × β))
    (last : lastValue key entries = some value) : (key, value) ∈ entries := by
  induction entries with
  | nil => cases last
  | cons entry rest inductionHypothesis =>
    obtain ⟨name, content⟩ := entry
    by_cases same : name = key
    · subst same
      rw [last_value_cons_self] at last
      cases later : lastValue name rest with
      | some other =>
        rw [later] at last
        cases last
        exact List.mem_cons_of_mem _ (inductionHypothesis later)
      | none =>
        rw [later] at last
        cases last
        exact List.mem_cons_self
    · rw [last_value_cons_other key (name, content) rest same] at last
      exact List.mem_cons_of_mem _ (inductionHypothesis last)

/-- Every key of the entries has a last value. -/
theorem last_value_some (entry : κ × β) (entries : List (κ × β)) (member : entry ∈ entries) :
    ∃ value, lastValue entry.1 entries = some value := by
  induction entries with
  | nil => cases member
  | cons first rest inductionHypothesis =>
    rcases List.mem_cons.mp member with rfl | later
    · cases later : lastValue entry.1 rest with
      | some value => exact ⟨value, by simp [lastValue, later]⟩
      | none => exact ⟨entry.2, by simp [lastValue, later]⟩
    · obtain ⟨value, last⟩ := inductionHypothesis later
      exact ⟨value, by simp [lastValue, last]⟩

/-- Leaving out entries of other keys changes no last value. -/
theorem last_value_filter (keep : κ → Bool) (key : κ) (entries : List (κ × β))
    (kept : keep key = true) :
    lastValue key (entries.filter (fun entry => keep entry.1)) = lastValue key entries := by
  induction entries with
  | nil => rfl
  | cons entry rest inductionHypothesis =>
    by_cases stays : keep entry.1 = true
    · simp only [List.filter_cons, if_pos stays, lastValue, inductionHypothesis]
    · have other : entry.1 ≠ key := fun same => stays (same ▸ kept)
      rw [List.filter_cons, if_neg stays, inductionHypothesis,
        last_value_cons_other key entry rest other]

/-- Of items that all have values, the last one with a key gives the last value. -/
theorem last_value_of_last {α : Type*} (keyOf : α → κ) (valueOf : α → Option β) (items : List α)
    (valued : ∀ item ∈ items, ∃ value, valueOf item = some value) (key : κ) (value : β)
    (last : lastValue key (items.filterMap (fun item =>
      (valueOf item).map (fun value => (keyOf item, value)))) = some value) :
    ∃ before item after, items = before ++ item :: after ∧ keyOf item = key ∧
      valueOf item = some value ∧ ∀ other ∈ after, keyOf other ≠ key := by
  induction items with
  | nil => cases last
  | cons item rest inductionHypothesis =>
    obtain ⟨content, has⟩ := valued item List.mem_cons_self
    rw [List.filterMap_cons_some (by rw [has]; rfl)] at last
    cases later : lastValue key (rest.filterMap (fun item =>
        (valueOf item).map (fun value => (keyOf item, value)))) with
    | some other =>
      have same : other = value := by simpa [lastValue, later] using last
      subst same
      obtain ⟨before, found, after, split, named, own, unnamed⟩ := inductionHypothesis
        (fun item member => valued item (List.mem_cons_of_mem _ member)) later
      exact ⟨item :: before, found, after, by rw [split]; rfl, named, own, unnamed⟩
    | none =>
      have named : keyOf item = key ∧ content = value := by simpa [lastValue, later] using last
      refine ⟨[], item, rest, rfl, named.1, by rw [has, named.2], ?_⟩
      intro other member same
      obtain ⟨otherContent, otherHas⟩ := valued other (List.mem_cons_of_mem _ member)
      have listed : (key, otherContent) ∈ rest.filterMap (fun item =>
          (valueOf item).map (fun value => (keyOf item, value))) :=
        List.mem_filterMap.mpr ⟨other, member, by rw [otherHas, same]; rfl⟩
      obtain ⟨found, isLast⟩ := last_value_some _ _ listed
      rw [later] at isLast
      cases isLast

/-- A map after insertions has the last value of each key, or what it had. -/
theorem lookup_insert_all (map : AList (fun _ : κ => β)) (entries : List (κ × β)) (key : κ) :
    (insertAll map entries).lookup key = (lastValue key entries).or (map.lookup key) := by
  induction entries generalizing map with
  | nil => rfl
  | cons entry rest inductionHypothesis =>
    change (insertAll (map.insert entry.1 entry.2) rest).lookup key = _
    rw [inductionHypothesis]
    by_cases same : entry.1 = key
    · subst same
      rw [AList.lookup_insert]
      cases later : lastValue entry.1 rest <;> simp [lastValue, later]
    · rw [AList.lookup_insert_ne (Ne.symm same), last_value_cons_other key entry rest same]

/-- A map built from nothing has exactly the last values. -/
@[simp] theorem lookup_built (entries : List (κ × β)) (key : κ) :
    (insertAll ∅ entries).lookup key = lastValue key entries := by
  rw [lookup_insert_all, AList.lookup_empty, Option.or_none]

theorem mem_built (entries : List (κ × β)) (key : κ) :
    key ∈ insertAll ∅ entries ↔ ∃ entry ∈ entries, entry.1 = key := by
  rw [← AList.lookup_isSome, lookup_built]
  constructor
  · intro present
    obtain ⟨value, last⟩ := Option.isSome_iff_exists.mp present
    exact ⟨(key, value), last_value_mem key value entries last, rfl⟩
  · rintro ⟨entry, member, rfl⟩
    obtain ⟨value, last⟩ := last_value_some entry entries member
    simp [last]

/-- A map keeps all the entries it is built from if and only if they agree. -/
theorem keeps_all_iff (entries : List (κ × β)) :
    (∀ entry ∈ entries, (insertAll ∅ entries).lookup entry.1 = some entry.2) ↔ Agree entries := by
  simp only [lookup_built]
  constructor
  · intro kept entry member other otherMember same
    have first := kept entry member
    rw [same, kept other otherMember] at first
    exact (Option.some.inj first).symm
  · intro agree entry member
    obtain ⟨value, last⟩ := last_value_some entry entries member
    have same : value = entry.2 :=
      agree (entry.1, value) (last_value_mem _ _ entries last) entry member rfl
    rw [last, same]

/-- A value of the map is what some key is looked up to. -/
theorem mem_values_iff (map : AList (fun _ : κ => β)) (value : β) :
    value ∈ values map ↔ ∃ key, map.lookup key = some value := by
  unfold values
  constructor
  · intro member
    obtain ⟨⟨key, content⟩, present, rfl⟩ := List.mem_map.mp member
    exact ⟨key, AList.mem_lookup_iff.mpr present⟩
  · rintro ⟨key, found⟩
    exact List.mem_map.mpr ⟨⟨key, value⟩, AList.mem_lookup_iff.mp found, rfl⟩

/-- The values of a built map are the last values of the keys. -/
theorem mem_values_built (value : β) (entries : List (κ × β)) :
    value ∈ values (insertAll ∅ entries) ↔ ∃ key, lastValue key entries = some value := by
  simp only [mem_values_iff, lookup_built]

end VaultwardenOperator.LastWins
