import VaultwardenOperator.Scoping

/-!
# The specification of a lookup

A vault name stands for the one organization of that name up to case; none and several
are errors of their own. The search in the scope prefers the first item of exactly the
name to the first whose name contains it. An item of exactly the name is therefore
found whatever else is added: out of scope, or under another name.
-/

namespace VaultwardenOperator.LookupSpec

open Rust Sync Scoping

/-! ## First elements and added elements -/

section
universe u
variable {α : Type u}

/-- The first element of a list with a property. -/
def IsFirst (wanted : α → Prop) (items : List α) (item : α) : Prop :=
  ∃ before after, items = before ++ item :: after ∧ wanted item ∧ ∀ other ∈ before, ¬ wanted other

theorem find_first_iff (wanted : α → Bool) (items : List α) (item : α) :
    items.find? wanted = some item ↔ IsFirst (fun other => wanted other = true) items item := by
  rw [List.find?_eq_some_iff_append]
  constructor
  · rintro ⟨holds, before, after, split, others⟩
    exact ⟨before, after, split, holds, fun other member => by simpa using others other member⟩
  · rintro ⟨before, after, split, holds, others⟩
    exact ⟨holds, before, after, split, fun other member => by simpa using others other member⟩

/-- The second list is the first with such elements added, anywhere. -/
inductive Extends (extra : α → Prop) : List α → List α → Prop where
  | done : Extends extra [] []
  | kept (item : α) (items more : List α) (further : Extends extra items more) :
      Extends extra (item :: items) (item :: more)
  | added (item : α) (items more : List α) (isExtra : extra item)
      (further : Extends extra items more) : Extends extra items (item :: more)

/-- A search does not see elements that it does not want. -/
theorem find_extended (extra : α → Prop) (wanted : α → Bool) (items more : List α)
    (extended : Extends extra items more)
    (unwanted : ∀ item, extra item → wanted item = false) :
    more.find? wanted = items.find? wanted := by
  induction extended with
  | done => rfl
  | kept item items more further inductionHypothesis =>
    cases held : wanted item with
    | true => rw [List.find?_cons_of_pos held, List.find?_cons_of_pos held]
    | false => simp only [List.find?_cons, held, inductionHypothesis]
  | added item items more isExtra further inductionHypothesis =>
    simp only [List.find?_cons, unwanted item isExtra, inductionHypothesis]

end

section
variable (unicode : UnicodeTables)

/-- The name of an item is the requested one, up to case. -/
def Exact (name : String) (item : DecryptedItem) : Prop :=
  unicode.toLowercase item.name = unicode.toLowercase name

/-- The name of an item contains the requested one, up to case. -/
def Partial (name : String) (item : DecryptedItem) : Prop :=
  (unicode.toLowercase name).toList <:+: (unicode.toLowercase item.name).toList

/-- The organizations of a name up to case, as often as they are listed. -/
def orgsNamed (orgs : List SyncOrganization) (v : String) : List SyncOrganization :=
  orgs.filter (fun org => unicode.toLowercase org.name = unicode.toLowercase v)

/-- The items of one organization. -/
def itemsOf (org : SyncOrganization) (items : List DecryptedItem) : List DecryptedItem :=
  items.filter (fun item => item.organizationId = some org.id)

/-- The result of a search: the first exact item if there is one, else the first partial
one, else an error. -/
structure Searches (items : List DecryptedItem) (name : String) (missing : LookupError)
    (result : Call LookupError DecryptedItem) : Prop where
  exactFirst : ∀ item, IsFirst (Exact unicode name) items item → result = .ok item
  partialFirst : (∀ item ∈ items, ¬ Exact unicode name item) →
    ∀ item, IsFirst (Partial unicode name) items item → result = .ok item
  missing : (∀ item ∈ items, ¬ Exact unicode name item ∧ ¬ Partial unicode name item) →
    result = .error (.err missing)

/-- The result of a lookup in a vault: an error when no organization has its name, another
when several have, and else a search among the items of the one that has. -/
structure Resolves (orgs : List SyncOrganization) (items : List DecryptedItem) (name v : String)
    (result : Call LookupError DecryptedItem) : Prop where
  notFound : result = .error (.err (.vaultNotFound v)) ↔
    ∀ org ∈ orgs, unicode.toLowercase org.name ≠ unicode.toLowercase v
  ambiguous : result = .error (.err (.vaultAmbiguous v)) ↔
    2 ≤ (orgsNamed unicode orgs v).length
  single : ∀ org, orgsNamed unicode orgs v = [org] →
    Searches unicode (itemsOf org items) name (.notFoundInVault name v items.length) result

/-- An item is in the scope of a lookup: of any without a vault, and else when it belongs
to the one organization of that name. -/
def InLookupScope (orgs : List SyncOrganization) (vault : Option String) (item : DecryptedItem) :
    Prop :=
  match vault with
  | none => True
  | some v => ∃ org, orgsNamed unicode orgs v = [org] ∧ item.organizationId = some org.id

/-- The cache of an item list and an organization list. -/
def cacheOf (orgs : List SyncOrganization) (items : List DecryptedItem) : VaultCache :=
  ⟨items, indexOrgs unicode orgs⟩

/-! ## The search -/

/-- What the two passes of an unscoped search look for. -/
theorem find_item_passes (items : List DecryptedItem) (name : String) :
    ∃ exactly partly : DecryptedItem → Bool,
      (∀ item, exactly item = true ↔ Exact unicode name item) ∧
      (∀ item, partly item = true ↔ Partial unicode name item) ∧
      findItem unicode items name none =
        match items.find? exactly with
        | some item => some item
        | none => items.find? partly := by
  refine ⟨fun item => inScope none item &&
      unicode.toLowercase item.name == unicode.toLowercase name,
    fun item => inScope none item &&
      contains (unicode.toLowercase item.name) (unicode.toLowercase name), ?_, ?_, rfl⟩
  · intro item
    simp [inScope, Exact]
  · intro item
    simp [inScope, Partial, contains]

/-- The unscoped search follows the specification. The cases are the results of its two
passes. -/
theorem find_item_searches (items : List DecryptedItem) (name : String) (missing : LookupError) :
    Searches unicode items name missing (okOr missing (findItem unicode items name none)) := by
  obtain ⟨exactly, partly, isExact, isPartial, passes⟩ := find_item_passes unicode items name
  have firstExact (item : DecryptedItem) :
      items.find? exactly = some item ↔ IsFirst (Exact unicode name) items item := by
    simp only [find_first_iff, isExact]
  have firstPartial (item : DecryptedItem) :
      items.find? partly = some item ↔ IsFirst (Partial unicode name) items item := by
    simp only [find_first_iff, isPartial]
  rw [passes]
  cases exactHit : items.find? exactly with
  | some hit =>
    have member : hit ∈ items := List.mem_of_find?_eq_some exactHit
    have named : Exact unicode name hit := (isExact hit).mp (List.find?_some exactHit)
    refine ⟨?_, ?_, ?_⟩
    · intro item first
      have same : hit = item := Option.some.inj (exactHit.symm.trans ((firstExact item).mpr first))
      rw [same]
      rfl
    · intro none
      exact absurd named (none hit member)
    · intro none
      exact absurd named (none hit member).1
  | none =>
    refine ⟨?_, ?_, ?_⟩
    · intro item first
      cases exactHit.symm.trans ((firstExact item).mpr first)
    · intro _ item first
      dsimp only
      rw [(firstPartial item).mpr first]
      rfl
    · intro none
      have partialMiss : items.find? partly = Option.none := by
        rw [List.find?_eq_none]
        intro item member held
        exact (none item member).2 ((isPartial item).mp held)
      dsimp only
      rw [partialMiss]
      rfl

/-! ## The vault -/

/-- The entry of the index is the ids of the organizations of the name. -/
theorem index_named (orgs : List SyncOrganization) (v : String) :
    (indexOrgs unicode orgs).lookup (unicode.toLowercase v) =
      if orgsNamed unicode orgs v = [] then none
      else some ((orgsNamed unicode orgs v).map SyncOrganization.id) := by
  have ids : idsNamed unicode orgs (unicode.toLowercase v) =
      (orgsNamed unicode orgs v).map SyncOrganization.id := rfl
  rw [index_orgs_lookup, ids]
  by_cases vacant : orgsNamed unicode orgs v = []
  · simp [vacant]
  · rw [if_neg vacant, if_neg (by simpa using vacant)]

/-- A vault of one organization is a search among its items. -/
theorem lookup_single (orgs : List SyncOrganization) (items : List DecryptedItem)
    (name v : String) (org : SyncOrganization) (named : orgsNamed unicode orgs v = [org]) :
    lookupItem unicode (cacheOf unicode orgs items) name (some v) =
      okOr (.notFoundInVault name v items.length)
        (findItem unicode (itemsOf org items) name none) := by
  have resolved := index_named unicode orgs v
  rw [named, if_neg (List.cons_ne_nil _ _)] at resolved
  exact lookup_item_scoped unicode (cacheOf unicode orgs items) name v org.id resolved

/-- A search ends with an item or with the error it was given. -/
theorem ok_or_cases (missing other : LookupError) (found : Option DecryptedItem)
    (distinct : missing ≠ other) : okOr missing found ≠ .error (.err other) := by
  cases found with
  | some item => simp [okOr]
  | none => simpa [okOr] using distinct

theorem lookup_resolves (orgs : List SyncOrganization) (items : List DecryptedItem)
    (name v : String) :
    Resolves unicode orgs items name v
      (lookupItem unicode (cacheOf unicode orgs items) name (some v)) := by
  have resolved := index_named unicode orgs v
  have unnamed : orgsNamed unicode orgs v = [] ↔
      ∀ org ∈ orgs, unicode.toLowercase org.name ≠ unicode.toLowercase v := by
    simp [orgsNamed, List.filter_eq_nil_iff]
  cases named : orgsNamed unicode orgs v with
  | nil =>
    have missing : lookupItem unicode (cacheOf unicode orgs items) name (some v) =
        .error (.err (.vaultNotFound v)) := by
      rw [named, if_pos rfl] at resolved
      simp only [lookupItem, cacheOf, resolved]
    rw [missing]
    exact ⟨by simp [← unnamed, named], by simp [named], by simp [named]⟩
  | cons org others =>
    have present : ¬ ∀ org ∈ orgs, unicode.toLowercase org.name ≠ unicode.toLowercase v := by
      rw [← unnamed, named]
      exact List.cons_ne_nil _ _
    cases others with
    | nil =>
      rw [lookup_single unicode orgs items name v org named]
      refine ⟨?_, ?_, ?_⟩
      · simp only [present, iff_false]
        exact ok_or_cases _ _ _ (by simp)
      · have alone : ¬ 2 ≤ (orgsNamed unicode orgs v).length := by simp [named]
        simp only [alone, iff_false]
        exact ok_or_cases _ _ _ (by simp)
      · intro only same
        rw [named] at same
        obtain rfl := (List.cons.inj same).1
        exact find_item_searches unicode (itemsOf org items) name _
    | cons second rest =>
      have several : lookupItem unicode (cacheOf unicode orgs items) name (some v) =
          .error (.err (.vaultAmbiguous v)) := by
        rw [named, if_neg (List.cons_ne_nil _ _)] at resolved
        simp [lookupItem, cacheOf, resolved]
      rw [several]
      exact ⟨by simp [present], by simp [named], by simp [named]⟩

/-! ## Stability -/

/-- A search in a scope that has an exact item finds the same one after items have been
added out of the scope or under another name. -/
theorem find_item_stable (extra : DecryptedItem → Prop) (inside : DecryptedItem → Bool)
    (items more : List DecryptedItem) (name : String) (item : DecryptedItem)
    (member : item ∈ items) (within : inside item = true) (named : Exact unicode name item)
    (extended : Extends extra items more)
    (irrelevant : ∀ other, extra other → inside other = false ∨ ¬ Exact unicode name other) :
    ∃ hit, findItem unicode (more.filter inside) name none = some hit ∧
      findItem unicode (items.filter inside) name none = some hit := by
  let wanted (other : DecryptedItem) : Bool :=
    inside other && unicode.toLowercase other.name == unicode.toLowercase name
  have firstPass (list : List DecryptedItem) (hit : DecryptedItem)
      (found : list.find? wanted = some hit) :
      findItem unicode (list.filter inside) name none = some hit := by
    have pass : (list.filter inside).find? (fun other => inScope none other &&
        unicode.toLowercase other.name == unicode.toLowercase name) = some hit := by
      rw [List.find?_filter]
      simpa [inScope, wanted, Bool.beq_eq_decide_eq] using found
    simp only [findItem, pass]
  have unwanted : ∀ other, extra other → wanted other = false := by
    intro other isExtra
    rcases irrelevant other isExtra with outside | different
    · simp [wanted, outside]
    · have apart : ¬ unicode.toLowercase other.name = unicode.toLowercase name := different
      simp [wanted, apart]
  have sameFirst := find_extended extra wanted items more extended unwanted
  have holds : wanted item = true := by
    have same : unicode.toLowercase item.name = unicode.toLowercase name := named
    simp [wanted, within, same]
  obtain ⟨hit, found⟩ : ∃ hit, items.find? wanted = some hit := by
    rw [← Option.isSome_iff_exists, List.find?_isSome]
    exact ⟨item, member, holds⟩
  exact ⟨hit, firstPass more hit (sameFirst.trans found), firstPass items hit found⟩

/-- Adding items that are out of scope or of another name changes no lookup that has an
exact match. -/
theorem lookup_stable (orgs : List SyncOrganization) (items more : List DecryptedItem)
    (name : String) (vault : Option String) (item : DecryptedItem) (member : item ∈ items)
    (inside : InLookupScope unicode orgs vault item) (named : Exact unicode name item)
    (extended : Extends (fun extra =>
      ¬ InLookupScope unicode orgs vault extra ∨ ¬ Exact unicode name extra) items more) :
    lookupItem unicode (cacheOf unicode orgs more) name vault =
      lookupItem unicode (cacheOf unicode orgs items) name vault := by
  cases vault with
  | none =>
    obtain ⟨hit, added, before⟩ := find_item_stable unicode _ (fun _ => true) items more name item
      member rfl named extended (fun other irrelevant => by
        simpa [InLookupScope] using irrelevant)
    rw [List.filter_true] at added before
    simp only [lookupItem, cacheOf, added, before]
    rfl
  | some v =>
    obtain ⟨org, single, owned⟩ := inside
    obtain ⟨hit, added, before⟩ := find_item_stable unicode _
      (fun other => other.organizationId = some org.id) items more name item member
      (decide_eq_true owned) named extended (fun other irrelevant => by
        rcases irrelevant with outside | different
        · refine .inl (decide_eq_false ?_)
          intro owns
          exact outside ⟨org, single, owns⟩
        · exact .inr different)
    rw [lookup_single unicode orgs more name v org single,
      lookup_single unicode orgs items name v org single, itemsOf, itemsOf, added, before]
    rfl

/-- Lookups follow their specification, for every organization list, item list, name and
vault. -/
theorem lookup_meets_spec (orgs : List SyncOrganization) (items : List DecryptedItem)
    (name : String) :
    (∀ v, Resolves unicode orgs items name v
      (lookupItem unicode (cacheOf unicode orgs items) name (some v))) ∧
      Searches unicode items name (.notFound name items.length)
        (lookupItem unicode (cacheOf unicode orgs items) name none) ∧
      ∀ vault more,
        (∃ item ∈ items, InLookupScope unicode orgs vault item ∧ Exact unicode name item) →
        Extends (fun extra =>
          ¬ InLookupScope unicode orgs vault extra ∨ ¬ Exact unicode name extra) items more →
          lookupItem unicode (cacheOf unicode orgs more) name vault =
            lookupItem unicode (cacheOf unicode orgs items) name vault := by
  refine ⟨lookup_resolves unicode orgs items name, find_item_searches unicode items name _, ?_⟩
  rintro vault more ⟨item, member, inside, named⟩ extended
  exact lookup_stable unicode orgs items more name vault item member inside named extended

end

end VaultwardenOperator.LookupSpec
