import VaultwardenOperator.Sync

/-!
# Lookups scoped to one organization

A request whose vault name resolves to one organization searches that
organization's items only. The organization index is described by the list of
organizations it was built from, the search by the items left after filtering,
and these items by the ciphers of the organization. Together they compare two
vaults that agree on one organization and differ anywhere else.
-/

namespace VaultwardenOperator.Scoping

open Rust Crypto Sync

section
variable {RsaPrivateKey : Type} (crypto : Primitives RsaPrivateKey) (unicode : UnicodeTables)

/-- The ids of the organizations of one lowercased name, in order. -/
def idsNamed (orgs : List SyncOrganization) (name : String) : List String :=
  (orgs.filter (fun org => unicode.toLowercase org.name = name)).map SyncOrganization.id

/-- The index started from any map: a name that no organization has keeps its
entry, another name has the new ids appended. -/
theorem index_orgs_from (orgs : List SyncOrganization) (byName : StringMap (List String))
    (name : String) :
    (orgs.foldl (fun byName org =>
        let name := unicode.toLowercase org.name
        byName.insert name ((byName.lookup name).getD [] ++ [org.id])) byName).lookup name =
      if idsNamed unicode orgs name = [] then byName.lookup name
      else some ((byName.lookup name).getD [] ++ idsNamed unicode orgs name) := by
  induction orgs generalizing byName with
  | nil => simp [idsNamed]
  | cons org rest inductionHypothesis =>
    rw [List.foldl_cons, inductionHypothesis]
    by_cases same : unicode.toLowercase org.name = name
    · subst same
      by_cases last : idsNamed unicode rest (unicode.toLowercase org.name) = []
      · have single : idsNamed unicode (org :: rest) (unicode.toLowercase org.name) = [org.id] := by
          simpa [idsNamed] using last
        simp [last, single]
      · have several : idsNamed unicode (org :: rest) (unicode.toLowercase org.name) =
            org.id :: idsNamed unicode rest (unicode.toLowercase org.name) := by
          simp [idsNamed]
        simp [last, several]
    · have skipped : idsNamed unicode (org :: rest) name = idsNamed unicode rest name := by
        simp [idsNamed, same]
      simp only [skipped, AList.lookup_insert_ne (Ne.symm same)]

/-- The index holds exactly the names that organizations have, each with the ids
of its organizations. -/
theorem index_orgs_lookup (orgs : List SyncOrganization) (name : String) :
    (indexOrgs unicode orgs).lookup name =
      if idsNamed unicode orgs name = [] then none else some (idsNamed unicode orgs name) := by
  have built := index_orgs_from unicode orgs ∅ name
  simpa [indexOrgs] using built

/-- No entry of the index is empty. -/
theorem index_orgs_nonempty (orgs : List SyncOrganization) (name : String) (ids : List String)
    (found : (indexOrgs unicode orgs).lookup name = some ids) : ids ≠ [] := by
  rw [index_orgs_lookup] at found
  split_ifs at found with vacant
  cases found
  exact vacant

/-- A lookup never panics when every entry of its index has an id, whatever the items. -/
theorem lookup_item_total (cache : VaultCache) (name : String) (vault : Option String)
    (indexed : ∀ name ids, cache.orgsByName.lookup name = some ids → ids ≠ []) :
    lookupItem unicode cache name vault ≠ .error .panic := by
  cases vault with
  | none => exact ok_or_total _ _
  | some v =>
    simp only [lookupItem]
    cases resolved : cache.orgsByName.lookup (unicode.toLowercase v) with
    | none => simp
    | some orgIds =>
      cases orgIds with
      | nil => exact absurd rfl (indexed _ _ resolved)
      | cons orgId others =>
        cases others with
        | nil =>
          simp only [List.length_singleton, gt_iff_lt, lt_self_iff_false, if_false,
            List.getElem?_cons_zero]
          exact ok_or_total _ _
        | cons other rest => simp

/-- The cache of any answer under any key serves lookups without a panic. -/
theorem decrypt_vault_lookup_total (sync : SyncResponse) (symKey : SymmetricKey)
    (cache : VaultCache) (skips : DecryptSkips)
    (decrypted : decryptVault crypto unicode sync symKey = .ok (cache, skips))
    (name : String) (vault : Option String) :
    lookupItem unicode cache name vault ≠ .error .panic := by
  obtain ⟨orgKeys, counted, -, produced⟩ := decrypt_vault_spec crypto unicode sync symKey
  rw [decrypted] at produced
  cases produced
  exact lookup_item_total unicode _ name vault (index_orgs_nonempty unicode _)

/-! ## Search in one organization -/

/-- Both passes filter by scope, so a scoped search is an unscoped search among
the items in scope. -/
theorem find_item_scope (items : List DecryptedItem) (name : String) (orgId : Option String) :
    findItem unicode items name orgId =
      findItem unicode (items.filter (inScope orgId)) name none := by
  have unscoped : inScope none = fun _ => true := rfl
  simp only [findItem, unscoped, Bool.true_and, List.find?_filter, Bool.decide_and,
    Bool.decide_eq_true]

/-- An item that is found is one of those searched. -/
theorem find_item_mem (items : List DecryptedItem) (name : String) (orgId : Option String)
    (item : DecryptedItem) (found : findItem unicode items name orgId = some item) :
    item ∈ items := by
  simp only [findItem] at found
  split at found
  case h_1 exact' matched =>
    cases found
    exact List.mem_of_find?_eq_some matched
  case h_2 => exact List.mem_of_find?_eq_some found

/-- The ciphers of one organization, in order. -/
def ciphersOf (orgId : String) (sync : SyncResponse) : List SyncCipher :=
  sync.ciphers.filter (fun cipher => cipher.organizationId = some orgId)

/-- An item keeps its cipher's organization, so it is in the scope of a
nonempty organization id exactly when its cipher is. An empty id counts as
none: it is nobody's scope. -/
theorem scoped_item (orgKeys : StringMap SymmetricKey) (symKey : SymmetricKey) (orgId : String)
    (cipher : SyncCipher) :
    (decryptedItem crypto orgKeys symKey cipher).filter (inScope (some orgId)) =
      if orgId ≠ "" ∧ cipher.organizationId = some orgId then
        decryptedItem crypto orgKeys symKey cipher
      else none := by
  cases produced : decryptedItem crypto orgKeys symKey cipher with
  | none => simp
  | some item =>
    have organization := decrypted_item_organization crypto orgKeys symKey cipher item produced
    have scope : inScope (some orgId) item = true ↔
        orgId ≠ "" ∧ cipher.organizationId = some orgId := by
      simp only [inScope, organization, decide_eq_true_eq, Option.filter_eq_some_iff]
      tauto
    by_cases inside : orgId ≠ "" ∧ cipher.organizationId = some orgId
    · simp [inside, scope.mpr inside]
    · have outside : inScope (some orgId) item = false := by
        simpa using fun held => inside (scope.mp held)
      simp [inside, outside]

/-- Decrypting and then filtering by organization is filtering and then decrypting. -/
theorem scoped_items (orgKeys : StringMap SymmetricKey) (symKey : SymmetricKey) (orgId : String)
    (sync : SyncResponse) :
    (sync.ciphers.filterMap (decryptedItem crypto orgKeys symKey)).filter (inScope (some orgId)) =
      if orgId = "" then []
      else (ciphersOf orgId sync).filterMap (decryptedItem crypto orgKeys symKey) := by
  simp only [List.filter_filterMap, scoped_item]
  by_cases vacant : orgId = ""
  · simp [vacant]
  · simp [vacant, ciphersOf, List.filterMap_filter]

/-- A request for an organization that its vault name alone resolves to searches
the organization's items. -/
theorem lookup_item_scoped (cache : VaultCache) (name v orgId : String)
    (resolved : cache.orgsByName.lookup (unicode.toLowercase v) = some [orgId]) :
    lookupItem unicode cache name (some v) =
      okOr (.notFoundInVault name v cache.items.length)
        (findItem unicode (cache.items.filter (inScope (some orgId))) name none) := by
  rw [← find_item_scope]
  simp [lookupItem, resolved]

/-- Two answers agree on an organization: on the organizations with their keys,
on the private key, and on the ordered ciphers of that organization. All other
ciphers may differ. -/
structure Agree (orgId : String) (left right : SyncResponse) : Prop where
  organizations : left.profile.organizations = right.profile.organizations
  privateKey : left.profile.privateKey = right.profile.privateKey
  ciphers : ciphersOf orgId left = ciphersOf orgId right

/-- Organization keys come from the organizations and the private key alone. -/
theorem agree_org_keys (orgId : String) (left right : SyncResponse)
    (agree : Agree orgId left right) (symKey : SymmetricKey) :
    decryptOrgKeys crypto left.profile symKey = decryptOrgKeys crypto right.profile symKey := by
  simp only [decryptOrgKeys, agree.organizations, agree.privateKey]

/-- An item in the scope of an organization was built from a cipher of that
organization under the organization's key. -/
theorem scoped_item_origin (orgKeys : StringMap SymmetricKey) (symKey : SymmetricKey)
    (orgId : String) (sync : SyncResponse) (item : DecryptedItem)
    (member : item ∈
      (sync.ciphers.filterMap (decryptedItem crypto orgKeys symKey)).filter
        (inScope (some orgId))) :
    ∃ cipher key, cipher ∈ ciphersOf orgId sync ∧ orgKeys.lookup orgId = some key ∧
      decryptCipher crypto cipher key = .ok item ∧ item.organizationId = some orgId := by
  have within : item.organizationId = some orgId := by
    simpa [inScope] using (List.mem_filter.mp member).2
  rw [scoped_items] at member
  split_ifs at member with vacant
  · cases member
  · obtain ⟨cipher, belongs, produced⟩ := List.mem_filterMap.mp member
    obtain ⟨key, chosen, decrypted⟩ := decrypted_item_inv crypto orgKeys symKey cipher item produced
    have organization : cipher.organizationId = some orgId := by
      simpa using (List.mem_filter.mp belongs).2
    refine ⟨cipher, key, belongs, ?_, decrypted, within⟩
    simpa [cipherKey, organization, vacant] using chosen

/-- Vault scoping is isolation. On two answers that agree on an organization, a
request whose vault name resolves to it alone picks, from either decrypted
vault, the same item, built from the same cipher of the organization under the
organization's key; or it fails on both with the same error variant. -/
theorem scoped_lookup_isolated (left right : SyncResponse) (symKey : SymmetricKey)
    (name v orgId : String) (agree : Agree orgId left right)
    (resolved : (indexOrgs unicode left.profile.organizations).lookup (unicode.toLowercase v) =
      some [orgId]) :
    ∃ orgKeys leftCache leftSkips rightCache rightSkips,
      decryptOrgKeys crypto left.profile symKey = .ok orgKeys ∧
      decryptVault crypto unicode left symKey = .ok (leftCache, leftSkips) ∧
      decryptVault crypto unicode right symKey = .ok (rightCache, rightSkips) ∧
      ((∃ cipher key item, cipher ∈ left.ciphers ∧ cipher ∈ right.ciphers ∧
          cipher.organizationId = some orgId ∧ orgKeys.lookup orgId = some key ∧
          decryptCipher crypto cipher key = .ok item ∧ item.organizationId = some orgId ∧
          lookupItem unicode leftCache name (some v) = .ok item ∧
          lookupItem unicode rightCache name (some v) = .ok item) ∨
        (∃ leftSearched rightSearched,
          lookupItem unicode leftCache name (some v) =
            .error (.err (.notFoundInVault name v leftSearched)) ∧
          lookupItem unicode rightCache name (some v) =
            .error (.err (.notFoundInVault name v rightSearched)))) := by
  obtain ⟨orgKeys, leftSkips, opened, leftIs⟩ := decrypt_vault_spec crypto unicode left symKey
  obtain ⟨otherKeys, rightSkips, reopened, rightIs⟩ :=
    decrypt_vault_spec crypto unicode right symKey
  have sameKeys : otherKeys = orgKeys := by
    rw [agree_org_keys crypto orgId left right agree, reopened] at opened
    cases opened
    rfl
  subst sameKeys
  refine ⟨otherKeys, _, leftSkips, _, rightSkips, opened, leftIs, rightIs, ?_⟩
  have resolvedRight := resolved
  rw [agree.organizations] at resolvedRight
  rw [lookup_item_scoped unicode _ name v orgId resolved,
    lookup_item_scoped unicode _ name v orgId resolvedRight]
  -- the two searches run over the same items
  have sameItems := scoped_items crypto otherKeys symKey orgId right
  rw [← agree.ciphers, ← scoped_items] at sameItems
  rw [sameItems]
  cases found : findItem unicode ((left.ciphers.filterMap
      (decryptedItem crypto otherKeys symKey)).filter (inScope (some orgId))) name none with
  | none => exact .inr ⟨_, _, rfl, rfl⟩
  | some item =>
    obtain ⟨cipher, key, belongs, chosen, decrypted, within⟩ :=
      scoped_item_origin crypto otherKeys symKey orgId left item
        (find_item_mem unicode _ name none item found)
    have belongsRight := belongs
    rw [agree.ciphers] at belongsRight
    refine .inl ⟨cipher, key, item, (List.mem_filter.mp belongs).1,
      (List.mem_filter.mp belongsRight).1, ?_, chosen, decrypted, within, rfl, rfl⟩
    simpa using (List.mem_filter.mp belongs).2

end

/-! ## Two sample vaults -/

/-- Primitives under which the private key of an account opens, and each key of an
organization opens to the sample key. -/
def orgPrimitives : Primitives Unit :=
  { samplePrimitives with
    fromPkcs8Der := fun _ => .ok ()
    rsaOaepSha1 := fun _ _ => .ok (sampleKey.encKey ++ sampleKey.macKey) }

/-- An answer for an account in two organizations with a key each. -/
def orgSync (ciphers : List SyncCipher) : SyncResponse where
  profile := ⟨"u1", "ops@example.org", "", sampleText,
    [⟨"o1", "Team", "4.AAAAAAAAAAAAAAAAAAAAAA=="⟩, ⟨"o2", "Other", "4.AAAAAAAAAAAAAAAAAAAAAA=="⟩]⟩
  ciphers := ciphers

/-- The sample cipher in an organization. -/
def orgCipher (orgId : String) : SyncCipher := { sampleCipher with organizationId := some orgId }

/-- The second vault has items of the same name outside of the organization, before and
after the one within. -/
theorem scoped_lookup_isolated_sample :
    ∃ orgKeys leftCache leftSkips rightCache rightSkips,
      decryptOrgKeys orgPrimitives (orgSync [orgCipher "o1"]).profile sampleKey = .ok orgKeys ∧
      decryptVault orgPrimitives asciiTables (orgSync [orgCipher "o1"]) sampleKey =
        .ok (leftCache, leftSkips) ∧
      decryptVault orgPrimitives asciiTables
          (orgSync [orgCipher "o2", orgCipher "o1", sampleCipher]) sampleKey =
        .ok (rightCache, rightSkips) ∧
      (∃ cipher key item, cipher ∈ (orgSync [orgCipher "o1"]).ciphers ∧
        cipher ∈ (orgSync [orgCipher "o2", orgCipher "o1", sampleCipher]).ciphers ∧
        cipher.organizationId = some "o1" ∧ orgKeys.lookup "o1" = some key ∧
        decryptCipher orgPrimitives cipher key = .ok item ∧ item.organizationId = some "o1" ∧
        lookupItem asciiTables leftCache "db" (some "team") = .ok item ∧
        lookupItem asciiTables rightCache "db" (some "team") = .ok item) ∧
      ∃ leftSearched rightSearched,
        lookupItem asciiTables leftCache "api" (some "team") =
          .error (.err (.notFoundInVault "api" "team" leftSearched)) ∧
        lookupItem asciiTables rightCache "api" (some "team") =
          .error (.err (.notFoundInVault "api" "team" rightSearched)) := by
  have agree : Agree "o1" (orgSync [orgCipher "o1"])
      (orgSync [orgCipher "o2", orgCipher "o1", sampleCipher]) := ⟨rfl, rfl, by decide⟩
  have searched : (decryptVault orgPrimitives asciiTables (orgSync [orgCipher "o1"])
      sampleKey).toOption.map (fun decrypted =>
        ((lookupItem asciiTables decrypted.1 "db" (some "team")).toOption.isSome,
          (lookupItem asciiTables decrypted.1 "api" (some "team")).toOption.isSome)) =
            some (true, false) := by
    decide +kernel
  obtain ⟨orgKeys, leftCache, leftSkips, rightCache, rightSkips, opened, leftIs, rightIs, own⟩ :=
    scoped_lookup_isolated orgPrimitives asciiTables (orgSync [orgCipher "o1"])
      (orgSync [orgCipher "o2", orgCipher "o1", sampleCipher]) sampleKey "db" "team" "o1" agree
      (by decide)
  obtain ⟨_, _, _, _, _, -, leftAgain, rightAgain, other⟩ :=
    scoped_lookup_isolated orgPrimitives asciiTables (orgSync [orgCipher "o1"])
      (orgSync [orgCipher "o2", orgCipher "o1", sampleCipher]) sampleKey "api" "team" "o1" agree
      (by decide)
  cases leftIs.symm.trans leftAgain
  cases rightIs.symm.trans rightAgain
  rw [leftIs] at searched
  obtain ⟨foundOwn, missedOther⟩ := Prod.mk.inj (Option.some.inj searched)
  refine ⟨orgKeys, leftCache, leftSkips, rightCache, rightSkips, opened, leftIs, rightIs, ?_, ?_⟩
  · rcases own with found | ⟨leftSearched, -, missed, -⟩
    · exact found
    · rw [missed] at foundOwn
      cases foundOwn
  · rcases other with ⟨cipher, key, item, -, -, -, -, -, -, found, -⟩ | missed
    · rw [found] at missedOther
      cases missedOther
    · exact missed

end VaultwardenOperator.Scoping
