import VaultwardenOperator.Sync

/-!
# What a decrypted vault contains

The key of a cipher is described without the key map: the user's own for a personal
cipher, and else the last key of its organization that decrypts. The items are then the
ciphers that decrypt under their key, in order, and each of the others is counted once,
by its cause. What becomes of one organization's key is not seen by the items of any
other.
-/

namespace VaultwardenOperator.VaultContents

open Rust Crypto Sync

section
variable {RsaPrivateKey : Type} (crypto : Primitives RsaPrivateKey) (unicode : UnicodeTables)

/-- The key of an organization: of the entries with its id, the last one whose key decrypts
under the decrypted private key. -/
def orgKey (profile : SyncProfile) (symKey : SymmetricKey) (orgId : String) :
    Option SymmetricKey :=
  (decryptPrivateKey crypto profile.privateKey symKey).toOption.bind (fun privateKey =>
    (profile.organizations.filter (fun org => org.id = orgId)).reverse.findSome?
      (fun org => (decryptOrgKey crypto org.key privateKey).toOption))

/-- The key of a cipher. -/
def keyOf (profile : SyncProfile) (symKey : SymmetricKey) (cipher : SyncCipher) :
    Option SymmetricKey :=
  match cipher.organizationId with
  | none => some symKey
  | some orgId => if orgId = "" then some symKey else orgKey crypto profile symKey orgId

/-- The items and counts of a decrypted answer. -/
structure Contents (sync : SyncResponse) (symKey : SymmetricKey) (cache : VaultCache)
    (skips : DecryptSkips) : Prop where
  items : cache.items = sync.ciphers.filterMap (fun cipher =>
    (keyOf crypto sync.profile symKey cipher).bind (fun key =>
      (decryptCipher crypto cipher key).toOption))
  noOrgKey : skips.noOrgKey = sync.ciphers.countP (fun cipher =>
    (keyOf crypto sync.profile symKey cipher).isNone)
  decryptFailed : skips.decryptFailed = sync.ciphers.countP (fun cipher =>
    (keyOf crypto sync.profile symKey cipher).any (fun key =>
      (decryptCipher crypto cipher key).toOption.isNone))
  total : cache.items.length + skips.total = sync.ciphers.length

/-- Two answers have the same ciphers and private key, and the same organizations apart
from the entries with one id. -/
structure SameApart (orgId : String) (left right : SyncResponse) : Prop where
  ciphers : left.ciphers = right.ciphers
  privateKey : left.profile.privateKey = right.profile.privateKey
  others : left.profile.organizations.filter (fun org => org.id ≠ orgId) =
    right.profile.organizations.filter (fun org => org.id ≠ orgId)

/-! ## The key map -/

/-- The loop over the organizations, from any map: the last key that decrypts for an id
replaces what the map had for it. -/
theorem insert_org_keys_lookup (privateKey : RsaPrivateKey) (organizations : List SyncOrganization)
    (map orgKeys : StringMap SymmetricKey) (orgId : String)
    (built : organizations.foldlM (insertOrgKey crypto privateKey) map = .ok orgKeys) :
    orgKeys.lookup orgId =
      ((organizations.filter (fun org => org.id = orgId)).reverse.findSome?
        (fun org => (decryptOrgKey crypto org.key privateKey).toOption)).or (map.lookup orgId) := by
  induction organizations generalizing map with
  | nil =>
    cases built
    rfl
  | cons org rest inductionHypothesis =>
    rw [List.foldlM_cons, bind_ok_iff] at built
    obtain ⟨next, inserted, built⟩ := built
    have entry : next.lookup orgId =
        (if org.id = orgId then (decryptOrgKey crypto org.key privateKey).toOption else none).or
          (map.lookup orgId) := by
      unfold insertOrgKey at inserted
      split at inserted
      · rename_i key opened
        cases inserted
        by_cases same : org.id = orgId
        · subst same
          rw [AList.lookup_insert, if_pos rfl, opened]
          rfl
        · rw [AList.lookup_insert_ne (Ne.symm same), if_neg same, Option.none_or]
      · rename_i error failed
        cases inserted
        simp [failed]
      · cases inserted
    rw [inductionHypothesis next built, entry, ← Option.or_assoc]
    by_cases same : org.id = orgId
    · simp [same, List.findSome?_append]
    · simp [same]

/-- The map holds the key of each organization. -/
theorem org_keys_lookup (profile : SyncProfile) (symKey : SymmetricKey)
    (orgKeys : StringMap SymmetricKey) (orgId : String)
    (opened : decryptOrgKeys crypto profile symKey = .ok orgKeys) :
    orgKeys.lookup orgId = orgKey crypto profile symKey orgId := by
  unfold decryptOrgKeys at opened
  split_ifs at opened with present
  · cases privateOpened : decryptPrivateKey crypto profile.privateKey symKey with
    | ok privateKey =>
      rw [privateOpened] at opened
      have built := insert_org_keys_lookup crypto privateKey profile.organizations ∅ orgKeys orgId
        opened
      rw [built, AList.lookup_empty, Option.or_none, orgKey, privateOpened]
      rfl
    | error halt =>
      rw [privateOpened] at opened
      cases halt with
      | err error =>
        cases opened
        rw [orgKey, privateOpened]
        rfl
      | panic => cases opened
  · cases opened
    have vacant : profile.organizations = [] ∨ profile.privateKey = "" := by tauto
    rcases vacant with none | none
    · simp [orgKey, none]
    · simp [orgKey, none, decryptPrivateKey]

/-- The key of a cipher, looked up in the map, is the key that the profile gives it. -/
theorem cipher_key_eq (profile : SyncProfile) (symKey : SymmetricKey)
    (orgKeys : StringMap SymmetricKey)
    (opened : decryptOrgKeys crypto profile symKey = .ok orgKeys) :
    cipherKey orgKeys symKey = keyOf crypto profile symKey := by
  funext cipher
  unfold cipherKey keyOf
  cases cipher.organizationId with
  | none => rfl
  | some orgId => simp only [org_keys_lookup crypto profile symKey orgKeys orgId opened]

/-! ## Items and counts -/

/-- Each cipher is an item or counted, and not both. -/
theorem each_counted (orgKeys : StringMap SymmetricKey) (symKey : SymmetricKey)
    (ciphers : List SyncCipher) :
    (ciphers.filterMap (decryptedItem crypto orgKeys symKey)).length +
      (ciphers.countP (lacksKey orgKeys symKey) +
        ciphers.countP (failsUnderKey crypto orgKeys symKey)) = ciphers.length := by
  induction ciphers with
  | nil => rfl
  | cons cipher rest inductionHypothesis =>
    have one : (decryptedItem crypto orgKeys symKey cipher).toList.length +
        ((lacksKey orgKeys symKey cipher).toNat +
          (failsUnderKey crypto orgKeys symKey cipher).toNat) = 1 := by
      unfold decryptedItem lacksKey failsUnderKey
      cases cipherKey orgKeys symKey cipher with
      | none => rfl
      | some key => cases decrypted : decryptCipher crypto cipher key <;> simp [decrypted]
    have items : ((cipher :: rest).filterMap (decryptedItem crypto orgKeys symKey)).length =
        (decryptedItem crypto orgKeys symKey cipher).toList.length +
          (rest.filterMap (decryptedItem crypto orgKeys symKey)).length := by
      cases produced : decryptedItem crypto orgKeys symKey cipher <;> simp [produced, Nat.add_comm]
    have counts (counted : SyncCipher → Bool) :
        (cipher :: rest).countP counted = rest.countP counted + (counted cipher).toNat := by
      cases held : counted cipher <;> simp [held]
    rw [items, counts, counts, List.length_cons]
    omega

theorem decrypt_vault_contents (sync : SyncResponse) (symKey : SymmetricKey) :
    ∃ cache skips, decryptVault crypto unicode sync symKey = .ok (cache, skips) ∧
      Contents crypto sync symKey cache skips := by
  obtain ⟨orgKeys, opened⟩ := decrypt_org_keys_ok crypto sync.profile symKey
  have keys := cipher_key_eq crypto sync.profile symKey orgKeys opened
  have counted := each_counted crypto orgKeys symKey sync.ciphers
  refine ⟨_, _, decrypt_vault_counted crypto unicode sync symKey orgKeys opened, ?_, ?_, ?_, ?_⟩
  · simp only [← keys]
    rfl
  · simp only [← keys]
    rfl
  · simp only [← keys]
    rfl
  · exact counted

/-! ## One organization's key -/

/-- The entries with one id do not bear on the key of another organization. -/
theorem org_key_apart (left right : SyncResponse) (symKey : SymmetricKey) (orgId other : String)
    (apart : SameApart orgId left right) (distinct : other ≠ orgId) :
    orgKey crypto left.profile symKey other = orgKey crypto right.profile symKey other := by
  have narrowed (organizations : List SyncOrganization) :
      organizations.filter (fun org => org.id = other) =
        (organizations.filter (fun org => org.id ≠ orgId)).filter (fun org => org.id = other) := by
    rw [List.filter_filter]
    congr 1
    funext org
    by_cases same : org.id = other
    · simp [same, distinct]
    · simp [same]
  rw [orgKey, orgKey, apart.privateKey, narrowed left.profile.organizations, apart.others,
    ← narrowed]

/-- The item of a cipher, unless it belongs to that organization, is the same in both. -/
theorem item_apart (left right : SyncResponse) (symKey : SymmetricKey) (orgId : String)
    (apart : SameApart orgId left right) (cipher : SyncCipher) :
    ((keyOf crypto left.profile symKey cipher).bind (fun key =>
        (decryptCipher crypto cipher key).toOption)).filter
          (fun item => item.organizationId ≠ some orgId) =
      ((keyOf crypto right.profile symKey cipher).bind (fun key =>
        (decryptCipher crypto cipher key).toOption)).filter
          (fun item => item.organizationId ≠ some orgId) := by
  by_cases belongs : orgId ≠ "" ∧ cipher.organizationId = some orgId
  · have dropped (key : Option SymmetricKey) :
        (key.bind (fun key => (decryptCipher crypto cipher key).toOption)).filter
          (fun item => item.organizationId ≠ some orgId) = none := by
      rw [Option.filter_eq_none_iff]
      intro item produced
      obtain ⟨used, -, opened⟩ := Option.bind_eq_some_iff.mp produced
      have organization := decrypt_cipher_organization crypto cipher used item
        ((to_option_some_iff _ item).mp opened)
      simp [organization, belongs]
    rw [dropped, dropped]
  · have sameKey : keyOf crypto left.profile symKey cipher =
        keyOf crypto right.profile symKey cipher := by
      unfold keyOf
      cases owner : cipher.organizationId with
      | none => rfl
      | some other =>
        by_cases vacant : other = ""
        · simp only [vacant, if_true]
        · have distinct : other ≠ orgId := by
            rintro rfl
            exact belongs ⟨vacant, owner⟩
          simp only [vacant, if_false,
            org_key_apart crypto left right symKey orgId other apart distinct]
    rw [sameKey]

/-- Decryption loses and invents nothing: the items are the ciphers that decrypt under
their keys, in order, each other cipher is counted once, by its cause, and the keys of one
organization change no item of another or of the personal vault. -/
theorem decrypt_vault_exact (sync : SyncResponse) (symKey : SymmetricKey) :
    ∃ cache skips, decryptVault crypto unicode sync symKey = .ok (cache, skips) ∧
      Contents crypto sync symKey cache skips ∧
      ∀ other orgId, SameApart orgId sync other →
        ∃ otherCache otherSkips,
          decryptVault crypto unicode other symKey = .ok (otherCache, otherSkips) ∧
          otherCache.items.filter (fun item => item.organizationId ≠ some orgId) =
            cache.items.filter (fun item => item.organizationId ≠ some orgId) := by
  obtain ⟨cache, skips, decrypted, contents⟩ := decrypt_vault_contents crypto unicode sync symKey
  refine ⟨cache, skips, decrypted, contents, ?_⟩
  intro other orgId apart
  obtain ⟨otherCache, otherSkips, otherDecrypted, otherContents⟩ :=
    decrypt_vault_contents crypto unicode other symKey
  refine ⟨otherCache, otherSkips, otherDecrypted, ?_⟩
  rw [otherContents.items, contents.items, List.filter_filterMap, List.filter_filterMap,
    apart.ciphers]
  congr 1
  funext cipher
  exact (item_apart crypto sync other symKey orgId apart cipher).symm

end

end VaultwardenOperator.VaultContents
