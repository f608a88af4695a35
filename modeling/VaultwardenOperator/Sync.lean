import VaultwardenOperator.Crypto
import Mathlib.Data.List.AList
import Mathlib.Data.List.Infix

/-!
# The decrypted vault

The `/api/sync` answer, its decryption into a cache of items, and the lookups in
that cache. Organization keys and the organization index are hash maps with last
insertion wins; the loops over organizations and ciphers are folds with the
accumulators of the source.

Lowercasing is a parameter. So is the order in which a hash map yields its
values, which Rust leaves open and which only `extractSecret` can observe.
-/

namespace VaultwardenOperator.Sync

open Rust Crypto

structure SyncOrganization where
  id : String
  name : String
  key : String
deriving DecidableEq

structure SyncProfile where
  id : String
  email : String
  key : String
  privateKey : String
  organizations : List SyncOrganization
deriving DecidableEq

structure SyncUri where
  uri : Option String
deriving DecidableEq

structure SyncLogin where
  username : Option String
  password : Option String
  uri : Option String
  uris : List SyncUri
deriving DecidableEq

structure SyncCard where
  cardholderName : Option String
  number : Option String
  code : Option String
deriving DecidableEq

structure SyncField where
  name : Option String
  value : Option String
  fieldType : UInt8
deriving DecidableEq

structure SyncCipher where
  id : String
  cipherType : UInt8
  organizationId : Option String
  name : String
  notes : Option String
  login : Option SyncLogin
  card : Option SyncCard
  fields : List SyncField
deriving DecidableEq

structure SyncResponse where
  profile : SyncProfile
  ciphers : List SyncCipher
deriving DecidableEq

/-- A hash map from strings. Insertion replaces; the order of entries carries no
meaning. -/
abbrev StringMap (α : Type) := AList (fun _ : String => α)

/-- Equality of entries, in a form that evaluates. -/
instance {α : Type} [DecidableEq α] : DecidableEq (StringMap α) := fun left right =>
  decidable_of_iff
    (left.entries.map (fun entry => (entry.1, entry.2)) =
      right.entries.map (fun entry => (entry.1, entry.2)))
    (by
      rw [AList.ext_iff]
      apply List.map_inj_right
      rintro ⟨_, _⟩ ⟨_, _⟩ same
      cases same
      rfl)

/-- A vault item after decryption. The organization is absent for personal items. -/
structure DecryptedItem where
  id : String
  cipherType : UInt8
  organizationId : Option String
  name : String
  username : String
  password : String
  notes : String
  uri : String
  fields : StringMap String
deriving DecidableEq

/-- A decrypted snapshot: items, and the organization ids of each lowercased
organization name. -/
structure VaultCache where
  items : List DecryptedItem
  orgsByName : StringMap (List String)
deriving DecidableEq

/-- Ciphers dropped while decrypting, by cause. -/
structure DecryptSkips where
  noOrgKey : Nat
  decryptFailed : Nat
deriving DecidableEq

def DecryptSkips.total (skips : DecryptSkips) : Nat := skips.noOrgKey + skips.decryptFailed

inductive LookupError where
  | vaultNotFound (vault : String)
  | vaultAmbiguous (vault : String)
  | notFoundInVault (name vault : String) (searched : Nat)
  | notFound (name : String) (searched : Nat)
deriving DecidableEq

/-- `LookupError::is_stale_miss`: every error except the naming conflict. -/
def LookupError.isStaleMiss : LookupError → Bool
  | .vaultAmbiguous _ => false
  | _ => true

/-- The `Display` texts. -/
def LookupError.display (unicode : UnicodeTables) : LookupError → String
  | .vaultNotFound vault =>
    let quoted := unicode.escapeDebug vault
    s!"vault (organization) {quoted} not found"
  | .vaultAmbiguous vault =>
    let quoted := unicode.escapeDebug vault
    s!"vault name {quoted} matches multiple organizations; use a unique name"
  | .notFoundInVault name vault searched =>
    let quoted := unicode.escapeDebug name
    let quotedVault := unicode.escapeDebug vault
    s!"secret {quoted} not found in vault {quotedVault} ({searched} items searched)"
  | .notFound name searched =>
    let quoted := unicode.escapeDebug name
    s!"secret {quoted} not found in vault cache ({searched} items searched)"

/-! ## Decryption -/

section
variable {RsaPrivateKey : Type} (crypto : Primitives RsaPrivateKey) (unicode : UnicodeTables)

/-- An optional string that is decrypted, and empty when it is absent or fails. -/
def decryptOrDefault (key : SymmetricKey) : Option String → Call CryptoError String
  | none => .ok ""
  | some s => unwrapOr "" (decryptStr crypto s key)

/-- Username, password and URI of a login. The first entry of the URI list stands
in for an empty URI. -/
def decryptLogin (key : SymmetricKey) (login : SyncLogin) :
    Call CryptoError (String × String × String) := do
  let username ← decryptOrDefault crypto key login.username
  let password ← decryptOrDefault crypto key login.password
  let uri ← decryptOrDefault crypto key login.uri
  if uri = "" then do
    let uri ← decryptOrDefault crypto key (login.uris.head?.bind SyncUri.uri)
    pure (username, password, uri)
  else pure (username, password, uri)

/-- One custom field enters the map under its decrypted name unless that is empty. -/
def insertField (key : SymmetricKey) (fields : StringMap String) (field : SyncField) :
    Call CryptoError (StringMap String) := do
  let fname ← decryptOrDefault crypto key field.name
  let fvalue ← decryptOrDefault crypto key field.value
  pure (if fname = "" then fields else fields.insert fname fvalue)

/-- `decrypt_cipher`. Only the name can fail the cipher. -/
def decryptCipher (cipher : SyncCipher) (key : SymmetricKey) :
    Call CryptoError DecryptedItem := do
  let name ← decryptStr crypto cipher.name key
  let notes ← decryptOrDefault crypto key cipher.notes
  let (username, password, uri) ← match cipher.login with
    | none => pure ("", "", "")
    | some login => decryptLogin crypto key login
  let fields ← cipher.fields.foldlM (insertField crypto key) ∅
  pure {
    id := cipher.id
    cipherType := cipher.cipherType
    organizationId := cipher.organizationId.filter (· ≠ "")
    name, username, password, notes, uri, fields }

/-- One organization's key enters the map if it decrypts. -/
def insertOrgKey (privateKey : RsaPrivateKey) (orgKeys : StringMap SymmetricKey)
    (org : SyncOrganization) : Call Empty (StringMap SymmetricKey) :=
  match decryptOrgKey crypto org.key privateKey with
  | .ok key => .ok (orgKeys.insert org.id key)
  | .error (.err _) => .ok orgKeys
  | .error .panic => .error .panic

/-- The organization keys of a profile; none when the private key is absent or
does not decrypt. -/
def decryptOrgKeys (profile : SyncProfile) (symKey : SymmetricKey) :
    Call Empty (StringMap SymmetricKey) :=
  if profile.organizations ≠ [] ∧ profile.privateKey ≠ "" then
    match decryptPrivateKey crypto profile.privateKey symKey with
    | .ok privateKey => profile.organizations.foldlM (insertOrgKey crypto privateKey) ∅
    | .error (.err _) => .ok ∅
    | .error .panic => .error .panic
  else .ok ∅

/-- The key a cipher is decrypted under: the user's own for a personal cipher, an
empty organization id included. -/
def cipherKey (orgKeys : StringMap SymmetricKey) (symKey : SymmetricKey) (cipher : SyncCipher) :
    Option SymmetricKey :=
  match cipher.organizationId with
  | some orgId => if orgId = "" then some symKey else orgKeys.lookup orgId
  | none => some symKey

/-- One cipher joins the items or is counted as skipped. -/
def decryptNext (orgKeys : StringMap SymmetricKey) (symKey : SymmetricKey)
    (state : List DecryptedItem × DecryptSkips) (cipher : SyncCipher) :
    Call Empty (List DecryptedItem × DecryptSkips) :=
  let (items, skips) := state
  match cipherKey orgKeys symKey cipher with
  | none => .ok (items, { skips with noOrgKey := skips.noOrgKey + 1 })
  | some key =>
    match decryptCipher crypto cipher key with
    | .ok item => .ok (items ++ [item], skips)
    | .error (.err _) => .ok (items, { skips with decryptFailed := skips.decryptFailed + 1 })
    | .error .panic => .error .panic

/-- `index_orgs`: the ids of the organizations of one lowercased name, in order. -/
def indexOrgs (orgs : List SyncOrganization) : StringMap (List String) :=
  orgs.foldl (fun byName org =>
    let name := unicode.toLowercase org.name
    byName.insert name ((byName.lookup name).getD [] ++ [org.id])) ∅

/-- `decrypt_vault`. -/
def decryptVault (sync : SyncResponse) (symKey : SymmetricKey) :
    Call Empty (VaultCache × DecryptSkips) := do
  let orgKeys ← decryptOrgKeys crypto sync.profile symKey
  let (items, skips) ← sync.ciphers.foldlM (decryptNext crypto orgKeys symKey) ([], ⟨0, 0⟩)
  pure (⟨items, indexOrgs unicode sync.profile.organizations⟩, skips)

/-! ## Lookup -/

/-- `str::contains` with a string pattern. -/
def contains (text pattern : String) : Bool := decide (pattern.toList <:+: text.toList)

/-- An item is in scope without an organization, or when it belongs to it. -/
def inScope (orgId : Option String) (item : DecryptedItem) : Bool :=
  match orgId with
  | none => true
  | some id => item.organizationId = some id

/-- `find_item`: the first exact match in scope, else the first substring match. -/
def findItem (items : List DecryptedItem) (name : String) (orgId : Option String) :
    Option DecryptedItem :=
  let key := unicode.toLowercase name
  match items.find? (fun item => inScope orgId item && unicode.toLowercase item.name == key) with
  | some item => some item
  | none => items.find? (fun item =>
      inScope orgId item && contains (unicode.toLowercase item.name) key)

/-- `lookup_item`. The index `org_ids[0]` panics on an empty list of ids. -/
def lookupItem (cache : VaultCache) (name : String) (vault : Option String) :
    Call LookupError DecryptedItem :=
  match vault with
  | some v =>
    match cache.orgsByName.lookup (unicode.toLowercase v) with
    | none => .error (.err (.vaultNotFound v))
    | some orgIds =>
      if orgIds.length > 1 then .error (.err (.vaultAmbiguous v))
      else match orgIds[0]? with
        | none => .error .panic
        | some orgId =>
          okOr (.notFoundInVault name v cache.items.length)
            (findItem unicode cache.items name (some orgId))
  | none => okOr (.notFound name cache.items.length) (findItem unicode cache.items name none)

/-- The order in which a hash map yields its values: any order, fixed by the map. -/
abbrev ValueOrder := StringMap String → List String

/-- `extract_secret`. -/
def extractSecret (values : ValueOrder) (item : DecryptedItem) : String :=
  if item.password ≠ "" then item.password
  else match ["value", "secret", "api_key", "apikey", "token"].findSome? (fun name =>
      (item.fields.lookup name).filter (· ≠ "")) with
    | some value => value
    | none =>
      if item.notes ≠ "" then item.notes
      else ((values item.fields).find? (· ≠ "")).getD ""

/-! ## What decryption produces -/

/-- A string that fails to decrypt is replaced, so an optional one always has a value. -/
theorem decrypt_or_default_ok (key : SymmetricKey) (text : Option String) :
    ∃ value, decryptOrDefault crypto key text = .ok value := by
  cases text with
  | none => exact ⟨"", rfl⟩
  | some s => exact unwrap_or_total "" _ (decrypt_str_total crypto s key)

theorem decrypt_login_ok (key : SymmetricKey) (login : SyncLogin) :
    ∃ parts, decryptLogin crypto key login = .ok parts := by
  obtain ⟨username, usernameIs⟩ := decrypt_or_default_ok crypto key login.username
  obtain ⟨password, passwordIs⟩ := decrypt_or_default_ok crypto key login.password
  obtain ⟨uri, uriIs⟩ := decrypt_or_default_ok crypto key login.uri
  obtain ⟨first, firstIs⟩ := decrypt_or_default_ok crypto key (login.uris.head?.bind SyncUri.uri)
  unfold decryptLogin
  rw [usernameIs, passwordIs, uriIs, firstIs]
  by_cases vacant : uri = ""
  · exact ⟨(username, password, first), by simp [vacant, bind, Except.bind, pure, Except.pure]⟩
  · exact ⟨(username, password, uri), by simp [vacant, bind, Except.bind, pure, Except.pure]⟩

/-- A fold of calls that all return, returns. -/
theorem fold_ok {ε σ α : Type} (step : σ → α → Call ε σ) (values : List α) (state : σ)
    (steps : ∀ state value, ∃ next, step state value = .ok next) :
    ∃ last, values.foldlM step state = .ok last := by
  induction values generalizing state with
  | nil => exact ⟨state, rfl⟩
  | cons value rest inductionHypothesis =>
    obtain ⟨next, taken⟩ := steps state value
    obtain ⟨last, following⟩ := inductionHypothesis next
    refine ⟨last, ?_⟩
    rw [List.foldlM_cons, taken]
    exact following

theorem insert_field_ok (key : SymmetricKey) (fields : StringMap String) (field : SyncField) :
    ∃ next, insertField crypto key fields field = .ok next := by
  obtain ⟨fname, fnameIs⟩ := decrypt_or_default_ok crypto key field.name
  obtain ⟨fvalue, fvalueIs⟩ := decrypt_or_default_ok crypto key field.value
  unfold insertField
  rw [fnameIs, fvalueIs]
  exact ⟨_, rfl⟩

/-- A cipher whose name decrypts gives an item, with the cipher's identity and its
organization; an empty organization id is none. -/
theorem decrypt_cipher_named (cipher : SyncCipher) (key : SymmetricKey) (name : String)
    (named : decryptStr crypto cipher.name key = .ok name) :
    ∃ item, decryptCipher crypto cipher key = .ok item ∧ item.id = cipher.id ∧
      item.organizationId = cipher.organizationId.filter (· ≠ "") ∧ item.name = name := by
  obtain ⟨notes, notesIs⟩ := decrypt_or_default_ok crypto key cipher.notes
  obtain ⟨fields, fieldsIs⟩ := fold_ok (insertField crypto key) cipher.fields ∅
    (insert_field_ok crypto key)
  unfold decryptCipher
  rw [named, notesIs, fieldsIs]
  cases cipher.login with
  | none => exact ⟨_, rfl, rfl, rfl, rfl⟩
  | some login =>
    obtain ⟨parts, partsIs⟩ := decrypt_login_ok crypto key login
    simp only [partsIs]
    exact ⟨_, rfl, rfl, rfl, rfl⟩

/-- A cipher whose name fails to decrypt fails with the same error. -/
theorem decrypt_cipher_unnamed (cipher : SyncCipher) (key : SymmetricKey)
    (halt : Halt CryptoError) (unnamed : decryptStr crypto cipher.name key = .error halt) :
    decryptCipher crypto cipher key = .error halt := by
  unfold decryptCipher
  rw [unnamed]
  rfl

theorem decrypt_cipher_total (cipher : SyncCipher) (key : SymmetricKey) :
    decryptCipher crypto cipher key ≠ .error .panic := by
  cases named : decryptStr crypto cipher.name key with
  | ok name =>
    obtain ⟨item, decrypted, -⟩ := decrypt_cipher_named crypto cipher key name named
    simp [decrypted]
  | error halt =>
    rw [decrypt_cipher_unnamed crypto cipher key halt named]
    intro panicked
    cases panicked
    exact decrypt_str_total crypto cipher.name key named

/-- An item keeps the organization of the cipher it was decrypted from. -/
theorem decrypt_cipher_organization (cipher : SyncCipher) (key : SymmetricKey)
    (item : DecryptedItem) (decrypted : decryptCipher crypto cipher key = .ok item) :
    item.organizationId = cipher.organizationId.filter (· ≠ "") := by
  cases named : decryptStr crypto cipher.name key with
  | ok name =>
    obtain ⟨other, same, -, organization, -⟩ := decrypt_cipher_named crypto cipher key name named
    rw [decrypted] at same
    cases same
    exact organization
  | error halt =>
    rw [decrypt_cipher_unnamed crypto cipher key halt named] at decrypted
    cases decrypted

theorem insert_org_key_ok (privateKey : RsaPrivateKey) (orgKeys : StringMap SymmetricKey)
    (org : SyncOrganization) : ∃ next, insertOrgKey crypto privateKey orgKeys org = .ok next := by
  unfold insertOrgKey
  cases opened : decryptOrgKey crypto org.key privateKey with
  | ok key => exact ⟨_, rfl⟩
  | error halt =>
    cases halt with
    | err error => exact ⟨_, rfl⟩
    | panic => exact absurd opened (decrypt_org_key_total crypto org.key privateKey)

theorem decrypt_org_keys_ok (profile : SyncProfile) (symKey : SymmetricKey) :
    ∃ orgKeys, decryptOrgKeys crypto profile symKey = .ok orgKeys := by
  unfold decryptOrgKeys
  split_ifs
  · cases opened : decryptPrivateKey crypto profile.privateKey symKey with
    | ok privateKey => exact fold_ok _ _ _ (insert_org_key_ok crypto privateKey)
    | error halt =>
      cases halt with
      | err error => exact ⟨∅, rfl⟩
      | panic => exact absurd opened (decrypt_private_key_total crypto profile.privateKey symKey)
  · exact ⟨∅, rfl⟩

/-- The item of one cipher, if its key is there and its name decrypts. No other
cipher has a part in it. -/
def decryptedItem (orgKeys : StringMap SymmetricKey) (symKey : SymmetricKey)
    (cipher : SyncCipher) : Option DecryptedItem :=
  (cipherKey orgKeys symKey cipher).bind (fun key => (decryptCipher crypto cipher key).toOption)

/-- An item comes from its cipher under the cipher's key. -/
theorem decrypted_item_inv (orgKeys : StringMap SymmetricKey) (symKey : SymmetricKey)
    (cipher : SyncCipher) (item : DecryptedItem)
    (produced : decryptedItem crypto orgKeys symKey cipher = some item) :
    ∃ key, cipherKey orgKeys symKey cipher = some key ∧
      decryptCipher crypto cipher key = .ok item := by
  obtain ⟨key, chosen, opened⟩ := Option.bind_eq_some_iff.mp produced
  refine ⟨key, chosen, ?_⟩
  cases decrypted : decryptCipher crypto cipher key with
  | ok other =>
    rw [decrypted] at opened
    cases opened
    rfl
  | error halt =>
    rw [decrypted] at opened
    cases opened

theorem decrypted_item_organization (orgKeys : StringMap SymmetricKey) (symKey : SymmetricKey)
    (cipher : SyncCipher) (item : DecryptedItem)
    (produced : decryptedItem crypto orgKeys symKey cipher = some item) :
    item.organizationId = cipher.organizationId.filter (· ≠ "") := by
  obtain ⟨key, -, decrypted⟩ := decrypted_item_inv crypto orgKeys symKey cipher item produced
  exact decrypt_cipher_organization crypto cipher key item decrypted

/-- The cipher has no key. -/
def lacksKey (orgKeys : StringMap SymmetricKey) (symKey : SymmetricKey) (cipher : SyncCipher) :
    Bool :=
  (cipherKey orgKeys symKey cipher).isNone

/-- The cipher has a key and fails under it. -/
def failsUnderKey (orgKeys : StringMap SymmetricKey) (symKey : SymmetricKey)
    (cipher : SyncCipher) : Bool :=
  (cipherKey orgKeys symKey cipher).any (fun key => (decryptCipher crypto cipher key).toOption.isNone)

/-- One turn of the loop appends the cipher's item, if there is one, and else counts it by
its cause. -/
theorem decrypt_next_item (orgKeys : StringMap SymmetricKey) (symKey : SymmetricKey)
    (items : List DecryptedItem) (skips : DecryptSkips) (cipher : SyncCipher) :
    decryptNext crypto orgKeys symKey (items, skips) cipher =
      .ok (items ++ (decryptedItem crypto orgKeys symKey cipher).toList,
        ⟨skips.noOrgKey + (lacksKey orgKeys symKey cipher).toNat,
          skips.decryptFailed + (failsUnderKey crypto orgKeys symKey cipher).toNat⟩) := by
  unfold decryptNext decryptedItem lacksKey failsUnderKey
  cases cipherKey orgKeys symKey cipher with
  | none => simp
  | some key =>
    cases decrypted : decryptCipher crypto cipher key with
    | ok item => simp [decrypted]
    | error halt =>
      cases halt with
      | err error => simp [decrypted]
      | panic => exact absurd decrypted (decrypt_cipher_total crypto cipher key)

/-- The loop over the ciphers, from any accumulator. -/
theorem decrypt_all_items (orgKeys : StringMap SymmetricKey) (symKey : SymmetricKey)
    (ciphers : List SyncCipher) (items : List DecryptedItem) (skips : DecryptSkips) :
    ciphers.foldlM (decryptNext crypto orgKeys symKey) (items, skips) =
      .ok (items ++ ciphers.filterMap (decryptedItem crypto orgKeys symKey),
        ⟨skips.noOrgKey + ciphers.countP (lacksKey orgKeys symKey),
          skips.decryptFailed + ciphers.countP (failsUnderKey crypto orgKeys symKey)⟩) := by
  induction ciphers generalizing items skips with
  | nil => simp [pure, Except.pure]
  | cons cipher rest inductionHypothesis =>
    rw [List.foldlM_cons, decrypt_next_item]
    change rest.foldlM _ _ = _
    rw [inductionHypothesis, List.append_assoc, List.countP_cons, List.countP_cons]
    congr 2
    · cases produced : decryptedItem crypto orgKeys symKey cipher <;> simp [produced]
    · cases lacksKey orgKeys symKey cipher <;> cases failsUnderKey crypto orgKeys symKey cipher <;>
        simp <;> omega

/-- The cache of an answer under the keys of its profile: the items of its ciphers in order,
each decrypted by itself, and the index of its organizations; the others are counted. -/
theorem decrypt_vault_counted (sync : SyncResponse) (symKey : SymmetricKey)
    (orgKeys : StringMap SymmetricKey)
    (opened : decryptOrgKeys crypto sync.profile symKey = .ok orgKeys) :
    decryptVault crypto unicode sync symKey =
      .ok (⟨sync.ciphers.filterMap (decryptedItem crypto orgKeys symKey),
          indexOrgs unicode sync.profile.organizations⟩,
        ⟨sync.ciphers.countP (lacksKey orgKeys symKey),
          sync.ciphers.countP (failsUnderKey crypto orgKeys symKey)⟩) := by
  have looped := decrypt_all_items crypto orgKeys symKey sync.ciphers [] ⟨0, 0⟩
  simp only [decryptVault, opened, looped, List.nil_append, Nat.zero_add, bind, Except.bind]
  rfl

/-- The cache of any answer. -/
theorem decrypt_vault_spec (sync : SyncResponse) (symKey : SymmetricKey) :
    ∃ orgKeys skips, decryptOrgKeys crypto sync.profile symKey = .ok orgKeys ∧
      decryptVault crypto unicode sync symKey =
        .ok (⟨sync.ciphers.filterMap (decryptedItem crypto orgKeys symKey),
          indexOrgs unicode sync.profile.organizations⟩, skips) := by
  obtain ⟨orgKeys, opened⟩ := decrypt_org_keys_ok crypto sync.profile symKey
  exact ⟨orgKeys, _, opened, decrypt_vault_counted crypto unicode sync symKey orgKeys opened⟩

end

/-! ## A sample answer -/

/-- A login whose name and password are the sample message. -/
def sampleCipher : SyncCipher where
  id := "c1"
  cipherType := 1
  organizationId := none
  name := sampleText
  notes := none
  login := some { username := none, password := some sampleText, uri := none, uris := [] }
  card := none
  fields := []

/-- A personal login with the given name and password. -/
def sampleItem (name password : String) : DecryptedItem where
  id := name
  cipherType := 1
  organizationId := none
  name := name
  username := ""
  password := password
  notes := ""
  uri := ""
  fields := ∅

/-- An answer for an account in one organization, with the given ciphers. -/
def sampleSync (ciphers : List SyncCipher) : SyncResponse where
  profile := ⟨"u1", "ops@example.org", "", "", [⟨"o1", "Team", ""⟩]⟩
  ciphers := ciphers

/-- The sample item is found by its name, and its password is the secret. -/
example : (decryptVault samplePrimitives asciiTables (sampleSync [sampleCipher]) sampleKey).toOption.bind
    (fun decrypted => (lookupItem asciiTables decrypted.1 "DB" none).toOption.map
      (extractSecret (fun _ => []))) = some "db" := by
  decide +kernel

end VaultwardenOperator.Sync
