import VaultwardenOperator.CipherFormat
import VaultwardenOperator.Extraction
import VaultwardenOperator.VaultContents

/-!
# A vault as its owner wrote it

Items and organizations in the clear, and the answers by which a server stores them: every
text is encrypted under the key of its item, with any initialization vector, with a MAC or
without; the organization keys under the RSA key; and the RSA key under the user key. An
empty text may be encrypted, left empty or left out.

Every such answer is decrypted to the items in the clear, in order, and none is skipped.
-/

namespace VaultwardenOperator.StoredVault

open Rust Crypto Sync UserKey Extraction LastWins

/-- A key with both halves. -/
structure FullKey extends SymmetricKey where
  encLength : encKey.length = 32
  macLength : macKey.length = 32

/-- An item in the clear. The organization is absent for personal items. -/
structure Item where
  id : String
  cipherType : UInt8
  organization : Option String
  name : String
  username : String
  password : String
  notes : String
  uri : String
  fields : List (String × String)

structure Organization where
  id : String
  name : String
  key : FullKey

structure Vault where
  organizations : List Organization
  items : List Item
  distinct : (organizations.map Organization.id).Nodup

/-- The item as the client keeps it: the last of the fields with one name counts. -/
def Item.opened (item : Item) : DecryptedItem where
  id := item.id
  cipherType := item.cipherType
  organizationId := item.organization
  name := item.name
  username := item.username
  password := item.password
  notes := item.notes
  uri := item.uri
  fields := insertAll ∅ (named item.fields)

/-- The texts of an item that its value is taken from. -/
def Item.plain (item : Item) : Plain := ⟨item.name, item.password, item.notes, item.fields⟩

theorem opened_holds (item : Item) : Holds item.opened item.plain := ⟨rfl, rfl, rfl⟩

/-- What the index of names sees of an organization. -/
def Organization.listed (organization : Organization) : SyncOrganization :=
  ⟨organization.id, organization.name, ""⟩

/-- The snapshot of a vault in the clear. -/
def Vault.cache (unicode : UnicodeTables) (vault : Vault) : VaultCache :=
  ⟨vault.items.map Item.opened, indexOrgs unicode (vault.organizations.map Organization.listed)⟩

/-- The key that an item is encrypted under. -/
def Vault.KeyOf (vault : Vault) (userKey : FullKey) (item : Item) (key : FullKey) : Prop :=
  match item.organization with
  | none => key = userKey
  | some orgId => ∃ organization ∈ vault.organizations,
      organization.id = orgId ∧ organization.key = key

section
variable {RsaPrivateKey : Type} {crypto : Primitives RsaPrivateKey}
  (encryption : Encryption crypto)

/-! ## Stored strings -/

/-- Data under a key, with some initialization vector. -/
inductive Encrypts (key : SymmetricKey) (data : List UInt8) : String → Prop where
  | authenticated (iv : List UInt8) (vector : iv.length = 16) :
      Encrypts key data (encryption.macString key iv data)
  | plain (iv : List UInt8) (vector : iv.length = 16) :
      Encrypts key data (encryption.plainString key.encKey iv data)

/-- Data under the public part of an RSA key: a ciphertext that the private key opens. -/
inductive RsaEncrypts (privateKey : RsaPrivateKey) (data : List UInt8) : String → Prop where
  | sha256 (ct : List UInt8) (opens : crypto.rsaOaepSha256 privateKey ct = .ok data) :
      RsaEncrypts privateKey data (String.ofList ('3' :: '.' :: encryption.encodeBase64 ct))
  | sha1 (ct : List UInt8) (opens : crypto.rsaOaepSha1 privateKey ct = .ok data) :
      RsaEncrypts privateKey data (String.ofList ('4' :: '.' :: encryption.encodeBase64 ct))

/-- A text under a key. The empty one may be left empty. -/
def StoresText (key : SymmetricKey) (text s : String) : Prop :=
  text = "" ∧ s = "" ∨ Encrypts encryption key text.toUTF8.data.toList s

/-- A text that may be left out when it is empty. -/
def StoresOptional (key : SymmetricKey) (text : String) : Option String → Prop
  | none => text = ""
  | some s => StoresText encryption key text s

/-- A text in a list of fields. -/
def StoresField (key : SymmetricKey) (entry : String × String) (field : SyncField) : Prop :=
  StoresOptional encryption key entry.1 field.name ∧
    StoresOptional encryption key entry.2 field.value

/-! ## Stored items -/

/-- The URI is in the field of its own, or there is none and it is the first of the list. -/
def StoresUri (key : SymmetricKey) (uri : String) (login : SyncLogin) : Prop :=
  uri ≠ "" ∧ StoresOptional encryption key uri login.uri ∨
    StoresOptional encryption key "" login.uri ∧
      StoresOptional encryption key uri (login.uris.head?.bind SyncUri.uri)

def StoresLogin (key : SymmetricKey) (item : Item) : Option SyncLogin → Prop
  | none => item.username = "" ∧ item.password = "" ∧ item.uri = ""
  | some login => StoresOptional encryption key item.username login.username ∧
      StoresOptional encryption key item.password login.password ∧
      StoresUri encryption key item.uri login

structure StoresItem (key : SymmetricKey) (item : Item) (cipher : SyncCipher) : Prop where
  id : cipher.id = item.id
  cipherType : cipher.cipherType = item.cipherType
  organization : cipher.organizationId.filter (· ≠ "") = item.organization
  name : StoresText encryption key item.name cipher.name
  notes : StoresOptional encryption key item.notes cipher.notes
  login : StoresLogin encryption key item cipher.login
  fields : List.Forall₂ (StoresField encryption key) item.fields cipher.fields

structure StoresOrganization (privateKey : RsaPrivateKey) (organization : Organization)
    (stored : SyncOrganization) : Prop where
  id : stored.id = organization.id
  name : stored.name = organization.name
  key : RsaEncrypts encryption privateKey (organization.key.encKey ++ organization.key.macKey)
    stored.key

/-- An answer that stores a vault under a user key. The RSA key matters only where there
are organizations. -/
structure Stores (userKey : FullKey) (vault : Vault) (sync : SyncResponse) : Prop where
  organizations : vault.organizations = [] ∧ sync.profile.organizations = [] ∨
    ∃ der privateKey, Encrypts encryption userKey.toSymmetricKey der sync.profile.privateKey ∧
      crypto.fromPkcs8Der der = .ok privateKey ∧
      List.Forall₂ (StoresOrganization encryption privateKey) vault.organizations
        sync.profile.organizations
  items : List.Forall₂ (fun item cipher => ∃ key, vault.KeyOf userKey item key ∧
    StoresItem encryption key.toSymmetricKey item cipher) vault.items sync.ciphers

/-! ## Opening strings -/

theorem full_key_mac (key : FullKey) : key.macKey ≠ [] := by
  intro vacant
  have length := key.macLength
  rw [vacant] at length
  cases length

/-- What is encrypted under a full key is read and decrypted to the data. -/
theorem encrypts_opened (key : FullKey) (data : List UInt8) (s : String)
    (encrypts : Encrypts encryption key.toSymmetricKey data s) :
    ∃ cipher, CipherString.parse crypto s = .ok cipher ∧
      cipher.decrypt crypto key.toSymmetricKey = .ok data := by
  cases encrypts with
  | authenticated iv vector =>
    refine ⟨_, parse_mac_string encryption key.toSymmetricKey iv data, ?_⟩
    rw [decrypt_ok_iff]
    exact ⟨vector, ciphertext_blocks encryption key.encKey iv data key.encLength vector,
      fun _ => ⟨full_key_mac key, rfl⟩, key.encLength,
      unpad_ciphertext encryption key.encKey iv data key.encLength vector⟩
  | plain iv vector =>
    refine ⟨_, parse_plain_string encryption key.encKey iv data, ?_⟩
    rw [decrypt_ok_iff]
    exact ⟨vector, ciphertext_blocks encryption key.encKey iv data key.encLength vector,
      fun typed => absurd typed (show encTypeAesCbc256B64 ≠ encTypeAesCbc256HmacSha256B64 by decide),
      key.encLength,
      unpad_ciphertext encryption key.encKey iv data key.encLength vector⟩

theorem stored_text_decrypts (key : FullKey) (text s : String)
    (stores : StoresText encryption key.toSymmetricKey text s) :
    decryptStr crypto s key.toSymmetricKey = .ok text := by
  rcases stores with ⟨rfl, rfl⟩ | encrypts
  · rfl
  · obtain ⟨cipher, parsed, decrypted⟩ := encrypts_opened encryption key _ s encrypts
    rw [decrypt_str_ok_iff crypto s key.toSymmetricKey text (parsed_nonempty s cipher parsed)]
    refine ⟨cipher, parsed, _, decrypted, ?_⟩
    have bytes : (⟨text.toUTF8.data.toList.toArray⟩ : ByteArray) = text.toByteArray := rfl
    rw [fromUtf8, bytes, String.fromUTF8?, dif_pos text.isValidUTF8]
    rfl

theorem stored_optional_text (key : FullKey) (text : String) (optional : Option String)
    (stores : StoresOptional encryption key.toSymmetricKey text optional) :
    textOf crypto key.toSymmetricKey optional = text := by
  cases optional with
  | none => exact stores.symm
  | some s =>
    apply text_of_text_is
    exact stored_text_decrypts encryption key text s stores

theorem stored_fields_texts (key : FullKey) (entries : List (String × String))
    (fields : List SyncField)
    (stores : List.Forall₂ (StoresField encryption key.toSymmetricKey) entries fields) :
    fields.map (fun field => (textOf crypto key.toSymmetricKey field.name,
      textOf crypto key.toSymmetricKey field.value)) = entries := by
  induction stores with
  | nil => rfl
  | cons field rest inductionHypothesis =>
    rw [List.map_cons, inductionHypothesis, stored_optional_text encryption key _ _ field.1,
      stored_optional_text encryption key _ _ field.2]

/-! ## Opening items -/

theorem stored_login_decrypts (key : FullKey) (item : Item) (login : SyncLogin)
    (stores : StoresLogin encryption key.toSymmetricKey item (some login)) :
    decryptLogin crypto key.toSymmetricKey login =
      .ok (item.username, item.password, item.uri) := by
  obtain ⟨username, password, uri⟩ := stores
  have usernameIs := stored_optional_text encryption key _ _ username
  have passwordIs := stored_optional_text encryption key _ _ password
  simp only [decryptLogin, decrypt_or_default_text, usernameIs, passwordIs, bind, Except.bind]
  rcases uri with ⟨nonempty, own⟩ | ⟨vacant, first⟩
  · rw [stored_optional_text encryption key _ _ own, if_neg nonempty]
    rfl
  · rw [stored_optional_text encryption key _ _ vacant, if_pos rfl,
      stored_optional_text encryption key _ _ first]
    rfl

/-- A stored item comes back as it was written. -/
theorem stored_item_decrypts (key : FullKey) (item : Item) (cipher : SyncCipher)
    (stores : StoresItem encryption key.toSymmetricKey item cipher) :
    decryptCipher crypto cipher key.toSymmetricKey = .ok item.opened := by
  have name := stored_text_decrypts encryption key _ _ stores.name
  have notes := stored_optional_text encryption key _ _ stores.notes
  have fields := stored_fields_texts encryption key _ _ stores.fields
  have login := stores.login
  unfold decryptCipher
  simp only [name, notes, decrypt_or_default_text, insert_fields, fields, stores.id,
    stores.cipherType, stores.organization]
  cases present : cipher.login with
  | none =>
    rw [present] at login
    obtain ⟨username, password, uri⟩ := login
    simp only [Item.opened, username, password, uri]
    rfl
  | some own =>
    rw [present] at login
    simp only [stored_login_decrypts encryption key item own login]
    rfl

/-! ## Opening keys -/

/-- A string of a type of one digit with one part. -/
theorem parse_rsa_string (digit : Char) (code : Nat) (encType : UInt8) (ct : List UInt8)
    (typed : parseUnsigned 256 [digit] = some code) (separate : digit ≠ '.')
    (coded : UInt8.ofNat code = encType) (rsa : CipherFormat.IsRsa encType) :
    CipherString.parse crypto (String.ofList (digit :: '.' :: encryption.encodeBase64 ct)) =
      .ok ⟨encType, [], ct, []⟩ := by
  have unbarred : (encryption.encodeBase64 ct).filter (· ≠ '|') = encryption.encodeBase64 ct := by
    rw [List.filter_eq_self]
    intro char member
    rw [decide_eq_true_iff]
    rintro rfl
    exact encryption.no_separator ct member
  obtain ⟨notPlain, notMac⟩ := CipherFormat.rsa_not_aes encType rsa
  have either : encType = encTypeRsa2048OaepSha256B64 ∨ encType = encTypeRsa2048OaepSha1B64 := rsa
  rw [parse_typed crypto digit code _ typed separate, coded, CipherString.parseParts,
    if_neg notPlain, if_neg notMac, if_pos either, unbarred, decode_part]
  rfl

theorem stored_org_key_decrypts (privateKey : RsaPrivateKey) (key : FullKey) (s : String)
    (encrypts : RsaEncrypts encryption privateKey (key.encKey ++ key.macKey) s) :
    decryptOrgKey crypto s privateKey = .ok key.toSymmetricKey := by
  have halves : keyHalves .orgKeyLength (key.encKey ++ key.macKey) = .ok key.toSymmetricKey := by
    have encLength := key.encLength
    have macLength := key.macLength
    rw [key_halves_ok_iff, List.length_append, encLength, macLength]
    refine ⟨rfl, ?_⟩
    rw [List.take_left' encLength, List.drop_left' encLength]
  have opened : ∀ cipher, CipherString.parse crypto s = .ok cipher →
      cipher.decryptRsa crypto privateKey = .ok (key.encKey ++ key.macKey) →
      decryptOrgKey crypto s privateKey = .ok key.toSymmetricKey := by
    intro cipher parsed decrypted
    rw [decryptOrgKey, if_neg (parsed_nonempty s cipher parsed), parsed, bind_ok_iff]
    refine ⟨cipher, rfl, ?_⟩
    rw [decrypted, bind_ok_iff]
    exact ⟨_, rfl, halves⟩
  cases encrypts with
  | sha256 ct opens =>
    refine opened _ (parse_rsa_string encryption '3' 3 encTypeRsa2048OaepSha256B64 ct (by decide)
      (by decide) rfl (.inl rfl)) ?_
    rw [CipherString.decryptRsa, if_pos rfl, opens]
    rfl
  | sha1 ct opens =>
    have other : encTypeRsa2048OaepSha1B64 ≠ encTypeRsa2048OaepSha256B64 := by decide
    refine opened _ (parse_rsa_string encryption '4' 4 encTypeRsa2048OaepSha1B64 ct (by decide)
      (by decide) rfl (.inr rfl)) ?_
    rw [CipherString.decryptRsa, if_neg other, if_pos rfl, opens]
    rfl

theorem stored_private_key_decrypts (userKey : FullKey) (der : List UInt8) (s : String)
    (privateKey : RsaPrivateKey) (encrypts : Encrypts encryption userKey.toSymmetricKey der s)
    (holds : crypto.fromPkcs8Der der = .ok privateKey) :
    decryptPrivateKey crypto s userKey.toSymmetricKey = .ok privateKey := by
  obtain ⟨cipher, parsed, decrypted⟩ := encrypts_opened encryption userKey der s encrypts
  rw [decryptPrivateKey, if_neg (parsed_nonempty s cipher parsed), parsed, bind_ok_iff]
  refine ⟨cipher, rfl, ?_⟩
  rw [decrypted, bind_ok_iff]
  exact ⟨der, rfl, by rw [holds]; rfl⟩

theorem stored_ids (privateKey : RsaPrivateKey) (organizations : List Organization)
    (stored : List SyncOrganization)
    (stores : List.Forall₂ (StoresOrganization encryption privateKey) organizations stored) :
    stored.map SyncOrganization.id = organizations.map Organization.id := by
  induction stores with
  | nil => rfl
  | cons one _ inductionHypothesis =>
    rw [List.map_cons, List.map_cons, one.id, inductionHypothesis]

/-- Of organizations with distinct ids, one is stored under each. -/
theorem stored_organization_single (privateKey : RsaPrivateKey)
    (organizations : List Organization) (stored : List SyncOrganization)
    (stores : List.Forall₂ (StoresOrganization encryption privateKey) organizations stored)
    (distinct : (organizations.map Organization.id).Nodup) (organization : Organization)
    (member : organization ∈ organizations) :
    ∃ own, stored.filter (fun org => org.id = organization.id) = [own] ∧
      StoresOrganization encryption privateKey organization own := by
  induction stores with
  | nil => cases member
  | @cons first own rest others one all inductionHypothesis =>
    rw [List.map_cons, List.nodup_cons] at distinct
    obtain ⟨apart, distinct⟩ := distinct
    rcases List.mem_cons.mp member with rfl | later
    · refine ⟨own, ?_, one⟩
      have none : others.filter (fun org => org.id = organization.id) = [] := by
        rw [List.filter_eq_nil_iff]
        intro org listed same
        apply apart
        rw [← stored_ids encryption privateKey rest others all, ← of_decide_eq_true same]
        exact List.mem_map_of_mem listed
      rw [List.filter_cons, if_pos (by simpa using one.id), none]
    · obtain ⟨found, single, fits⟩ := inductionHypothesis distinct later
      have different : own.id ≠ organization.id := by
        intro same
        apply apart
        rw [← one.id, same]
        exact List.mem_map_of_mem later
      exact ⟨found, by rw [List.filter_cons, if_neg (by simpa using different), single], fits⟩

/-! ## Opening the vault -/

/-- The key that a stored cipher is decrypted under is the one its item was encrypted
under. -/
theorem stored_key (userKey key : FullKey) (vault : Vault) (sync : SyncResponse)
    (stores : Stores encryption userKey vault sync) (item : Item) (cipher : SyncCipher)
    (keyed : vault.KeyOf userKey item key)
    (organization : cipher.organizationId.filter (· ≠ "") = item.organization) :
    VaultContents.keyOf crypto sync.profile userKey.toSymmetricKey cipher =
      some key.toSymmetricKey := by
  unfold VaultContents.keyOf
  cases owner : item.organization with
  | none =>
    have own : key = userKey := by
      unfold Vault.KeyOf at keyed
      rwa [owner] at keyed
    rw [owner] at organization
    cases given : cipher.organizationId with
    | none => rw [own]
    | some orgId =>
      rw [given] at organization
      have vacant : orgId = "" := by simpa using organization
      simp only [vacant, if_true, own]
  | some orgId =>
    unfold Vault.KeyOf at keyed
    rw [owner] at keyed organization
    obtain ⟨listed, member, rfl, rfl⟩ := keyed
    obtain ⟨given, nonempty⟩ : cipher.organizationId = some listed.id ∧ listed.id ≠ "" := by
      simpa [Option.filter_eq_some_iff] using organization
    rw [given]
    simp only [nonempty, if_false]
    rcases stores.organizations with ⟨vacant, -⟩ | ⟨der, privateKey, encrypts, holds, stored⟩
    · rw [vacant] at member
      cases member
    · obtain ⟨own, single, fits⟩ := stored_organization_single encryption privateKey _ _ stored
        vault.distinct listed member
      rw [VaultContents.orgKey,
        stored_private_key_decrypts encryption userKey der _ privateKey encrypts holds, single]
      simp [stored_org_key_decrypts encryption privateKey listed.key own.key fits.key]

/-- The index of names sees ids and names alone. -/
theorem index_listed (unicode : UnicodeTables) (left right : List SyncOrganization)
    (same : left.map (fun org => (org.id, org.name)) = right.map (fun org => (org.id, org.name))) :
    indexOrgs unicode left = indexOrgs unicode right := by
  have folded (orgs : List SyncOrganization) : indexOrgs unicode orgs =
      (orgs.map (fun org => (org.id, org.name))).foldl (fun byName org =>
        byName.insert (unicode.toLowercase org.2)
          ((byName.lookup (unicode.toLowercase org.2)).getD [] ++ [org.1])) ∅ := by
    rw [List.foldl_map]
    rfl
  rw [folded, folded, same]

theorem stored_names (privateKey : RsaPrivateKey) (organizations : List Organization)
    (stored : List SyncOrganization)
    (stores : List.Forall₂ (StoresOrganization encryption privateKey) organizations stored) :
    stored.map (fun org => (org.id, org.name)) =
      (organizations.map Organization.listed).map (fun org => (org.id, org.name)) := by
  induction stores with
  | nil => rfl
  | cons one _ inductionHypothesis =>
    simp only [List.map_cons, inductionHypothesis, one.id, one.name, Organization.listed]

/-- Whatever vault an answer stores, its decryption is the snapshot of that vault in the
clear, and no cipher is skipped. -/
theorem stored_vault_decrypts (unicode : UnicodeTables) (userKey : FullKey) (vault : Vault)
    (sync : SyncResponse) (stores : Stores encryption userKey vault sync) :
    decryptVault crypto unicode sync userKey.toSymmetricKey =
      .ok (vault.cache unicode, ⟨0, 0⟩) := by
  obtain ⟨cache, skips, decrypted, contents⟩ :=
    VaultContents.decrypt_vault_contents crypto unicode sync userKey.toSymmetricKey
  have opened : ∀ (items : List Item) (ciphers : List SyncCipher),
      List.Forall₂ (fun item cipher => ∃ key, vault.KeyOf userKey item key ∧
        StoresItem encryption key.toSymmetricKey item cipher) items ciphers →
      ciphers.filterMap (fun cipher =>
        (VaultContents.keyOf crypto sync.profile userKey.toSymmetricKey cipher).bind (fun key =>
          (decryptCipher crypto cipher key).toOption)) = items.map Item.opened := by
    intro items ciphers all
    induction all with
    | nil => rfl
    | @cons item cipher rest others one _ inductionHypothesis =>
      obtain ⟨key, keyed, stored⟩ := one
      have found := stored_key encryption userKey key vault sync stores item cipher keyed
        stored.organization
      have item := stored_item_decrypts encryption key item cipher stored
      rw [List.filterMap_cons, found, Option.bind_some, item]
      simp only [to_option_ok, List.map_cons, inductionHypothesis]
  have items := contents.items.trans (opened vault.items sync.ciphers stores.items)
  have total := contents.total
  rw [items, List.length_map, stores.items.length_eq] at total
  have none : skips = ⟨0, 0⟩ := by
    obtain ⟨noOrgKey, decryptFailed⟩ := skips
    simp only [DecryptSkips.total] at total
    obtain ⟨rfl, rfl⟩ : noOrgKey = 0 ∧ decryptFailed = 0 := by omega
    rfl
  have index : cache.orgsByName =
      indexOrgs unicode (vault.organizations.map Organization.listed) := by
    obtain ⟨orgKeys, otherSkips, -, spec⟩ :=
      decrypt_vault_spec crypto unicode sync userKey.toSymmetricKey
    rw [decrypted] at spec
    cases spec
    rcases stores.organizations with ⟨vacant, absent⟩ | ⟨der, privateKey, -, -, stored⟩
    · simp only [vacant, absent, List.map_nil]
    · exact index_listed unicode _ _ (stored_names encryption privateKey _ _ stored)
  obtain ⟨cacheItems, orgsByName⟩ := cache
  dsimp only at items index
  rw [decrypted, none, items, index]
  rfl

end

end VaultwardenOperator.StoredVault
