import VaultwardenOperator.SyncJson
import VaultwardenOperator.VaultClient

/-!
# One malformed cipher

`decrypt_vault` skips a cipher that does not decrypt, but the answer is decoded
before that, and a list is decoded with all of its elements or not at all. So a
cipher leaves the rest of the vault alone exactly when it has the shape that its
decoder accepts: a string for the id and the name, a byte for the type, and below
the optional parts no `null` where a list is expected.

A document is given by what is around its array of ciphers.
-/

namespace VaultwardenOperator.CipherIsolation

open Rust Crypto Json Serde Sync Auth VaultClient SyncJson

/-- An `/api/sync` document without its ciphers, as an object or as an array. -/
inductive Envelope where
  | named (before after : Members)
  | positional (profile : Value) (others : List Value)

def Envelope.document (ciphers : List Value) : Envelope → Value
  | .named before after => .obj (before ++ ("ciphers", .arr ciphers) :: after)
  | .positional profile others => .arr (profile :: .arr ciphers :: others)

/-- An answer with status 200 and this body. -/
def answerOf (document : Value) : Answer SyncResponse :=
  match decodeResponse document with
  | some response => .body response
  | none => .http "error decoding response body"

/-! ## The two layers -/

/-- The profile of a document, where its fields are well placed. -/
def Envelope.profile : Envelope → Option SyncProfile
  | .named before after =>
    if ∀ name ∈ responseNames,
        (before.map Prod.fst ++ "ciphers" :: after.map Prod.fst).count name ≤ 1 then
      ((before ++ after).lookup "profile").bind decodeProfile
    else none
  | .positional profile others => if others = [] then decodeProfile profile else none

/-- A lookup passes over a member of another name. -/
theorem lookup_around (key : String) (entry : String × Value) (before after : Members)
    (other : key ≠ entry.1) :
    (before ++ entry :: after).lookup key = (before ++ after).lookup key := by
  rw [List.lookup_append, List.lookup_append, lookup_cons_other key entry after other]

/-- A member whose name occurs once is found. -/
theorem lookup_once (entry : String × Value) (before after : Members)
    (once : (before.map Prod.fst ++ entry.1 :: after.map Prod.fst).count entry.1 ≤ 1) :
    (before ++ entry :: after).lookup entry.1 = some entry.2 := by
  have absent : before.lookup entry.1 = none := by
    rw [List.lookup_eq_none_iff]
    intro other member
    have counted : (before.map Prod.fst).count entry.1 = 0 := by
      rw [List.count_append, List.count_cons_self] at once
      omega
    have apart : entry.1 ≠ other.1 := fun same =>
      List.count_eq_zero.mp counted (same ▸ List.mem_map_of_mem member)
    simpa using apart
  rw [List.lookup_append, absent, Option.none_or, List.lookup_cons_self]

/-- A document is decoded if and only if its profile is and each of its ciphers is. -/
theorem decode_document_iff (envelope : Envelope) (ciphers : List Value)
    (response : SyncResponse) :
    decodeResponse (envelope.document ciphers) = some response ↔
      envelope.profile = some response.profile ∧
        ciphers.mapM decodeCipher = some response.ciphers := by
  have built : ∀ (profile : Option SyncProfile) (decoded : Option (List SyncCipher)),
      (profile.bind fun profile => decoded.bind fun ciphers =>
        some (SyncResponse.mk profile ciphers)) = some response ↔
      profile = some response.profile ∧ decoded = some response.ciphers := by
    intro profile decoded
    cases profile <;> cases decoded <;> cases response <;> simp
  cases envelope with
  | named before after =>
    simp only [decodeResponse, Envelope.document, Envelope.profile, slots, List.map_append,
      List.map_cons]
    split_ifs with once
    · have found := lookup_once ("ciphers", .arr ciphers) before after
        (once "ciphers" (by decide))
      have other : "profile" ≠ "ciphers" := by decide
      have around := lookup_around "profile" ("ciphers", .arr ciphers) before after other
      simp only [Option.bind_eq_bind, Option.bind_some, Option.pure_def, found, around,
        Slot.ofMember, required, decodeList]
      rw [← built]
      cases (before ++ after).lookup "profile" <;> simp
    · simp
  | positional profile others =>
    have only : others.length ≤ 0 ↔ others = [] := by simp
    simp only [decodeResponse, Envelope.document, Envelope.profile, slots, List.length_cons,
      responseNames, List.length_nil]
    by_cases alone : others = []
    · subst alone
      rw [← built]
      simp [Slot.ofElement, required, decodeList]
    · have long : ¬ others.length + 1 + 1 ≤ 0 + 1 + 1 := by
        have := List.length_pos_iff.mpr alone
        omega
      simp [alone, long]

section
variable {RsaPrivateKey : Type} (crypto : Primitives RsaPrivateKey) (unicode : UnicodeTables)

/-- The cache that a sync with this document leads to, if it leads to one. -/
def cacheOf (document : Value) (symKey : SymmetricKey) : Option VaultCache :=
  match fetchSync (answerOf document) with
  | .ok response => (decryptVault crypto unicode response symKey).toOption.map Prod.fst
  | .error _ => none

/-- A cache is what the decoded ciphers decrypt to, each by itself. -/
theorem cache_of_iff (envelope : Envelope) (ciphers : List Value) (symKey : SymmetricKey)
    (cache : VaultCache) :
    cacheOf crypto unicode (envelope.document ciphers) symKey = some cache ↔
      ∃ profile decoded orgKeys, envelope.profile = some profile ∧
        ciphers.mapM decodeCipher = some decoded ∧
        decryptOrgKeys crypto profile symKey = .ok orgKeys ∧
        cache = ⟨decoded.filterMap (decryptedItem crypto orgKeys symKey),
          indexOrgs unicode profile.organizations⟩ := by
  unfold cacheOf answerOf
  cases found : decodeResponse (envelope.document ciphers) with
  | none =>
    simp only [fetchSync, reduceCtorEq, false_iff]
    rintro ⟨profile, decoded, -, profileIs, decodedIs, -⟩
    have present := (decode_document_iff envelope ciphers ⟨profile, decoded⟩).mpr
      ⟨profileIs, decodedIs⟩
    rw [found] at present
    cases present
  | some response =>
    obtain ⟨profileIs, decodedIs⟩ := (decode_document_iff envelope ciphers response).mp found
    obtain ⟨orgKeys, skips, opened, decrypted⟩ := decrypt_vault_spec crypto unicode response symKey
    simp only [fetchSync, decrypted, to_option_ok, Option.map_some, Option.some.injEq]
    constructor
    · rintro rfl
      exact ⟨response.profile, response.ciphers, orgKeys, profileIs, decodedIs, opened, rfl⟩
    · rintro ⟨profile, decoded, keys, sameProfile, sameCiphers, sameKeys, rfl⟩
      rw [profileIs] at sameProfile
      rw [decodedIs] at sameCiphers
      cases sameProfile
      cases sameCiphers
      rw [opened] at sameKeys
      cases sameKeys
      rfl

/-! ## The identity of an item -/

/-- An item has the id of this cipher. -/
def ItemOf (cipher : Value) (item : DecryptedItem) : Prop :=
  ∃ slot, slots (cipherFields.map Field.name) cipher = some slot ∧
    slot "id" = .given (.str item.id)

/-- A required string is what its slot is given. -/
theorem required_str (slot : Slot) (text : String)
    (decoded : required decodeStr slot = some text) : slot = .given (.str text) := by
  cases slot with
  | absent => cases decoded
  | ended => cases decoded
  | given value =>
    cases value with
    | str content =>
      cases decoded
      rfl
    | null => cases decoded
    | bool => cases decoded
    | int => cases decoded
    | decimal => cases decoded
    | arr => cases decoded
    | obj => cases decoded

theorem decrypted_item_of (orgKeys : StringMap SymmetricKey) (symKey : SymmetricKey)
    (value : Value) (cipher : SyncCipher) (item : DecryptedItem)
    (decoded : decodeCipher value = some cipher)
    (decrypted : decryptedItem crypto orgKeys symKey cipher = some item) : ItemOf value item := by
  obtain ⟨slot, found, rest⟩ := Option.bind_eq_some_iff.mp decoded
  obtain ⟨id, idIs, rest⟩ := Option.bind_eq_some_iff.mp rest
  have kept : cipher.id = id := by
    simp only [Option.bind_eq_bind, Option.bind_eq_some_iff, Option.pure_def] at rest
    obtain ⟨_, _, _, _, _, _, _, _, _, _, _, _, _, _, built⟩ := rest
    cases built
    rfl
  obtain ⟨key, -, opened⟩ := decrypted_item_inv crypto orgKeys symKey cipher item decrypted
  cases named : decryptStr crypto cipher.name key with
  | error halt =>
    rw [decrypt_cipher_unnamed crypto cipher key halt named] at opened
    cases opened
  | ok name =>
    obtain ⟨other, same, identity, -⟩ := decrypt_cipher_named crypto cipher key name named
    rw [opened] at same
    cases same
    refine ⟨slot, found, ?_⟩
    rw [identity, kept]
    exact required_str _ _ idIs

/-! ## Isolation -/

/-- With the cipher the document leads to a cache as well: the former items in their
order, with an item of the cipher among them or none. -/
def Isolated (envelope : Envelope) (before after : List Value) (cipher : Value)
    (symKey : SymmetricKey) (former : VaultCache) : Prop :=
  ∃ (front back : List DecryptedItem) (added : Option DecryptedItem),
    former.items = front ++ back ∧ (∀ item ∈ added, ItemOf cipher item) ∧
    cacheOf crypto unicode (envelope.document (before ++ cipher :: after)) symKey =
      some ⟨front ++ added.toList ++ back, former.orgsByName⟩

/-- A list is decoded in parts. -/
theorem map_ciphers_iff (before after : List Value) (decoded : List SyncCipher) :
    (before ++ after).mapM decodeCipher = some decoded ↔
      ∃ front back, before.mapM decodeCipher = some front ∧ after.mapM decodeCipher = some back ∧
        decoded = front ++ back := by
  rw [List.mapM_append]
  cases before.mapM decodeCipher <;> cases after.mapM decodeCipher <;> simp [eq_comm]

theorem map_cipher_iff (before after : List Value) (cipher : Value)
    (decoded : List SyncCipher) :
    (before ++ cipher :: after).mapM decodeCipher = some decoded ↔
      ∃ front one back, before.mapM decodeCipher = some front ∧ decodeCipher cipher = some one ∧
        after.mapM decodeCipher = some back ∧ decoded = front ++ one :: back := by
  rw [List.mapM_append, List.mapM_cons]
  cases before.mapM decodeCipher <;> cases decodeCipher cipher <;>
    cases after.mapM decodeCipher <;> simp [eq_comm]

/-- Where the document without the cipher leads to a cache, the cipher is isolated if and
only if it has the shape of a cipher. -/
theorem isolated_iff (envelope : Envelope) (before after : List Value) (cipher : Value)
    (symKey : SymmetricKey) (former : VaultCache)
    (decrypts : cacheOf crypto unicode (envelope.document (before ++ after)) symKey =
      some former) :
    Isolated crypto unicode envelope before after cipher symKey former ↔
      Record cipherFields cipher := by
  rw [← cipher_accepts cipher]
  constructor
  · rintro ⟨front, back, added, -, -, cached⟩
    obtain ⟨profile, decoded, orgKeys, -, decodedIs, -⟩ :=
      (cache_of_iff crypto unicode envelope _ symKey _).mp cached
    obtain ⟨_, one, _, _, accepted, -⟩ := (map_cipher_iff before after cipher decoded).mp decodedIs
    exact ⟨one, accepted⟩
  · rintro ⟨one, accepted⟩
    obtain ⟨profile, decoded, orgKeys, profileIs, decodedIs, opened, rfl⟩ :=
      (cache_of_iff crypto unicode envelope _ symKey former).mp decrypts
    obtain ⟨front, back, frontIs, backIs, rfl⟩ :=
      (map_ciphers_iff before after decoded).mp decodedIs
    refine ⟨front.filterMap (decryptedItem crypto orgKeys symKey),
      back.filterMap (decryptedItem crypto orgKeys symKey),
      decryptedItem crypto orgKeys symKey one, List.filterMap_append, ?_, ?_⟩
    · intro item produced
      exact decrypted_item_of crypto orgKeys symKey cipher one item accepted produced
    · rw [cache_of_iff]
      refine ⟨profile, front ++ one :: back, orgKeys, profileIs, ?_, opened, ?_⟩
      · exact (map_cipher_iff before after cipher _).mpr
          ⟨front, one, back, frontIs, accepted, backIs, rfl⟩
      · cases produced : decryptedItem crypto orgKeys symKey one <;>
          simp [List.filterMap_append, produced]

end

/-! ## A vault with one cipher more -/

/-- A login with the given custom fields, whose name and password are the sample message. -/
def sampleCipherJson (id : String) (fields : Value) : Value :=
  .obj [("id", .str id), ("type", .int 1), ("name", .str sampleText), ("notes", .null),
    ("login", .obj [("password", .str sampleText)]), ("fields", fields)]

def sampleEnvelope : Envelope :=
  .named [("profile", .obj [("id", .str "u1"), ("email", .str "ops@example.org"),
    ("key", .str ""), ("privateKey", .str "")])] []

/-- The cache of one login. -/
def sampleCache : VaultCache := ⟨[{ sampleItem "db" "db" with id := "c1" }], ∅⟩

theorem sample_cache :
    cacheOf samplePrimitives asciiTables
      (sampleEnvelope.document ([sampleCipherJson "c1" (.arr [])] ++ [])) sampleKey =
        some sampleCache := by
  decide +kernel

theorem isolated_iff_sample :
    Isolated samplePrimitives asciiTables sampleEnvelope [sampleCipherJson "c1" (.arr [])] []
        (sampleCipherJson "c2" (.arr [])) sampleKey sampleCache ↔
      Record cipherFields (sampleCipherJson "c2" (.arr [])) :=
  isolated_iff samplePrimitives asciiTables sampleEnvelope [sampleCipherJson "c1" (.arr [])] []
    (sampleCipherJson "c2" (.arr [])) sampleKey sampleCache sample_cache

/-- A cipher whose custom fields are `null` takes the other one with it. -/
theorem null_fields_not_isolated :
    cacheOf samplePrimitives asciiTables
        (sampleEnvelope.document ([sampleCipherJson "c1" (.arr [])] ++ [])) sampleKey =
          some sampleCache ∧
      ¬ Isolated samplePrimitives asciiTables sampleEnvelope [sampleCipherJson "c1" (.arr [])] []
        (sampleCipherJson "c2" .null) sampleKey sampleCache := by
  refine ⟨sample_cache, ?_⟩
  rintro ⟨front, back, added, -, -, cached⟩
  have refused : cacheOf samplePrimitives asciiTables (sampleEnvelope.document
      ([sampleCipherJson "c1" (.arr [])] ++ sampleCipherJson "c2" .null :: [])) sampleKey =
        none := by
    decide +kernel
  rw [refused] at cached
  cases cached

end VaultwardenOperator.CipherIsolation
