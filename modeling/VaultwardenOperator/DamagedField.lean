import VaultwardenOperator.ClientSteps
import VaultwardenOperator.Extraction

/-!
# A field that fails to decrypt

Every string of a cipher but its name is read as empty when it fails to decrypt, and
extraction takes an empty string for an absent one. The candidates of an item are
listed here in the order of extraction, each with its place in the priority. The
field that is used is the first candidate with a value; a damaged string at its place
or above has been passed over.
-/

namespace VaultwardenOperator.DamagedField

open Rust Crypto Sync VaultClient ClientSteps Extraction

/-- The places of the extraction priority: the fields of a listed name have one each. -/
inductive Place where
  | password
  | field (name : String)
  | notes
  | other
deriving DecidableEq

def Place.rank : Place → Nat
  | .password => 0
  | .field name => listed.idxOf name + 1
  | .notes => listed.length + 1
  | .other => listed.length + 2

/-- The place of a custom field, by its name. -/
def placeOf (name : String) : Place :=
  if name ∈ listed then .field name else .other

/-- What an item offers, in the order of extraction. -/
def candidates (values : ValueOrder) (item : DecryptedItem) : List (Place × String) :=
  (.password, item.password) ::
    (listed.map (fun name => (.field name, (item.fields.lookup name).getD "")) ++
      (.notes, item.notes) :: (values item.fields).map (fun value => (.other, value)))

/-- The field that is used. -/
def used (values : ValueOrder) (item : DecryptedItem) : Option (Place × String) :=
  (candidates values item).find? (fun candidate => candidate.2 ≠ "")

theorem find_listed (fields : StringMap String) (names : List String) :
    ((names.map (fun name => (Place.field name, (fields.lookup name).getD ""))).find?
        (fun candidate => candidate.2 ≠ "")).map Prod.snd =
      names.findSome? (fun name => (fields.lookup name).filter (· ≠ "")) := by
  induction names with
  | nil => rfl
  | cons name rest inductionHypothesis =>
    rw [List.map_cons, List.findSome?_cons, ← inductionHypothesis]
    cases present : fields.lookup name with
    | none => rw [List.find?_cons_of_neg (by simp), Option.filter_none]
    | some value =>
      by_cases vacant : value = ""
      · rw [List.find?_cons_of_neg (by simp [vacant]), Option.filter_some, if_neg (by simp [vacant])]
      · rw [List.find?_cons_of_pos (by simp [vacant]), Option.filter_some, if_pos (by simp [vacant])]
        rfl

theorem find_other (values : List String) :
    ((values.map (fun value => (Place.other, value))).find?
      (fun candidate => candidate.2 ≠ "")).map Prod.snd = values.find? (· ≠ "") := by
  rw [List.find?_map, Option.map_map]
  exact Option.map_id'

/-- The extracted value is that of the field used, and empty when there is none. -/
theorem extract_secret_used (values : ValueOrder) (item : DecryptedItem) :
    extractSecret values item = ((used values item).map Prod.snd).getD "" := by
  unfold extractSecret used candidates
  by_cases password : item.password = ""
  · rw [if_neg (by simp [password]), List.find?_cons_of_neg (by simp [password]),
      List.find?_append, Option.map_or, find_listed]
    cases found : listed.findSome? (fun name => (item.fields.lookup name).filter (· ≠ "")) with
    | some value =>
      unfold listed at found
      rw [found]
      rfl
    | none =>
      unfold listed at found
      rw [found]
      by_cases notes : item.notes = ""
      · rw [List.find?_cons_of_neg (by simp [notes]), Option.none_or, find_other]
        exact if_neg (by simp [notes])
      · rw [List.find?_cons_of_pos (by simp [notes])]
        exact if_pos notes
  · rw [if_pos password, List.find?_cons_of_pos (by simp [password])]
    rfl

section
variable {RsaPrivateKey : Type} (crypto : Primitives RsaPrivateKey)

/-- The encrypted strings that extraction depends on, with their places. A custom field
whose name fails to decrypt has none of the listed names. -/
def strings (key : SymmetricKey) (cipher : SyncCipher) : List (Place × String) :=
  (cipher.login.bind SyncLogin.password).toList.map (fun s => (.password, s)) ++
    cipher.notes.toList.map (fun s => (.notes, s)) ++
    cipher.fields.flatMap (fun field => (field.name.toList ++ field.value.toList).map
      (fun s => (placeOf (textOf crypto key field.name), s)))

/-- A string that is there and does not decrypt, whatever the cause. -/
def Fails (key : SymmetricKey) (s : String) : Prop :=
  s ≠ "" ∧ ∃ error, decryptStr crypto s key = .error (.err error)

/-- A string at the place of the field used or above fails to decrypt. -/
def Damaged (values : ValueOrder) (cipher : SyncCipher) (key : SymmetricKey) : Prop :=
  ∃ damaged ∈ strings crypto key cipher, Fails crypto key damaged.2 ∧
    ∀ item, decryptCipher crypto cipher key = .ok item →
      ∀ candidate, used values item = some candidate → damaged.1.rank ≤ candidate.1.rank

end

section
variable {RsaPrivateKey : Type} (client : Client RsaPrivateKey)

/-- The damage is caught: the cipher gives no item, or fetching that item fails. -/
def Caught (cipher : SyncCipher) (key : SymmetricKey) : Prop :=
  ∀ item, decryptCipher client.crypto cipher key = .ok item →
    ∀ cache request, lookupItem client.unicode cache request.name request.vault = .ok item →
      ∃ halt, tryFetchSecrets client (some cache) [request] = .error halt

/-- The item of a cipher is in the cache of every sync of it, and a fetch that finds it
answers with its extracted value unless another lookup fails. -/
structure Delivered (cipher : SyncCipher) (key : SymmetricKey) (item : DecryptedItem) : Prop where
  decrypted : decryptCipher client.crypto cipher key = .ok item
  cached : ∀ sync symKey orgKeys cache skips, cipher ∈ sync.ciphers →
    decryptOrgKeys client.crypto sync.profile symKey = .ok orgKeys →
    cipherKey orgKeys symKey cipher = some key →
    decryptVault client.crypto client.unicode sync symKey = .ok (cache, skips) →
    item ∈ cache.items
  answered : ∀ cache requests,
    (∀ request ∈ requests, ∃ found,
      lookupItem client.unicode cache request.name request.vault = .ok found) →
    ∃ answers, tryFetchSecrets client (some cache) requests = .ok answers ∧
      ∀ (position : Nat) (request : SecretRequest), requests[position]? = some request →
        lookupItem client.unicode cache request.name request.vault = .ok item →
        answers[position]? = some (extractSecret client.values item)

/-- The extracted value is empty, or that of a field at the place of a damaged string or
below. -/
def Substituted (cipher : SyncCipher) (key : SymmetricKey) (item : DecryptedItem) : Prop :=
  ∃ damaged ∈ strings client.crypto key cipher, Fails client.crypto key damaged.2 ∧
    (extractSecret client.values item = "" ∨
      ∃ candidate ∈ candidates client.values item,
        candidate.2 = extractSecret client.values item ∧ damaged.1.rank ≤ candidate.1.rank)

/-- A cipher whose name decrypts gives an item that every sync keeps and every fetch
delivers. -/
theorem named_delivered (cipher : SyncCipher) (key : SymmetricKey) (name : String)
    (decrypts : decryptStr client.crypto cipher.name key = .ok name) :
    ∃ item, Delivered client cipher key item := by
  obtain ⟨item, decrypted, -⟩ := decrypt_cipher_holds client.crypto cipher key name decrypts
  refine ⟨item, decrypted, ?_, ?_⟩
  · intro sync symKey orgKeys cache skips member opened chosen synced
    obtain ⟨otherKeys, otherSkips, sameKeys, spec⟩ :=
      decrypt_vault_spec client.crypto client.unicode sync symKey
    rw [opened] at sameKeys
    cases sameKeys
    rw [synced] at spec
    cases spec
    refine List.mem_filterMap.mpr ⟨cipher, member, ?_⟩
    simp [decryptedItem, chosen, decrypted, Except.toOption]
  · intro cache requests found
    obtain ⟨answers, answered⟩ := found_answered client cache requests found
    refine ⟨answers, answered, fun position request placed finds => ?_⟩
    obtain ⟨found, looked, answer⟩ :=
      (values_indexed client cache requests answers answered).2 position request placed
    rw [finds] at looked
    cases looked
    exact answer

/-- A cipher that is alone in its sync and decrypts is not counted as skipped. -/
theorem decrypt_vault_alone (crypto : Primitives RsaPrivateKey) (unicode : UnicodeTables)
    (sync : SyncResponse) (symKey : SymmetricKey) (orgKeys : StringMap SymmetricKey)
    (cipher : SyncCipher) (key : SymmetricKey) (item : DecryptedItem)
    (alone : sync.ciphers = [cipher])
    (opened : decryptOrgKeys crypto sync.profile symKey = .ok orgKeys)
    (chosen : cipherKey orgKeys symKey cipher = some key)
    (decrypted : decryptCipher crypto cipher key = .ok item) :
    decryptVault crypto unicode sync symKey =
      .ok (⟨[item], indexOrgs unicode sync.profile.organizations⟩, ⟨0, 0⟩) := by
  have next : decryptNext crypto orgKeys symKey ([], ⟨0, 0⟩) cipher = .ok ([item], ⟨0, 0⟩) := by
    simp only [decryptNext, chosen, decrypted, List.nil_append]
  simp only [decryptVault, opened, alone, List.foldlM_cons, List.foldlM_nil, next, bind,
    Except.bind, pure, Except.pure]

/-- The used field has a candidate's place and value. -/
theorem damage_substituted (cipher : SyncCipher) (key : SymmetricKey) (item : DecryptedItem)
    (decrypted : decryptCipher client.crypto cipher key = .ok item)
    (damaged : Damaged client.crypto client.values cipher key) :
    Substituted client cipher key item := by
  obtain ⟨entry, member, fails, above⟩ := damaged
  refine ⟨entry, member, fails, ?_⟩
  rw [extract_secret_used]
  cases found : used client.values item with
  | none => exact .inl rfl
  | some candidate =>
    exact .inr ⟨candidate, List.mem_of_find?_eq_some found, rfl, above item decrypted candidate found⟩

/-- An item is found by its own name in a cache that has no other item. -/
theorem lookup_alone (unicode : UnicodeTables) (item : DecryptedItem)
    (orgsByName : StringMap (List String)) :
    lookupItem unicode ⟨[item], orgsByName⟩ item.name none = .ok item := by
  simp [lookupItem, findItem, inScope, okOr]

/-- Damage is never caught: what is delivered is the value of another field, or the
empty string. -/
theorem damage_never_caught (cipher : SyncCipher) (key : SymmetricKey) (name : String)
    (decrypts : decryptStr client.crypto cipher.name key = .ok name)
    (damaged : Damaged client.crypto client.values cipher key) :
    ¬ Caught client cipher key ∧
      ∃ item, Delivered client cipher key item ∧ Substituted client cipher key item := by
  obtain ⟨item, delivered⟩ := named_delivered client cipher key name decrypts
  refine ⟨fun caught => ?_, item, delivered,
    damage_substituted client cipher key item delivered.decrypted damaged⟩
  have finds := lookup_alone client.unicode item ∅
  obtain ⟨halt, failed⟩ := caught item delivered.decrypted _ ⟨item.name, none⟩ finds
  obtain ⟨answers, answered, -⟩ := delivered.answered ⟨[item], ∅⟩ [⟨item.name, none⟩]
    (by simpa using ⟨item, finds⟩)
  rw [answered] at failed
  cases failed

end

/-! ## A tampered password -/

/-- The message `x` under the sample key with the MAC of another message. -/
def tamperedText : String :=
  "2.AAAAAAAAAAAAAAAAAAAAAA==|ENzXx5cgBLutyq4Z12XSwQ==|" ++
    "z5NjxXingQ/3/J4h2p2k7/9myp3pCy67pf4pMP0kbCw="

/-- A login named `x` with a tampered password, and with the notes `y`. -/
def tamperedLogin : SyncCipher :=
  { sampleCipher with
    name := textX
    notes := some textY
    login := some { username := none, password := some tamperedText, uri := none, uris := [] } }

def tamperedClient : Client Unit :=
  { sampleClient with crypto := fieldPrimitives }

theorem tampered_text_fails :
    decryptStr fieldPrimitives tamperedText sampleKey = .error (.err .macMismatch) := by
  decide +kernel

theorem tampered_damaged :
    Damaged tamperedClient.crypto tamperedClient.values tamperedLogin sampleKey :=
  ⟨(.password, tamperedText), List.mem_append_left _ (List.mem_append_left _ (.head _)),
    ⟨by decide, .macMismatch, tampered_text_fails⟩, fun _ _ _ _ => Nat.zero_le _⟩

theorem damage_never_caught_sample :
    ¬ Caught tamperedClient tamperedLogin sampleKey ∧
      ∃ item, Delivered tamperedClient tamperedLogin sampleKey item ∧
        Substituted tamperedClient tamperedLogin sampleKey item :=
  damage_never_caught tamperedClient tamperedLogin sampleKey "x" text_x_decrypts tampered_damaged

theorem tampered_held :
    held fieldPrimitives sampleKey tamperedLogin = ⟨"x", "", "y", []⟩ := by
  have name := text_of_text_is fieldPrimitives sampleKey (some textX) "x" text_x_decrypts
  have password := text_of_failed fieldPrimitives sampleKey tamperedText _ tampered_text_fails
  have notes := text_of_text_is fieldPrimitives sampleKey (some textY) "y" text_y_decrypts
  change Plain.mk (textOf fieldPrimitives sampleKey (some textX))
    (textOf fieldPrimitives sampleKey (some tamperedText))
    (textOf fieldPrimitives sampleKey (some textY)) [] = _
  rw [name, password, notes]

/-- The sync keeps the login, and its notes are delivered as its password. -/
theorem tampered_password_replaced :
    decryptStr fieldPrimitives textX sampleKey = .ok "x" ∧
      Damaged tamperedClient.crypto tamperedClient.values tamperedLogin sampleKey ∧
      ∃ cache skips,
        decryptVault fieldPrimitives asciiTables (sampleSync [tamperedLogin]) sampleKey =
          .ok (cache, skips) ∧
        skips = ⟨0, 0⟩ ∧
        tryFetchSecrets tamperedClient (some cache) [⟨"x", none⟩] = .ok ["y"] := by
  obtain ⟨item, decrypted, -, -, isNamed⟩ :=
    decrypt_cipher_named fieldPrimitives tamperedLogin sampleKey "x" text_x_decrypts
  obtain ⟨other, same, holds⟩ :=
    decrypt_cipher_holds fieldPrimitives tamperedLogin sampleKey "x" text_x_decrypts
  rw [decrypted] at same
  cases same
  rw [tampered_held] at holds
  have value : extractSecret tamperedClient.values item = "y" := by
    have unlisted : listed.findSome? (keptValue []) = none := by decide +kernel
    simp [extract_secret_eq _ item _ holds, unlisted]
  refine ⟨text_x_decrypts, tampered_damaged, _, _,
    decrypt_vault_alone fieldPrimitives asciiTables (sampleSync [tamperedLogin]) sampleKey ∅
      tamperedLogin sampleKey item rfl rfl rfl decrypted, rfl, ?_⟩
  rw [try_fetch_ok_iff, ← value, ← isNamed]
  have finds := lookup_alone asciiTables item (indexOrgs asciiTables [⟨"o1", "Team", ""⟩])
  exact congrArg (fun result => [result.toOption.map (extractSecret tamperedClient.values)]) finds

end VaultwardenOperator.DamagedField
