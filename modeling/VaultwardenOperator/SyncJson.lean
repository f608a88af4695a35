import VaultwardenOperator.Serde
import VaultwardenOperator.Sync

/-!
# The JSON of an `/api/sync` answer

The derived decoders of the answer and its parts, and the values that each of
them accepts. A list is refused with any of its elements, so the shape of a cipher
reaches down to the URIs of its login and to its custom fields.
-/

namespace VaultwardenOperator.SyncJson

open Json Serde Sync

def organizationNames : List String := ["id", "name", "key"]

def decodeOrganization (value : Value) : Option SyncOrganization := do
  let slot ← slots organizationNames value
  let id ← required decodeStr (slot "id")
  let name ← required decodeStr (slot "name")
  let key ← required decodeStr (slot "key")
  pure { id, name, key }

def profileNames : List String := ["id", "email", "key", "privateKey", "organizations"]

def decodeProfile (value : Value) : Option SyncProfile := do
  let slot ← slots profileNames value
  let id ← required decodeStr (slot "id")
  let email ← required decodeStr (slot "email")
  let key ← required decodeStr (slot "key")
  let privateKey ← defaulted "" decodeStr (slot "privateKey")
  let organizations ← defaulted [] (decodeList decodeOrganization) (slot "organizations")
  pure { id, email, key, privateKey, organizations }

/-! ## Ciphers -/

def uriFields : List Field := [⟨"uri", .optional, IsStr⟩]

def decodeUri (value : Value) : Option SyncUri := do
  let slot ← slots (uriFields.map Field.name) value
  let uri ← optional decodeStr (slot "uri")
  pure { uri }

def loginFields : List Field :=
  [⟨"username", .optional, IsStr⟩, ⟨"password", .optional, IsStr⟩, ⟨"uri", .optional, IsStr⟩,
    ⟨"uris", .defaulted, ListOf (Record uriFields)⟩]

def decodeLogin (value : Value) : Option SyncLogin := do
  let slot ← slots (loginFields.map Field.name) value
  let username ← optional decodeStr (slot "username")
  let password ← optional decodeStr (slot "password")
  let uri ← optional decodeStr (slot "uri")
  let uris ← defaulted [] (decodeList decodeUri) (slot "uris")
  pure { username, password, uri, uris }

def cardFields : List Field :=
  [⟨"cardholderName", .optional, IsStr⟩, ⟨"number", .optional, IsStr⟩,
    ⟨"code", .optional, IsStr⟩]

def decodeCard (value : Value) : Option SyncCard := do
  let slot ← slots (cardFields.map Field.name) value
  let cardholderName ← optional decodeStr (slot "cardholderName")
  let number ← optional decodeStr (slot "number")
  let code ← optional decodeStr (slot "code")
  pure { cardholderName, number, code }

def fieldFields : List Field :=
  [⟨"name", .optional, IsStr⟩, ⟨"value", .optional, IsStr⟩, ⟨"type", .defaulted, IsByte⟩]

def decodeField (value : Value) : Option SyncField := do
  let slot ← slots (fieldFields.map Field.name) value
  let name ← optional decodeStr (slot "name")
  let content ← optional decodeStr (slot "value")
  let fieldType ← defaulted 0 decodeByte (slot "type")
  pure { name, value := content, fieldType }

def cipherFields : List Field :=
  [⟨"id", .required, IsStr⟩, ⟨"type", .required, IsByte⟩, ⟨"organizationId", .optional, IsStr⟩,
    ⟨"name", .required, IsStr⟩, ⟨"notes", .optional, IsStr⟩,
    ⟨"login", .optional, Record loginFields⟩, ⟨"card", .optional, Record cardFields⟩,
    ⟨"fields", .defaulted, ListOf (Record fieldFields)⟩]

def decodeCipher (value : Value) : Option SyncCipher := do
  let slot ← slots (cipherFields.map Field.name) value
  let id ← required decodeStr (slot "id")
  let cipherType ← required decodeByte (slot "type")
  let organizationId ← optional decodeStr (slot "organizationId")
  let name ← required decodeStr (slot "name")
  let notes ← optional decodeStr (slot "notes")
  let login ← optional decodeLogin (slot "login")
  let card ← optional decodeCard (slot "card")
  let fields ← defaulted [] (decodeList decodeField) (slot "fields")
  pure { id, cipherType, organizationId, name, notes, login, card, fields }

def responseNames : List String := ["profile", "ciphers"]

def decodeResponse (value : Value) : Option SyncResponse := do
  let slot ← slots responseNames value
  let profile ← required decodeProfile (slot "profile")
  let ciphers ← required (decodeList decodeCipher) (slot "ciphers")
  pure { profile, ciphers }

/-! ## What is accepted -/

theorem uri_accepts : Accepts decodeUri (Record uriFields) := by
  intro value
  rw [record_iff uriFields value (by decide)]
  simp [decodeUri, uriFields, exists_bind_iff, ← optional_accepts str_accepts]

theorem login_accepts : Accepts decodeLogin (Record loginFields) := by
  intro value
  rw [record_iff loginFields value (by decide)]
  simp [decodeLogin, loginFields, exists_bind_iff, ← optional_accepts str_accepts,
    ← defaulted_accepts (list_accepts _ _ uri_accepts) _ _ []]

theorem card_accepts : Accepts decodeCard (Record cardFields) := by
  intro value
  rw [record_iff cardFields value (by decide)]
  simp [decodeCard, cardFields, exists_bind_iff, ← optional_accepts str_accepts]

theorem field_accepts : Accepts decodeField (Record fieldFields) := by
  intro value
  rw [record_iff fieldFields value (by decide)]
  simp [decodeField, fieldFields, exists_bind_iff, ← optional_accepts str_accepts,
    ← defaulted_accepts byte_accepts _ _ 0]

/-- A cipher is accepted if and only if it and all its parts have their shapes. -/
theorem cipher_accepts : Accepts decodeCipher (Record cipherFields) := by
  intro value
  rw [record_iff cipherFields value (by decide)]
  simp [decodeCipher, cipherFields, exists_bind_iff, ← optional_accepts str_accepts,
    ← required_accepts str_accepts, ← required_accepts byte_accepts,
    ← optional_accepts login_accepts, ← optional_accepts card_accepts,
    ← defaulted_accepts (list_accepts _ _ field_accepts) _ _ []]

end VaultwardenOperator.SyncJson
