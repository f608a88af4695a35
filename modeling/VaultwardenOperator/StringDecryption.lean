import VaultwardenOperator.CipherFormat

/-!
# Decrypting what was encrypted

A text that is padded, encrypted, authenticated and written as a cipher string comes
back from `decrypt_str`, whatever its length: the padding is a whole block when the
text ends on a block boundary, and the empty text is one block of padding. A string of
type 2 with another MAC is never accepted, and no string and no key makes the function
panic.

The block cipher is assumed to be inverted by its decryption on whole blocks, and
base64 decoding to undo encoding.
-/

namespace VaultwardenOperator.StringDecryption

open Rust Crypto UserKey CipherFormat

/-- The encrypting side of the block cipher, and what its decryption does with it. -/
structure CbcEncryption {RsaPrivateKey : Type} (crypto : Primitives RsaPrivateKey) where
  aes256CbcEncrypt : List UInt8 → List UInt8 → List UInt8 → List UInt8
  decrypt_encrypt : ∀ key iv data, key.length = 32 → iv.length = 16 → 16 ∣ data.length →
    crypto.aes256CbcDecrypt key iv (aes256CbcEncrypt key iv data) = data
  encrypt_length : ∀ key iv data, key.length = 32 → iv.length = 16 → 16 ∣ data.length →
    (aes256CbcEncrypt key iv data).length = data.length

/-- The UTF-8 encoding of a text. -/
def utf8 (text : String) : List UInt8 := text.toUTF8.data.toList

theorem from_utf8_utf8 (text : String) : fromUtf8 (utf8 text) = some text := by
  have bytes : (⟨(utf8 text).toArray⟩ : ByteArray) = text.toByteArray := rfl
  rw [fromUtf8, bytes, String.fromUTF8?, dif_pos text.isValidUTF8]
  rfl

section
variable {RsaPrivateKey : Type} {crypto : Primitives RsaPrivateKey}
  (encryption : CbcEncryption crypto)

/-- The blocks of a text. -/
def CbcEncryption.blocks (key : SymmetricKey) (iv : List UInt8) (text : String) : List UInt8 :=
  encryption.aes256CbcEncrypt key.encKey iv (pad (utf8 text))

/-- The text as a cipher string of type 2. -/
def CbcEncryption.authenticated (key : SymmetricKey) (iv : List UInt8) (text : String) :
    CipherString :=
  let ct := encryption.blocks key iv text
  ⟨encTypeAesCbc256HmacSha256B64, iv, ct, crypto.hmacSha256 key.macKey (iv ++ ct)⟩

/-- The text as a cipher string of type 0. -/
def CbcEncryption.plain (key : SymmetricKey) (iv : List UInt8) (text : String) : CipherString :=
  ⟨encTypeAesCbc256B64, iv, encryption.blocks key iv text, []⟩

/-- A string that is read as the blocks of a text, with the right MAC if it needs one,
decrypts to the text. -/
theorem decrypt_str_blocks (s : String) (cipher : CipherString) (key : SymmetricKey)
    (iv : List UInt8) (text : String)
    (encKey : key.encKey.length = 32) (macKey : key.macKey ≠ []) (vector : iv.length = 16)
    (parsed : CipherString.parse crypto s = .ok cipher) (sameVector : cipher.iv = iv)
    (blocks : cipher.ct = encryption.blocks key iv text)
    (authentic : cipher.encType = encTypeAesCbc256HmacSha256B64 →
      crypto.hmacSha256 key.macKey (cipher.iv ++ cipher.ct) = cipher.mac) :
    decryptStr crypto s key = .ok text := by
  have aligned := pad_aligned (utf8 text)
  have whole := pad_blocks (utf8 text) (encryption.blocks key iv text)
    (encryption.encrypt_length key.encKey iv _ encKey vector aligned)
  have opened := encryption.decrypt_encrypt key.encKey iv _ encKey vector aligned
  have decrypted : cipher.decrypt crypto key = .ok (utf8 text) := by
    rw [decrypt_ok_iff]
    refine ⟨by rw [sameVector]; exact vector, by rw [blocks]; exact whole,
      fun typed => ⟨macKey, authentic typed⟩, encKey, ?_⟩
    rw [sameVector, blocks, CbcEncryption.blocks, opened]
    exact unpad_pad (utf8 text)
  rw [decrypt_str_ok_iff crypto s key text (parsed_nonempty s cipher parsed)]
  exact ⟨cipher, parsed, utf8 text, decrypted, from_utf8_utf8 text⟩

/-- A string of type 2 with another MAC than the one of its vector and ciphertext is
not accepted. -/
theorem forged_refused (s : String) (key : SymmetricKey) (cipher : CipherString)
    (parsed : CipherString.parse crypto s = .ok cipher)
    (typed : cipher.encType = encTypeAesCbc256HmacSha256B64)
    (forged : cipher.mac ≠ crypto.hmacSha256 key.macKey (cipher.iv ++ cipher.ct))
    (text : String) : decryptStr crypto s key ≠ .ok text := by
  intro accepted
  rw [decrypt_str_ok_iff crypto s key text (parsed_nonempty s cipher parsed)] at accepted
  obtain ⟨other, otherParsed, bytes, decrypted, -⟩ := accepted
  obtain rfl := Except.ok.inj (parsed.symm.trans otherParsed)
  obtain ⟨-, -, authentic, -⟩ := (decrypt_ok_iff crypto cipher key bytes).mp decrypted
  exact forged (authentic typed).2.symm

/-- Decryption gives back every text that was encrypted, accepts no string of type 2
with another MAC, and never panics. -/
theorem decryption_inverts
    (decodes : ∀ bytes, crypto.decodeBase64 (Base64.encode bytes) = .ok bytes) :
    (∀ (key : SymmetricKey) (iv : List UInt8) (text : String),
      key.encKey.length = 32 → key.macKey ≠ [] → iv.length = 16 →
        decryptStr crypto (encode (encryption.authenticated key iv text)) key = .ok text ∧
        decryptStr crypto (encode (encryption.plain key iv text)) key = .ok text) ∧
      (∀ s key cipher, CipherString.parse crypto s = .ok cipher →
        cipher.encType = encTypeAesCbc256HmacSha256B64 →
        cipher.mac ≠ crypto.hmacSha256 key.macKey (cipher.iv ++ cipher.ct) →
          ∀ text, decryptStr crypto s key ≠ .ok text) ∧
      ∀ s key, decryptStr crypto s key ≠ .error .panic := by
  have decodesPart : ∀ bytes, decodePart crypto (Base64.encode bytes) = .ok bytes := by
    intro bytes
    rw [decodePart, decodes]
    rfl
  refine ⟨?_, forged_refused, decrypt_str_total crypto⟩
  intro key iv text encKey macKey vector
  constructor
  · have canonical : Canonical (encryption.authenticated key iv text) :=
      ⟨.inl (.inr rfl), fun other => absurd rfl other,
        fun rsa => absurd rfl (rsa_not_aes _ rsa).2⟩
    exact decrypt_str_blocks encryption _ _ key iv text encKey macKey vector
      (parse_encode crypto decodesPart _ canonical) rfl rfl (fun _ => rfl)
  · have canonical : Canonical (encryption.plain key iv text) :=
      ⟨.inl (.inl rfl), fun _ => rfl, fun rsa => absurd rfl (rsa_not_aes _ rsa).1⟩
    exact decrypt_str_blocks encryption _ _ key iv text encKey macKey vector
      (parse_encode crypto decodesPart _ canonical) rfl rfl
      (fun typed => absurd typed (by simp [CbcEncryption.plain, encTypeAesCbc256B64,
        encTypeAesCbc256HmacSha256B64]))

end

/-- The block cipher of the sample account. -/
def sampleCbc : CbcEncryption keyPrimitives where
  aes256CbcEncrypt := sampleEncryption.aes256CbcEncrypt
  decrypt_encrypt := sampleEncryption.decrypt_encrypt
  encrypt_length := sampleEncryption.encrypt_length

theorem decryption_inverts_sample :
    decryptStr keyPrimitives
        (encode (sampleCbc.authenticated sampleKey (List.replicate 16 0) "db")) sampleKey =
      .ok "db" ∧
    decryptStr keyPrimitives (encode (sampleCbc.plain sampleKey (List.replicate 16 0) ""))
        sampleKey = .ok "" := by
  have inverts := decryption_inverts sampleCbc sampleEncryption.decode_encode
  exact ⟨(inverts.1 sampleKey _ "db" (by decide) (by decide) (by decide)).1,
    (inverts.1 sampleKey _ "" (by decide) (by decide) (by decide)).2⟩

end VaultwardenOperator.StringDecryption
