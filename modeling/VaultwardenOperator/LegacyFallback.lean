import VaultwardenOperator.CipherFormat

/-!
# The legacy attempt and the MAC

After any error of the attempt under the stretched key, `decrypt_symmetric_key` tries
the master key itself without a MAC key. The second attempt does not open what the
first refused for its MAC: type 2 without a MAC key is an error before anything is
decrypted, and the RSA types have no vector, so neither attempt opens them.
-/

namespace VaultwardenOperator.LegacyFallback

open Rust Crypto UserKey CipherFormat

section
variable {RsaPrivateKey : Type} (crypto : Primitives RsaPrivateKey)

/-- The MAC of a cipher string is the one of its vector and ciphertext. -/
def MacRight (cipher : CipherString) (key : SymmetricKey) : Prop :=
  cipher.mac = crypto.hmacSha256 key.macKey (cipher.iv ++ cipher.ct)

/-- The key is the two 32-byte halves of what the blocks decrypt to without their
padding. -/
def HalvesOf (cipher : CipherString) (encKey : List UInt8) (key : SymmetricKey) : Prop :=
  ∃ decrypted, Padded decrypted (crypto.aes256CbcDecrypt encKey cipher.iv cipher.ct) ∧
    decrypted.length = 64 ∧ key = ⟨decrypted.take 32, decrypted.drop 32⟩

/-- Without a MAC key, only strings of type 0 decrypt. -/
theorem legacy_plain (s : String) (cipher : CipherString) (masterKey bytes : List UInt8)
    (parsed : CipherString.parse crypto s = .ok cipher)
    (decrypted : cipher.decrypt crypto ⟨masterKey, []⟩ = .ok bytes) :
    cipher.encType = encTypeAesCbc256B64 := by
  obtain ⟨vector, -, authentic, -⟩ := (decrypt_ok_iff crypto cipher _ bytes).mp decrypted
  rcases parse_cases crypto s cipher parsed with ⟨plain, -⟩ | typed | noVector
  · exact plain
  · exact absurd rfl (authentic typed).1
  · rw [noVector] at vector
    cases vector

/-- Under a key with a MAC key, strings of type 0 decrypt and those of type 2 with the
right MAC. -/
theorem stretched_authentic (s : String) (cipher : CipherString) (stretched : SymmetricKey)
    (bytes : List UInt8) (parsed : CipherString.parse crypto s = .ok cipher)
    (decrypted : cipher.decrypt crypto stretched = .ok bytes) :
    cipher.encType = encTypeAesCbc256B64 ∨
      cipher.encType = encTypeAesCbc256HmacSha256B64 ∧ MacRight crypto cipher stretched ∧
        Padded bytes (crypto.aes256CbcDecrypt stretched.encKey cipher.iv cipher.ct) := by
  obtain ⟨vector, -, authentic, -, unpadded⟩ :=
    (decrypt_ok_iff crypto cipher stretched bytes).mp decrypted
  rcases parse_cases crypto s cipher parsed with ⟨plain, -⟩ | typed | noVector
  · exact .inl plain
  · exact .inr ⟨typed, (authentic typed).2.symm, ((pkcs7_unpad_ok_iff _ bytes 16).mp unpadded).2⟩
  · rw [noVector] at vector
    cases vector

/-- What either attempt returns is what one of them decrypts. -/
theorem attempts_inv (cipher : CipherString) (stretched : SymmetricKey)
    (masterKey bytes : List UInt8)
    (returned : decryptStretchedOrLegacy crypto cipher stretched masterKey = .ok bytes) :
    cipher.decrypt crypto stretched = .ok bytes ∨
      cipher.decrypt crypto ⟨masterKey, []⟩ = .ok bytes := by
  unfold decryptStretchedOrLegacy at returned
  split at returned
  · rename_i decrypted first
    cases returned
    exact .inl first
  · cases returned
  · split at returned
    · rename_i decrypted second
      cases returned
      exact .inr second
    · cases returned
    · cases returned

/-- A key that is decrypted comes from a string that parses and from halves of 32 bytes. -/
theorem symmetric_key_inv (s : String) (masterKey : List UInt8) (key : SymmetricKey)
    (accepted : decryptSymmetricKey crypto s masterKey = .ok key) :
    ∃ cipher stretched bytes, CipherString.parse crypto s = .ok cipher ∧
      stretchKey crypto masterKey = .ok stretched ∧
      decryptStretchedOrLegacy crypto cipher stretched masterKey = .ok bytes ∧
      bytes.length = 64 ∧ key = ⟨bytes.take 32, bytes.drop 32⟩ := by
  unfold decryptSymmetricKey at accepted
  split_ifs at accepted
  simp only [bind_ok_iff, returned_ok_iff, key_halves_ok_iff] at accepted
  obtain ⟨cipher, parsed, stretched, stretches, bytes, decrypted, length, halves⟩ := accepted
  exact ⟨cipher, stretched, bytes, parsed, stretches, decrypted, length, halves⟩

/-- A string that is accepted is of type 0, or of type 2 with the right MAC under the
stretched key, and then its key is the one under that key. -/
theorem accepted_authentic (s : String) (masterKey : List UInt8) (key : SymmetricKey)
    (accepted : decryptSymmetricKey crypto s masterKey = .ok key) :
    ∃ cipher stretched, CipherString.parse crypto s = .ok cipher ∧
      stretchKey crypto masterKey = .ok stretched ∧
      (cipher.encType = encTypeAesCbc256B64 ∨
        cipher.encType = encTypeAesCbc256HmacSha256B64 ∧ MacRight crypto cipher stretched ∧
          HalvesOf crypto cipher stretched.encKey key) := by
  obtain ⟨cipher, stretched, bytes, parsed, stretches, returned, length, rfl⟩ :=
    symmetric_key_inv crypto s masterKey key accepted
  refine ⟨cipher, stretched, parsed, stretches, ?_⟩
  rcases attempts_inv crypto cipher stretched masterKey bytes returned with first | second
  · rcases stretched_authentic crypto s cipher stretched bytes parsed first with
      plain | ⟨typed, right, padded⟩
    · exact .inl plain
    · exact .inr ⟨typed, right, bytes, padded, length, rfl⟩
  · exact .inl (legacy_plain crypto s cipher masterKey bytes parsed second)

/-- The type of a string that is accepted, as it parses. -/
theorem accepted_type (s : String) (masterKey : List UInt8) (key : SymmetricKey)
    (cipher : CipherString) (parsed : CipherString.parse crypto s = .ok cipher)
    (accepted : decryptSymmetricKey crypto s masterKey = .ok key) :
    cipher.encType = encTypeAesCbc256B64 ∨
      cipher.encType = encTypeAesCbc256HmacSha256B64 ∧
        ∃ stretched, stretchKey crypto masterKey = .ok stretched ∧
          MacRight crypto cipher stretched := by
  obtain ⟨other, stretched, otherParsed, stretches, kinds⟩ :=
    accepted_authentic crypto s masterKey key accepted
  obtain rfl := Except.ok.inj (parsed.symm.trans otherParsed)
  rcases kinds with plain | ⟨typed, right, -⟩
  · exact .inl plain
  · exact .inr ⟨typed, stretched, stretches, right⟩

/-- What is never accepted is refused with an error. -/
theorem refused_of_not_accepted (s : String) (masterKey : List UInt8)
    (refused : ∀ key, decryptSymmetricKey crypto s masterKey ≠ .ok key) :
    ∃ error, decryptSymmetricKey crypto s masterKey = .error (.err error) := by
  cases result : decryptSymmetricKey crypto s masterKey with
  | ok key => exact absurd result (refused key)
  | error halt =>
    cases halt with
    | err error => exact ⟨error, rfl⟩
    | panic => exact absurd result (decrypt_symmetric_key_total crypto s masterKey)

/-- The legacy attempt never weakens type 2: what is accepted is of type 0, or of type 2
with the right MAC and the key under the stretched key; a string of type 2 with another
MAC and a string of an RSA type are refused, whatever the master key. -/
theorem fallback_keeps_mac (s : String) (masterKey : List UInt8) :
    (∀ key, decryptSymmetricKey crypto s masterKey = .ok key →
      ∃ cipher stretched, CipherString.parse crypto s = .ok cipher ∧
        stretchKey crypto masterKey = .ok stretched ∧
        (cipher.encType = encTypeAesCbc256B64 ∨
          cipher.encType = encTypeAesCbc256HmacSha256B64 ∧ MacRight crypto cipher stretched ∧
            HalvesOf crypto cipher stretched.encKey key)) ∧
      (∀ cipher, CipherString.parse crypto s = .ok cipher →
        cipher.encType = encTypeAesCbc256HmacSha256B64 →
        (∀ stretched, stretchKey crypto masterKey = .ok stretched →
          ¬ MacRight crypto cipher stretched) →
          ∃ error, decryptSymmetricKey crypto s masterKey = .error (.err error)) ∧
      ∀ cipher, CipherString.parse crypto s = .ok cipher → IsRsa cipher.encType →
        ∃ error, decryptSymmetricKey crypto s masterKey = .error (.err error) := by
  refine ⟨accepted_authentic crypto s masterKey, ?_, ?_⟩
  · intro cipher parsed typed forged
    apply refused_of_not_accepted
    intro key accepted
    rcases accepted_type crypto s masterKey key cipher parsed accepted with
      plain | ⟨-, stretched, stretches, right⟩
    · exact absurd (plain.symm.trans typed) (by decide)
    · exact forged stretched stretches right
  · intro cipher parsed rsa
    apply refused_of_not_accepted
    intro key accepted
    obtain ⟨notPlain, notMac⟩ := rsa_not_aes cipher.encType rsa
    rcases accepted_type crypto s masterKey key cipher parsed accepted with plain | ⟨typed, -⟩
    · exact notPlain plain
    · exact notMac typed

end

end VaultwardenOperator.LegacyFallback
