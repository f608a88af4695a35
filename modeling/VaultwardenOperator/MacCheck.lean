import VaultwardenOperator.Crypto

/-!
# Strings that open under a key with a MAC key

Whether a MAC is checked depends on the type that the string itself declares.
Type 2 has one, which must be right; type 0 has none, and decrypts under the
encryption key alone. The RSA types have no initialization vector, so nothing
of those types decrypts.
-/

namespace VaultwardenOperator.MacCheck

open Rust Crypto

section
variable {RsaPrivateKey : Type} (crypto : Primitives RsaPrivateKey)

/-- The string decrypts to a text, or as a private key. -/
def Opens (s : String) (key : SymmetricKey) : Prop :=
  (∃ text, decryptStr crypto s key = .ok text) ∨
    ∃ privateKey, decryptPrivateKey crypto s key = .ok privateKey

/-- The string has a MAC, and it is the one of its initialization vector and
ciphertext. -/
def CarriesMac (s : String) (key : SymmetricKey) : Prop :=
  ∃ cipher, CipherString.parse crypto s = .ok cipher ∧
    cipher.encType = encTypeAesCbc256HmacSha256B64 ∧
    cipher.mac = crypto.hmacSha256 key.macKey (cipher.iv ++ cipher.ct)

/-- The string is of type 0, which has no MAC. -/
def Unauthenticated (s : String) : Prop :=
  ∃ cipher, CipherString.parse crypto s = .ok cipher ∧ cipher.encType = encTypeAesCbc256B64

/-- A string that opens has been parsed, and its blocks decrypted. -/
theorem opens_decrypts (s : String) (key : SymmetricKey) (nonempty : s ≠ "")
    (opens : Opens crypto s key) :
    ∃ cipher bytes, CipherString.parse crypto s = .ok cipher ∧
      cipher.decrypt crypto key = .ok bytes := by
  rcases opens with ⟨text, opened⟩ | ⟨privateKey, opened⟩
  · obtain ⟨cipher, parsed, bytes, decrypted, -⟩ :=
      (decrypt_str_ok_iff crypto s key text nonempty).mp opened
    exact ⟨cipher, bytes, parsed, decrypted⟩
  · simp only [decryptPrivateKey, if_neg nonempty, bind_ok_iff, returned_ok_iff] at opened
    obtain ⟨cipher, parsed, bytes, decrypted, -⟩ := opened
    exact ⟨cipher, bytes, parsed, decrypted⟩

/-- What opens is of type 0 or carries a right MAC. No change to the MAC, the vector or
the ciphertext of a type-2 string and no other type prefix gets past the check. -/
theorem opens_authenticated (s : String) (key : SymmetricKey) (nonempty : s ≠ "")
    (opens : Opens crypto s key) : Unauthenticated crypto s ∨ CarriesMac crypto s key := by
  obtain ⟨cipher, bytes, parsed, decrypted⟩ := opens_decrypts crypto s key nonempty opens
  obtain ⟨vector, -, authentic, -⟩ := (decrypt_ok_iff crypto cipher key bytes).mp decrypted
  rcases parse_cases crypto s cipher parsed with ⟨plain, -⟩ | typed | noVector
  · exact .inl ⟨cipher, parsed, plain⟩
  · exact .inr ⟨cipher, parsed, typed, (authentic typed).2.symm⟩
  · rw [noVector] at vector
    cases vector

end

/-- The sample message opens under its key. -/
theorem opens_authenticated_sample :
    sampleKey.macKey ≠ [] ∧ Opens samplePrimitives sampleText sampleKey ∧
      (Unauthenticated samplePrimitives sampleText ∨
        CarriesMac samplePrimitives sampleText sampleKey) := by
  have opens : Opens samplePrimitives sampleText sampleKey :=
    .inl ⟨"db", by decide +kernel⟩
  exact ⟨by decide, opens,
    opens_authenticated samplePrimitives sampleText sampleKey (by decide) opens⟩

/-- The sample message with its type changed to 0 and its MAC dropped. -/
def relabelledText : String := "0.AAAAAAAAAAAAAAAAAAAAAA==|JRZjcEhI7FwPstUr+7vSEg=="

/-- The relabelled message opens under the key with a MAC key, and carries no MAC. -/
theorem relabelled_opens :
    sampleKey.macKey ≠ [] ∧ decryptStr samplePrimitives relabelledText sampleKey = .ok "db" ∧
      ¬ CarriesMac samplePrimitives relabelledText sampleKey := by
  refine ⟨by decide, by decide +kernel, ?_⟩
  rintro ⟨cipher, parsed, typed, -⟩
  have isPlain : (CipherString.parse samplePrimitives relabelledText).toOption.map
      CipherString.encType = some encTypeAesCbc256B64 := by
    decide +kernel
  rw [parsed] at isPlain
  cases isPlain.symm.trans (congrArg some typed)

end VaultwardenOperator.MacCheck
