import VaultwardenOperator.Base64
import VaultwardenOperator.Padding
import Mathlib.Logic.Equiv.Basic

/-!
# The user key under both schemes

A server stores the user key encrypted under the stretched master key, with a MAC,
or, for old accounts, under the master key itself and without one. The client tries
the stretched key first and falls back after an error. On a string without a MAC only
the padding can tell the wrong key, and a wrong plaintext may end in padding as well.

What encrypts, and the laws by which the client's primitives undo it, are gathered in
`Encryption`. Everything else is arbitrary.
-/

namespace VaultwardenOperator.UserKey

open Rust Crypto

/-- The encrypting side of the primitives, and the laws of both sides. -/
structure Encryption {RsaPrivateKey : Type} (crypto : Primitives RsaPrivateKey) where
  encodeBase64 : List UInt8 → List Char
  aes256CbcEncrypt : List UInt8 → List UInt8 → List UInt8 → List UInt8
  decode_encode : ∀ bytes, crypto.decodeBase64 (encodeBase64 bytes) = .ok bytes
  no_separator : ∀ bytes, '|' ∉ encodeBase64 bytes
  /-- CBC decryption is the inverse of CBC encryption, on whole blocks -/
  decrypt_encrypt : ∀ key iv data, key.length = 32 → iv.length = 16 → 16 ∣ data.length →
    crypto.aes256CbcDecrypt key iv (aes256CbcEncrypt key iv data) = data
  encrypt_length : ∀ key iv data, key.length = 32 → iv.length = 16 → 16 ∣ data.length →
    (aes256CbcEncrypt key iv data).length = data.length
  decrypt_length : ∀ key iv data, key.length = 32 → iv.length = 16 → 16 ∣ data.length →
    (crypto.aes256CbcDecrypt key iv data).length = data.length
  /-- HKDF accepts key material of the length of a hash, and expands it to the length asked for -/
  from_prk : ∀ prk, 32 ≤ prk.length → crypto.hkdfFromPrk prk = true
  expand : ∀ prk info length, 32 ≤ prk.length → length ≤ 255 * 32 →
    ∃ okm, crypto.hkdfExpand prk info length = some okm ∧ okm.length = length

/-- PKCS#7 padding to a block of 16 bytes. -/
def pad (data : List UInt8) : List UInt8 :=
  data ++ List.replicate (16 - data.length % 16) (UInt8.ofNat (16 - data.length % 16))

/-- The data are this text with its padding. -/
def Padded (text data : List UInt8) : Prop :=
  ∃ last : UInt8, 0 < last.toNat ∧ last.toNat ≤ 16 ∧ data = text ++ List.replicate last.toNat last

/-- The padding is the one of the general block size. -/
theorem pad_general (data : List UInt8) : Padding.IsPadded 16 data (pad data) :=
  Padding.pad_is_padded data 16 (by decide)

theorem pad_aligned (data : List UInt8) : 16 ∣ (pad data).length := (pad_general data).1

/-- Unpadding takes exactly the padding away. -/
theorem unpad_iff (data text : List UInt8) (aligned : 16 ∣ data.length) :
    pkcs7Unpad data 16 = .ok text ↔ Padded text data := by
  rw [pkcs7_unpad_ok_iff]
  exact and_iff_right aligned

/-- Unpadding undoes padding. -/
theorem unpad_pad (data : List UInt8) : pkcs7Unpad (pad data) 16 = .ok data :=
  (Padding.unpad_ok_iff 16 (by decide) (pad data) data).mpr (pad_general data)

/-- Padded data are whole blocks, at least one. -/
theorem pad_blocks (data blocks : List UInt8) (length : blocks.length = (pad data).length) :
    blocks ≠ [] ∧ 16 ∣ blocks.length := by
  constructor
  · rintro rfl
    rw [pad, List.length_append, List.length_replicate, List.length_nil] at length
    have remainder : data.length % 16 < 16 := Nat.mod_lt _ (by decide)
    omega
  · rw [length]
    exact pad_aligned data

section
variable {RsaPrivateKey : Type} {crypto : Primitives RsaPrivateKey}
  (encryption : Encryption crypto)

/-- The ciphertext of some padded data. -/
def Encryption.ciphertext (encKey iv data : List UInt8) : List UInt8 :=
  encryption.aes256CbcEncrypt encKey iv (pad data)

/-- The cipher string of type 2. -/
def Encryption.macString (key : SymmetricKey) (iv data : List UInt8) : String :=
  let ct := encryption.ciphertext key.encKey iv data
  String.ofList ('2' :: '.' :: (encryption.encodeBase64 iv ++ '|' ::
    (encryption.encodeBase64 ct ++ '|' ::
      encryption.encodeBase64 (crypto.hmacSha256 key.macKey (iv ++ ct)))))

/-- The cipher string of type 0. -/
def Encryption.plainString (encKey iv data : List UInt8) : String :=
  String.ofList ('0' :: '.' :: (encryption.encodeBase64 iv ++ '|' ::
    encryption.encodeBase64 (encryption.ciphertext encKey iv data)))

/-! ## Parsing -/

include encryption in
theorem decode_part (bytes : List UInt8) :
    decodePart crypto (encryption.encodeBase64 bytes) = .ok bytes := by
  simp only [decodePart, encryption.decode_encode, Except.mapError]

/-- A string of a type of one digit is parsed by its parts. -/
theorem parse_typed (crypto : Primitives RsaPrivateKey) (digit : Char) (code : Nat)
    (rest : List Char) (typed : parseUnsigned 256 [digit] = some code) (separate : digit ≠ '.') :
    CipherString.parse crypto (String.ofList (digit :: '.' :: rest)) =
      CipherString.parseParts crypto (UInt8.ofNat code) rest := by
  have nonempty : String.ofList (digit :: '.' :: rest) ≠ "" := by
    intro same
    have vacant := congrArg String.toList same
    simp at vacant
  rw [CipherString.parse, if_neg nonempty, String.toList_ofList]
  simp only [splitOnce, separate, if_false, if_true, Option.map_some, typed]

theorem parsed_nonempty (s : String) (cipher : CipherString)
    (parsed : CipherString.parse crypto s = .ok cipher) : s ≠ "" := by
  rintro rfl
  cases parsed

theorem parse_mac_string (key : SymmetricKey) (iv data : List UInt8) :
    CipherString.parse crypto (encryption.macString key iv data) =
      .ok ⟨encTypeAesCbc256HmacSha256B64, iv, encryption.ciphertext key.encKey iv data,
        crypto.hmacSha256 key.macKey
          (iv ++ encryption.ciphertext key.encKey iv data)⟩ := by
  rw [Encryption.macString, parse_typed crypto '2' 2 _ (by decide) (by decide)]
  simp only [CipherString.parseParts, splitn_append _ _ _ _ (encryption.no_separator _),
    splitn_plain _ _ _ (encryption.no_separator _), decode_part]
  rfl

theorem parse_plain_string (encKey iv data : List UInt8) :
    CipherString.parse crypto (encryption.plainString encKey iv data) =
      .ok ⟨encTypeAesCbc256B64, iv, encryption.ciphertext encKey iv data, []⟩ := by
  rw [Encryption.plainString, parse_typed crypto '0' 0 _ (by decide) (by decide)]
  simp only [CipherString.parseParts, splitn_append _ _ _ _ (encryption.no_separator _),
    splitn_plain _ _ _ (encryption.no_separator _), decode_part]
  rfl

/-! ## Decryption -/

theorem ciphertext_length (encKey iv data : List UInt8) (keyed : encKey.length = 32)
    (vector : iv.length = 16) :
    (encryption.ciphertext encKey iv data).length = (pad data).length :=
  encryption.encrypt_length encKey iv (pad data) keyed vector (pad_aligned data)

/-- Under its own key a ciphertext decrypts to its data. -/
theorem unpad_ciphertext (encKey iv data : List UInt8) (keyed : encKey.length = 32)
    (vector : iv.length = 16) :
    pkcs7Unpad (crypto.aes256CbcDecrypt encKey iv (encryption.ciphertext encKey iv data)) 16 =
      .ok data := by
  rw [Encryption.ciphertext,
    encryption.decrypt_encrypt encKey iv (pad data) keyed vector (pad_aligned data), unpad_pad]

/-- A ciphertext consists of whole blocks, at least one. -/
theorem ciphertext_blocks (encKey iv data : List UInt8) (keyed : encKey.length = 32)
    (vector : iv.length = 16) :
    encryption.ciphertext encKey iv data ≠ [] ∧
      16 ∣ (encryption.ciphertext encKey iv data).length :=
  pad_blocks data _ (ciphertext_length encryption encKey iv data keyed vector)

include encryption in
/-- A master key can be stretched, to two keys of 32 bytes. -/
theorem stretch_ok (masterKey : List UInt8) (whole : masterKey.length = 32) :
    ∃ stretched, stretchKey crypto masterKey = .ok stretched ∧
      stretched.encKey.length = 32 ∧ stretched.macKey.length = 32 := by
  have accepted := encryption.from_prk masterKey (by omega)
  obtain ⟨encKey, encIs, encLength⟩ :=
    encryption.expand masterKey "enc".toUTF8.toList 32 (by omega) (by decide)
  obtain ⟨macKey, macIs, macLength⟩ :=
    encryption.expand masterKey "mac".toUTF8.toList 32 (by omega) (by decide)
  refine ⟨⟨encKey, macKey⟩, ?_, encLength, macLength⟩
  rw [stretchKey, if_neg (by simp [accepted]), encIs]
  dsimp only
  rw [macIs]

/-! ## Recovery -/

/-- The key comes back from the string. -/
def Recovers (crypto : Primitives RsaPrivateKey) (s : String) (masterKey userKey : List UInt8) :
    Prop :=
  decryptSymmetricKey crypto s masterKey = .ok ⟨userKey.take 32, userKey.drop 32⟩

/-- The halves of a key determine it. -/
theorem key_halves_iff (userKey decrypted : List UInt8) (whole : userKey.length = 64) :
    keyHalves .symKeyLength decrypted = .ok ⟨userKey.take 32, userKey.drop 32⟩ ↔
      decrypted = userKey := by
  rw [key_halves_ok_iff]
  constructor
  · rintro ⟨-, same⟩
    obtain ⟨first, second⟩ := SymmetricKey.mk.inj same
    rw [← List.take_append_drop 32 decrypted, ← first, ← second, List.take_append_drop]
  · rintro rfl
    exact ⟨whole, rfl⟩

/-- A string that parses is recovered if its blocks decrypt to the key. -/
theorem recovers_iff (s : String) (masterKey userKey : List UInt8) (cipher : CipherString)
    (stretched : SymmetricKey)
    (parsed : CipherString.parse crypto s = .ok cipher)
    (stretches : stretchKey crypto masterKey = .ok stretched) (whole : userKey.length = 64) :
    Recovers crypto s masterKey userKey ↔
      decryptStretchedOrLegacy crypto cipher stretched masterKey = .ok userKey := by
  unfold Recovers decryptSymmetricKey
  rw [if_neg (parsed_nonempty s cipher parsed), parsed, stretches]
  simp only [bind_ok_iff, returned_ok_iff, Except.ok.injEq, exists_eq_left',
    key_halves_iff userKey _ whole, exists_eq_right]

/-- Under the stretched key the key is always recovered. -/
theorem mac_string_recovered (masterKey iv userKey : List UInt8) (stretched : SymmetricKey)
    (stretches : stretchKey crypto masterKey = .ok stretched)
    (encKey : stretched.encKey.length = 32) (macKey : stretched.macKey.length = 32)
    (vector : iv.length = 16) (whole : userKey.length = 64) :
    Recovers crypto (encryption.macString stretched iv userKey) masterKey userKey := by
  have parsed := parse_mac_string encryption stretched iv userKey
  rw [recovers_iff _ masterKey userKey _ stretched parsed stretches whole]
  have keyed : stretched.macKey ≠ [] := by
    intro vacant
    rw [vacant] at macKey
    cases macKey
  have decrypted := (decrypt_ok_iff crypto
    ⟨encTypeAesCbc256HmacSha256B64, iv, encryption.ciphertext stretched.encKey iv userKey,
      crypto.hmacSha256 stretched.macKey
        (iv ++ encryption.ciphertext stretched.encKey iv userKey)⟩ stretched userKey).mpr
    ⟨vector, ciphertext_blocks encryption stretched.encKey iv userKey encKey vector,
      fun _ => ⟨keyed, rfl⟩, encKey,
      unpad_ciphertext encryption stretched.encKey iv userKey encKey vector⟩
  rw [decryptStretchedOrLegacy, decrypted]

/-- Under the master key itself the key is recovered if and only if the stretched key
does not decrypt the blocks to another padded text. -/
theorem plain_string_recovered_iff (masterKey iv userKey : List UInt8) (stretched : SymmetricKey)
    (stretches : stretchKey crypto masterKey = .ok stretched)
    (encKey : stretched.encKey.length = 32) (master : masterKey.length = 32)
    (vector : iv.length = 16) (whole : userKey.length = 64) :
    Recovers crypto (encryption.plainString masterKey iv userKey) masterKey userKey ↔
      ∀ text, Padded text (crypto.aes256CbcDecrypt stretched.encKey iv
        (encryption.ciphertext masterKey iv userKey)) → text = userKey := by
  have parsed := parse_plain_string encryption masterKey iv userKey
  rw [recovers_iff _ masterKey userKey _ stretched parsed stretches whole]
  have blocks := ciphertext_blocks encryption masterKey iv userKey master vector
  have untyped : encTypeAesCbc256B64 ≠ encTypeAesCbc256HmacSha256B64 := by decide
  have aligned : 16 ∣ (crypto.aes256CbcDecrypt stretched.encKey iv
      (encryption.ciphertext masterKey iv userKey)).length := by
    rw [encryption.decrypt_length _ _ _ encKey vector blocks.2]
    exact blocks.2
  -- what the first attempt makes of the blocks
  have attempt : ∀ text,
      CipherString.decrypt crypto
          ⟨encTypeAesCbc256B64, iv, encryption.ciphertext masterKey iv userKey, []⟩ stretched =
        .ok text ↔
      Padded text (crypto.aes256CbcDecrypt stretched.encKey iv
        (encryption.ciphertext masterKey iv userKey)) := by
    intro text
    rw [decrypt_ok_iff, ← unpad_iff _ _ aligned]
    exact ⟨fun parts => parts.2.2.2.2,
      fun unpadded => ⟨vector, blocks, fun typed => absurd typed untyped, encKey, unpadded⟩⟩
  have legacy := (decrypt_ok_iff crypto
    ⟨encTypeAesCbc256B64, iv, encryption.ciphertext masterKey iv userKey, []⟩ ⟨masterKey, []⟩
    userKey).mpr ⟨vector, blocks, fun typed => absurd typed untyped, master,
      unpad_ciphertext encryption masterKey iv userKey master vector⟩
  simp only [← attempt]
  unfold decryptStretchedOrLegacy
  cases tried : CipherString.decrypt crypto
      ⟨encTypeAesCbc256B64, iv, encryption.ciphertext masterKey iv userKey, []⟩ stretched with
  | ok text => simp
  | error halt =>
    cases halt with
    | panic => exact absurd tried (decrypt_total crypto _ stretched)
    | err error => simp [legacy]

/-- For every master key, user key and initialization vector, both schemes give the user
key back if and only if the blocks of the old scheme, decrypted under the stretched key,
are not another text with its padding. -/
theorem user_key_recovered_iff (masterKey iv userKey : List UInt8) (master : masterKey.length = 32)
    (vector : iv.length = 16) (whole : userKey.length = 64) :
    ∃ stretched, stretchKey crypto masterKey = .ok stretched ∧
      (Recovers crypto (encryption.macString stretched iv userKey) masterKey userKey ∧
          Recovers crypto (encryption.plainString masterKey iv userKey) masterKey userKey ↔
        ∀ text, Padded text (crypto.aes256CbcDecrypt stretched.encKey iv
          (encryption.ciphertext masterKey iv userKey)) → text = userKey) := by
  obtain ⟨stretched, stretches, encKey, macKey⟩ := stretch_ok encryption masterKey master
  refine ⟨stretched, stretches, ?_⟩
  rw [← plain_string_recovered_iff encryption masterKey iv userKey stretched stretches encKey master
    vector whole]
  exact and_iff_right (mac_string_recovered encryption masterKey iv userKey stretched stretches
    encKey macKey vector whole)

end

/-! ## The sample account -/

def sampleMasterKey : List UInt8 :=
  samplePrimitives.pbkdf2HmacSha256 "secret" "ops@example.org" 600000

def sampleKeyBytes : List UInt8 := sampleKey.encKey ++ sampleKey.macKey

/-- The encryption key that the sample master key is stretched to. -/
def sampleStretchedKey : List UInt8 :=
  (samplePrimitives.hkdfExpand sampleMasterKey "enc".toUTF8.toList 32).getD []

/-- The sample user key under the stretched key with a zero initialization vector. -/
def modernBlocks : List UInt8 :=
  [255, 67, 183, 250, 206, 86, 39, 14, 60, 78, 91, 61, 3, 221, 17, 186, 102, 102, 54, 94, 185, 169,
    104, 16, 179, 246, 8, 234, 62, 68, 130, 206, 133, 105, 208, 39, 113, 118, 182, 198, 179, 239,
    175, 122, 123, 218, 0, 5, 205, 25, 201, 38, 24, 225, 240, 69, 82, 210, 124, 150, 118, 158, 142,
    166, 199, 139, 185, 114, 171, 57, 197, 107, 47, 215, 241, 10, 106, 50, 58, 123]

/-- The sample user key under the master key with a zero initialization vector, and what
the stretched key makes of it. -/
def legacyBlocks : List UInt8 :=
  [74, 130, 229, 205, 204, 26, 203, 51, 102, 65, 224, 63, 75, 170, 208, 118, 140, 186, 195, 91, 186,
    223, 226, 199, 254, 33, 110, 206, 233, 239, 212, 17, 49, 196, 232, 190, 241, 100, 230, 120, 27,
    153, 24, 66, 144, 168, 214, 255, 44, 27, 219, 160, 206, 0, 163, 44, 151, 14, 176, 57, 179, 194,
    30, 164, 33, 200, 232, 79, 66, 162, 151, 120, 220, 48, 28, 33, 73, 118, 89, 67]

def legacyGarbled : List UInt8 :=
  [2, 211, 247, 90, 80, 230, 115, 141, 75, 19, 163, 187, 82, 204, 191, 34, 149, 162, 226, 81, 169,
    233, 129, 107, 177, 54, 36, 226, 120, 36, 25, 138, 161, 96, 35, 190, 2, 54, 164, 95, 116, 200,
    245, 27, 229, 101, 217, 3, 81, 157, 140, 115, 102, 44, 210, 218, 0, 158, 181, 205, 5, 124, 245,
    116, 161, 216, 71, 29, 237, 216, 98, 129, 57, 97, 222, 90, 108, 0, 59, 185]

/-- An initialization vector under which what the stretched key makes of the blocks ends
in the byte 1. -/
def unluckyVector : List UInt8 := 0 :: 43 :: List.replicate 14 0

def unluckyBlocks : List UInt8 :=
  [31, 232, 74, 229, 102, 49, 113, 132, 54, 113, 8, 48, 148, 155, 248, 152, 68, 241, 54, 75, 55,
    108, 176, 20, 247, 43, 94, 136, 12, 185, 198, 139, 144, 75, 127, 131, 97, 237, 159, 198, 204,
    81, 197, 246, 146, 195, 251, 117, 28, 118, 116, 172, 71, 27, 78, 237, 173, 141, 44, 94, 229, 137,
    223, 218, 210, 236, 177, 142, 204, 12, 145, 14, 21, 149, 182, 72, 5, 77, 175, 223]

def unluckyGarbled : List UInt8 :=
  [47, 238, 2, 114, 85, 124, 82, 178, 57, 95, 242, 118, 147, 30, 130, 195, 255, 91, 151, 62, 189,
    209, 205, 137, 175, 42, 215, 133, 11, 112, 231, 62, 244, 42, 249, 54, 28, 58, 112, 50, 33, 149,
    80, 138, 250, 194, 96, 113, 113, 48, 62, 12, 133, 0, 250, 235, 31, 139, 95, 98, 112, 244, 206,
    209, 238, 122, 14, 201, 146, 123, 36, 161, 5, 45, 151, 166, 117, 187, 196, 1]

/-- A block cipher as a permutation for each key and initialization vector, with the true
values on the sample blocks. -/
def sampleCipher (key iv : List UInt8) : Equiv.Perm (List UInt8) :=
  if iv = unluckyVector then
    if key = sampleMasterKey then Equiv.swap unluckyBlocks (pad sampleKeyBytes)
    else if key = sampleStretchedKey then Equiv.swap unluckyBlocks unluckyGarbled
    else Equiv.refl _
  else if key = sampleMasterKey then Equiv.swap legacyBlocks (pad sampleKeyBytes)
  else if key = sampleStretchedKey then
    (Equiv.swap legacyBlocks legacyGarbled).trans (Equiv.swap modernBlocks (pad sampleKeyBytes))
  else Equiv.refl _

/-- The sample primitives with base64, with that block cipher, and with an HKDF for
every length. -/
def keyPrimitives : Primitives Unit :=
  { samplePrimitives with
    decodeBase64 := fun part => match Base64.decode part with
      | some bytes => .ok bytes
      | none => .error "Invalid symbol"
    aes256CbcDecrypt := fun key iv data => sampleCipher key iv data
    hkdfExpand := fun prk info length =>
      some (((samplePrimitives.hkdfExpand prk info 32).getD [] ++
        List.replicate length 0).take length) }

theorem swap_length (left right data : List UInt8) (same : left.length = right.length) :
    (Equiv.swap left right data).length = data.length := by
  rw [Equiv.swap_apply_def]
  split_ifs with isLeft isRight
  · rw [isLeft, same]
  · rw [isRight, same]
  · rfl

theorem sample_cipher_length (key iv data : List UInt8) :
    (sampleCipher key iv data).length = data.length := by
  unfold sampleCipher
  split_ifs
  · exact swap_length _ _ data (by decide +kernel)
  · exact swap_length _ _ data (by decide +kernel)
  · rfl
  · exact swap_length _ _ data (by decide +kernel)
  · exact (swap_length _ _ _ (by decide +kernel)).trans (swap_length _ _ data (by decide))
  · rfl

def sampleEncryption : Encryption keyPrimitives where
  encodeBase64 := Base64.encode
  aes256CbcEncrypt key iv data := (sampleCipher key iv).symm data
  decode_encode bytes := by simp only [keyPrimitives, Base64.decode_encode]
  no_separator bytes member := by
    rcases Base64.mem_encode bytes '|' member with digit | padding
    · exact absurd digit (by decide)
    · exact absurd padding (by decide)
  decrypt_encrypt key iv data _ _ _ := Equiv.apply_symm_apply (sampleCipher key iv) data
  encrypt_length key iv data _ _ _ := by
    rw [← sample_cipher_length key iv, Equiv.apply_symm_apply]
  decrypt_length key iv data _ _ _ := sample_cipher_length key iv data
  from_prk prk long := decide_eq_true long
  expand prk info length _ _ := ⟨_, rfl, by simp⟩

/-- The stored key of the sample account is the string of type 2. -/
example : sampleEncryption.macString
    ⟨sampleStretchedKey, (samplePrimitives.hkdfExpand sampleMasterKey [] 32).getD []⟩
    (List.replicate 16 0) sampleKeyBytes = sampleUserKey := by
  decide +kernel

theorem user_key_recovered_iff_sample :
    ∃ stretched, stretchKey keyPrimitives sampleMasterKey = .ok stretched ∧
      (Recovers keyPrimitives
            (sampleEncryption.macString stretched (List.replicate 16 0) sampleKeyBytes)
            sampleMasterKey sampleKeyBytes ∧
          Recovers keyPrimitives
            (sampleEncryption.plainString sampleMasterKey (List.replicate 16 0) sampleKeyBytes)
            sampleMasterKey sampleKeyBytes ↔
        ∀ text, Padded text (keyPrimitives.aes256CbcDecrypt stretched.encKey (List.replicate 16 0)
          (sampleEncryption.ciphertext sampleMasterKey (List.replicate 16 0) sampleKeyBytes)) →
            text = sampleKeyBytes) :=
  user_key_recovered_iff sampleEncryption sampleMasterKey (List.replicate 16 0) sampleKeyBytes
    (by decide) (by decide) (by decide)

/-- With the unlucky vector the old account cannot log in: 79 bytes of garbage pass for
the key. -/
theorem unlucky_vector_not_recovered :
    sampleMasterKey.length = 32 ∧ sampleKeyBytes.length = 64 ∧ unluckyVector.length = 16 ∧
      decryptSymmetricKey keyPrimitives
          (sampleEncryption.plainString sampleMasterKey unluckyVector sampleKeyBytes)
          sampleMasterKey = .error (.err (.symKeyLength 79)) ∧
      ¬ Recovers keyPrimitives
          (sampleEncryption.plainString sampleMasterKey unluckyVector sampleKeyBytes)
          sampleMasterKey sampleKeyBytes := by
  have failed : decryptSymmetricKey keyPrimitives
      (sampleEncryption.plainString sampleMasterKey unluckyVector sampleKeyBytes)
      sampleMasterKey = .error (.err (.symKeyLength 79)) := by
    have parsed := parse_plain_string sampleEncryption sampleMasterKey unluckyVector sampleKeyBytes
    rw [decryptSymmetricKey, if_neg (parsed_nonempty _ _ parsed), parsed]
    decide +kernel
  refine ⟨by decide, by decide, by decide, failed, ?_⟩
  intro recovered
  rw [Recovers, failed] at recovered
  cases recovered

end VaultwardenOperator.UserKey
