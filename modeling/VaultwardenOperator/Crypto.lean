import VaultwardenOperator.Rust
import Mathlib.Data.Nat.Notation

/-!
# Cipher strings and keys

The parsing, authentication and padding logic of the Bitwarden cipher strings,
with the cryptographic primitives as parameters: base64, HMAC, AES-CBC, RSA-OAEP,
PKCS8, HKDF and the password KDFs come from crates outside the repository. They
are arbitrary functions here; a result that needs one of their laws says so.

A primitive returns the text of its error. Everything else, the order of the
checks included, follows the source.
-/

namespace VaultwardenOperator.Crypto

open Rust

/-- The primitives that the crypto crates supply, over their RSA key type. -/
structure Primitives (RsaPrivateKey : Type) where
  /-- `BASE64.decode` of the standard padded alphabet -/
  decodeBase64 : List Char → Except String (List UInt8)
  /-- HMAC-SHA256 of a message under a key of any length -/
  hmacSha256 : List UInt8 → List UInt8 → List UInt8
  /-- AES-256-CBC decryption of whole blocks: key, initialization vector, ciphertext -/
  aes256CbcDecrypt : List UInt8 → List UInt8 → List UInt8 → List UInt8
  /-- RSA-OAEP decryption with SHA-256 -/
  rsaOaepSha256 : RsaPrivateKey → List UInt8 → Except String (List UInt8)
  /-- RSA-OAEP decryption with SHA-1 -/
  rsaOaepSha1 : RsaPrivateKey → List UInt8 → Except String (List UInt8)
  /-- `RsaPrivateKey::from_pkcs8_der` -/
  fromPkcs8Der : List UInt8 → Except String RsaPrivateKey
  /-- whether `Hkdf::from_prk` accepts the key material -/
  hkdfFromPrk : List UInt8 → Bool
  /-- `Hkdf::expand` of accepted key material: info and output length -/
  hkdfExpand : List UInt8 → List UInt8 → Nat → Option (List UInt8)
  /-- PBKDF2-HMAC-SHA256 to 32 bytes: password, salt, iterations -/
  pbkdf2HmacSha256 : String → String → UInt32 → List UInt8
  /-- `argon2::Params::new`: memory in KiB, iterations, parallelism -/
  argon2Params : UInt32 → UInt32 → UInt32 → Except String Unit
  /-- Argon2id to 32 bytes: memory in KiB, iterations, parallelism, password, salt -/
  argon2id : UInt32 → UInt32 → UInt32 → String → String → Except String (List UInt8)

inductive CryptoError where
  | empty
  | format (message : String)
  | unsupportedType (encType : UInt8)
  | base64 (message : String)
  | invalidIv (length : Nat)
  | invalidCiphertext (length : Nat)
  | macKeyMissing
  | macMismatch
  | pkcs7 (message : String)
  | notRsa (encType : UInt8)
  | rsa (message : String)
  | pkcs8 (message : String)
  | orgKeyLength (length : Nat)
  | symKeyLength (length : Nat)
  | kdf (message : String)
  | hkdf
  | emptyKey
deriving DecidableEq

/-- The `Display` texts. -/
def CryptoError.display : CryptoError → String
  | .empty => "empty cipher string"
  | .format message => s!"invalid cipher string format: {message}"
  | .unsupportedType encType => s!"unsupported encryption type: {encType}"
  | .base64 message => s!"base64 decode error: {message}"
  | .invalidIv length => s!"invalid IV length: expected 16, got {length}"
  | .invalidCiphertext length => s!"invalid ciphertext length: {length}"
  | .macKeyMissing => "MAC key required for type 2 decryption"
  | .macMismatch => "MAC verification failed"
  | .pkcs7 message => s!"PKCS7 unpad error: {message}"
  | .notRsa encType => s!"not an RSA cipher type: {encType}"
  | .rsa message => s!"RSA decrypt error: {message}"
  | .pkcs8 message => s!"PKCS8 parse error: {message}"
  | .orgKeyLength length => s!"unexpected org key length: expected 64, got {length}"
  | .symKeyLength length => s!"unexpected symmetric key length: expected 64, got {length}"
  | .kdf message => s!"KDF error: {message}"
  | .hkdf => "HKDF expand error"
  | .emptyKey => "empty encrypted key"

/-- An encryption key and a MAC key; both are 32 bytes long in a full key. -/
structure SymmetricKey where
  encKey : List UInt8
  macKey : List UInt8
deriving DecidableEq

/-- A parsed cipher string. Absent parts are empty. -/
structure CipherString where
  encType : UInt8
  iv : List UInt8
  ct : List UInt8
  mac : List UInt8
deriving DecidableEq

def encTypeAesCbc256B64 : UInt8 := 0
def encTypeAesCbc256HmacSha256B64 : UInt8 := 2
def encTypeRsa2048OaepSha256B64 : UInt8 := 3
def encTypeRsa2048OaepSha1B64 : UInt8 := 4

def kdfPbkdf2 : UInt32 := 0
def kdfArgon2id : UInt32 := 1

section
variable {RsaPrivateKey : Type} (crypto : Primitives RsaPrivateKey)

/-- `BASE64.decode(..)?` -/
def decodePart (part : List Char) : Except CryptoError (List UInt8) :=
  (crypto.decodeBase64 part).mapError .base64

/-- The parts of a cipher string after its type. -/
def CipherString.parseParts (encType : UInt8) (rest : List Char) :
    Except CryptoError CipherString :=
  if encType = encTypeAesCbc256B64 then
    let parts := splitn '|' 3 rest
    match parts with
    | [iv, ct] => do
      let iv ← decodePart crypto iv
      let ct ← decodePart crypto ct
      pure ⟨encType, iv, ct, []⟩
    | _ => .error (.format s!"AesCbc256_B64 expects 2 parts, got {parts.length}")
  else if encType = encTypeAesCbc256HmacSha256B64 then
    let parts := splitn '|' 4 rest
    match parts with
    | [iv, ct, mac] => do
      let iv ← decodePart crypto iv
      let ct ← decodePart crypto ct
      let mac ← decodePart crypto mac
      pure ⟨encType, iv, ct, mac⟩
    | _ => .error (.format s!"AesCbc256_HmacSha256_B64 expects 3 parts, got {parts.length}")
  else if encType = encTypeRsa2048OaepSha256B64 ∨ encType = encTypeRsa2048OaepSha1B64 then do
    -- stray separators are removed and the pieces rejoined
    let ct ← decodePart crypto (rest.filter (· ≠ '|'))
    pure ⟨encType, [], ct, []⟩
  else .error (.unsupportedType encType)

/-- `CipherString::parse`. -/
def CipherString.parse (s : String) : Except CryptoError CipherString :=
  if s = "" then .error .empty
  else match splitOnce '.' s.toList with
    | none => .error (.format "missing type separator")
    | some (typeText, rest) =>
      match parseUnsigned 256 typeText with
      | none =>
        let typeStr := String.ofList typeText
        .error (.format s!"invalid type: {typeStr}")
      | some encType => CipherString.parseParts crypto (UInt8.ofNat encType) rest

/-- `pkcs7_unpad`. The unwrap, the subtraction and the slices are guarded here
where Rust would panic. -/
def pkcs7Unpad (data : List UInt8) (blockSize : Nat) : Call CryptoError (List UInt8) :=
  if data = [] then .error (.err (.pkcs7 "empty data"))
  else if ¬ blockSize ∣ data.length then .error (.err (.pkcs7 "data not block-aligned"))
  else match data.getLast? with
    | none => .error .panic
    | some last =>
      let padLen := last.toNat
      if padLen = 0 ∨ padLen > blockSize then
        .error (.err (.pkcs7 s!"invalid padding length: {padLen}"))
      else if data.length < padLen then .error .panic
      else
        let padStart := data.length - padLen
        if ¬ (data.drop padStart).all (fun byte => byte.toNat = padLen) then
          .error (.err (.pkcs7 "invalid PKCS7 padding bytes"))
        else .ok (data.take padStart)

/-- `CipherString::decrypt`: lengths, then the MAC for type 2, then the block
cipher, then the padding. -/
def CipherString.decrypt (cipher : CipherString) (key : SymmetricKey) :
    Call CryptoError (List UInt8) :=
  if cipher.iv.length ≠ 16 then .error (.err (.invalidIv cipher.iv.length))
  else if cipher.ct = [] ∨ ¬ 16 ∣ cipher.ct.length then
    .error (.err (.invalidCiphertext cipher.ct.length))
  else if cipher.encType = encTypeAesCbc256HmacSha256B64 ∧ key.macKey = [] then
    .error (.err .macKeyMissing)
  else if cipher.encType = encTypeAesCbc256HmacSha256B64 ∧
      crypto.hmacSha256 key.macKey (cipher.iv ++ cipher.ct) ≠ cipher.mac then
    .error (.err .macMismatch)
  else if key.encKey.length ≠ 32 then .error (.err (.format "enc_key must be 32 bytes"))
  else pkcs7Unpad (crypto.aes256CbcDecrypt key.encKey cipher.iv cipher.ct) 16

/-- `String::from_utf8`. -/
def fromUtf8 (bytes : List UInt8) : Option String := String.fromUTF8? ⟨bytes.toArray⟩

/-- `CipherString::decrypt_to_string`. The error text leaves out the position that
the UTF-8 error reports. -/
def CipherString.decryptToString (cipher : CipherString) (key : SymmetricKey) :
    Call CryptoError String := do
  let bytes ← cipher.decrypt crypto key
  okOr (.format "UTF-8 decode") (fromUtf8 bytes)

/-- `CipherString::decrypt_rsa`. -/
def CipherString.decryptRsa (cipher : CipherString) (privateKey : RsaPrivateKey) :
    Except CryptoError (List UInt8) :=
  if cipher.encType = encTypeRsa2048OaepSha256B64 then
    (crypto.rsaOaepSha256 privateKey cipher.ct).mapError .rsa
  else if cipher.encType = encTypeRsa2048OaepSha1B64 then
    (crypto.rsaOaepSha1 privateKey cipher.ct).mapError .rsa
  else .error (.notRsa cipher.encType)

/-- `decrypt_str`: the empty string decrypts to itself. -/
def decryptStr (s : String) (key : SymmetricKey) : Call CryptoError String :=
  if s = "" then .ok ""
  else do
    let cipher ← returned (CipherString.parse crypto s)
    cipher.decryptToString crypto key

/-- The two halves of a decrypted 64-byte key, sliced at byte 32. -/
def keyHalves (wrongLength : Nat → CryptoError) (decrypted : List UInt8) :
    Call CryptoError SymmetricKey :=
  if decrypted.length ≠ 64 then .error (.err (wrongLength decrypted.length))
  else if decrypted.length < 32 then .error .panic
  else .ok ⟨decrypted.take 32, decrypted.drop 32⟩

/-- `stretch_key`: HKDF-Expand under the labels `enc` and `mac`. -/
def stretchKey (masterKey : List UInt8) : Except CryptoError SymmetricKey :=
  if crypto.hkdfFromPrk masterKey = false then .error .hkdf
  else match crypto.hkdfExpand masterKey "enc".toUTF8.toList 32 with
    | none => .error .hkdf
    | some encKey =>
      match crypto.hkdfExpand masterKey "mac".toUTF8.toList 32 with
      | none => .error .hkdf
      | some macKey => .ok ⟨encKey, macKey⟩

/-- The attempt under the stretched key and, after any error, the attempt under the
master key itself without a MAC key. -/
def decryptStretchedOrLegacy (cipher : CipherString) (stretched : SymmetricKey)
    (masterKey : List UInt8) : Call CryptoError (List UInt8) :=
  match cipher.decrypt crypto stretched with
  | .ok decrypted => .ok decrypted
  | .error .panic => .error .panic
  | .error (.err _) =>
    match cipher.decrypt crypto ⟨masterKey, []⟩ with
    | .ok decrypted => .ok decrypted
    | .error .panic => .error .panic
    | .error (.err _) =>
      .error (.err (.format "decrypt symmetric key (tried stretched + legacy)"))

/-- `decrypt_symmetric_key`. -/
def decryptSymmetricKey (encryptedKey : String) (masterKey : List UInt8) :
    Call CryptoError SymmetricKey :=
  if encryptedKey = "" then .error (.err .emptyKey)
  else do
    let cipher ← returned (CipherString.parse crypto encryptedKey)
    let stretched ← returned (stretchKey crypto masterKey)
    let decrypted ← decryptStretchedOrLegacy crypto cipher stretched masterKey
    keyHalves .symKeyLength decrypted

/-- `decrypt_private_key`. -/
def decryptPrivateKey (encryptedPrivateKey : String) (symKey : SymmetricKey) :
    Call CryptoError RsaPrivateKey :=
  if encryptedPrivateKey = "" then .error (.err .emptyKey)
  else do
    let cipher ← returned (CipherString.parse crypto encryptedPrivateKey)
    let derBytes ← cipher.decrypt crypto symKey
    returned ((crypto.fromPkcs8Der derBytes).mapError .pkcs8)

/-- `decrypt_org_key`. -/
def decryptOrgKey (encryptedOrgKey : String) (privateKey : RsaPrivateKey) :
    Call CryptoError SymmetricKey :=
  if encryptedOrgKey = "" then .error (.err .emptyKey)
  else do
    let cipher ← returned (CipherString.parse crypto encryptedOrgKey)
    let decrypted ← returned (cipher.decryptRsa crypto privateKey)
    keyHalves .orgKeyLength decrypted

/-- `make_master_key`. The product of memory and 1024 is taken in 32 bits. -/
def makeMasterKey (unicode : UnicodeTables) (password email : String) (kdfType iterations : UInt32)
    (memoryMib parallelism : Option UInt32) : Except CryptoError (List UInt8) :=
  let salt := unicode.toLowercase (String.ofList (trim email.toList))
  if kdfType = kdfPbkdf2 then
    if iterations < 1 then
      .error (.kdf s!"PBKDF2 iterations must be >= 1, got {iterations}")
    else .ok (crypto.pbkdf2HmacSha256 password salt iterations)
  else if kdfType = kdfArgon2id then
    let memKib := memoryMib.getD 64 * 1024
    let par := parallelism.getD 4
    match crypto.argon2Params memKib iterations par with
    | .error message => .error (.kdf s!"argon2 params: {message}")
    | .ok () =>
      match crypto.argon2id memKib iterations par password salt with
      | .error message => .error (.kdf s!"argon2 hash: {message}")
      | .ok key => .ok key
  else .error (.kdf s!"unsupported KDF type: {kdfType}")

/-! ## What is accepted -/

/-- What a string that parses can be: only type 2 has a MAC, and the RSA types have no
initialization vector. -/
theorem parse_parts_cases (encType : UInt8) (rest : List Char) (cipher : CipherString)
    (parsed : CipherString.parseParts crypto encType rest = .ok cipher) :
    (cipher.encType = encTypeAesCbc256B64 ∧ cipher.mac = []) ∨
      cipher.encType = encTypeAesCbc256HmacSha256B64 ∨ cipher.iv = [] := by
  unfold CipherString.parseParts at parsed
  split_ifs at parsed with plain authenticated rsa
  · dsimp only at parsed
    split at parsed
    · simp only [bind_ok_iff] at parsed
      obtain ⟨iv, -, ct, -, built⟩ := parsed
      cases built
      exact .inl ⟨plain, rfl⟩
    · cases parsed
  · dsimp only at parsed
    split at parsed
    · simp only [bind_ok_iff] at parsed
      obtain ⟨iv, -, ct, -, mac, -, built⟩ := parsed
      cases built
      exact .inr (.inl authenticated)
    · cases parsed
  · simp only [bind_ok_iff] at parsed
    obtain ⟨ct, -, built⟩ := parsed
    cases built
    exact .inr (.inr rfl)

/-- A string that parses has a type, and parts that are read. -/
theorem parse_inv (s : String) (cipher : CipherString)
    (parsed : CipherString.parse crypto s = .ok cipher) :
    ∃ typeText rest code, splitOnce '.' s.toList = some (typeText, rest) ∧
      parseUnsigned 256 typeText = some code ∧
      CipherString.parseParts crypto (UInt8.ofNat code) rest = .ok cipher := by
  unfold CipherString.parse at parsed
  split_ifs at parsed
  split at parsed
  · cases parsed
  · rename_i typeText rest split
    split at parsed
    · cases parsed
    · rename_i code typed
      exact ⟨typeText, rest, code, split, typed, parsed⟩

theorem parse_cases (s : String) (cipher : CipherString)
    (parsed : CipherString.parse crypto s = .ok cipher) :
    (cipher.encType = encTypeAesCbc256B64 ∧ cipher.mac = []) ∨
      cipher.encType = encTypeAesCbc256HmacSha256B64 ∨ cipher.iv = [] := by
  obtain ⟨typeText, rest, code, -, -, parts⟩ := parse_inv crypto s cipher parsed
  exact parse_parts_cases crypto _ rest cipher parts

/-- What is unpadded ends in as many bytes as the last of them says, at most a block. -/
theorem pkcs7_unpad_ok_iff (data bytes : List UInt8) (blockSize : Nat) :
    pkcs7Unpad data blockSize = .ok bytes ↔
      blockSize ∣ data.length ∧ ∃ last : UInt8, 0 < last.toNat ∧ last.toNat ≤ blockSize ∧
        data = bytes ++ List.replicate last.toNat last := by
  constructor
  · intro unpadded
    unfold pkcs7Unpad at unpadded
    split_ifs at unpadded with vacant aligned
    split at unpadded
    · cases unpadded
    · rename_i last ends
      dsimp only at unpadded
      split_ifs at unpadded with invalid short same
      cases unpadded
      refine ⟨aligned, last, by omega, by omega, ?_⟩
      have padding : data.drop (data.length - last.toNat) = List.replicate last.toNat last := by
        rw [List.eq_replicate_iff, List.length_drop]
        refine ⟨by omega, fun byte member => ?_⟩
        have isLast := List.all_eq_true.mp same byte member
        exact UInt8.toNat_inj.mp (by simpa using isLast)
      rw [← padding, List.take_append_drop]
  · rintro ⟨aligned, last, positive, bounded, rfl⟩
    obtain ⟨count, counted⟩ := Nat.exists_eq_succ_of_ne_zero (Nat.ne_of_gt positive)
    have vacant : bytes ++ List.replicate last.toNat last ≠ [] := by simp [counted]
    have ends : (bytes ++ List.replicate last.toNat last).getLast? = some last := by
      simp [List.getLast?_append, List.getLast?_replicate, counted]
    have start : (bytes ++ List.replicate last.toNat last).length - last.toNat = bytes.length := by
      simp
    have valid : ¬ (last.toNat = 0 ∨ last.toNat > blockSize) := by omega
    have long : ¬ (bytes ++ List.replicate last.toNat last).length < last.toNat := by simp
    simp only [pkcs7Unpad, if_neg vacant, if_neg (not_not.mpr aligned), ends, if_neg valid,
      if_neg long, start, List.drop_left, List.take_left]
    rw [if_neg (by simp)]

/-- When a parsed string decrypts: the lengths are right, the MAC of type 2 is right, and
the decrypted blocks end in padding. -/
theorem decrypt_ok_iff (cipher : CipherString) (key : SymmetricKey) (bytes : List UInt8) :
    cipher.decrypt crypto key = .ok bytes ↔
      cipher.iv.length = 16 ∧ (cipher.ct ≠ [] ∧ 16 ∣ cipher.ct.length) ∧
      (cipher.encType = encTypeAesCbc256HmacSha256B64 → key.macKey ≠ [] ∧
        crypto.hmacSha256 key.macKey (cipher.iv ++ cipher.ct) = cipher.mac) ∧
      key.encKey.length = 32 ∧
      pkcs7Unpad (crypto.aes256CbcDecrypt key.encKey cipher.iv cipher.ct) 16 = .ok bytes := by
  unfold CipherString.decrypt
  split_ifs with iv ct unkeyed forged encKey
  · simp [iv]
  · have malformed : ¬ (cipher.ct ≠ [] ∧ 16 ∣ cipher.ct.length) := by tauto
    simp only [malformed, false_and, and_false]
  · simp [unkeyed]
  · simp [forged]
  · simp [encKey]
  · have wellFormed : cipher.ct ≠ [] ∧ 16 ∣ cipher.ct.length := by tauto
    have authentic : cipher.encType = encTypeAesCbc256HmacSha256B64 → key.macKey ≠ [] ∧
        crypto.hmacSha256 key.macKey (cipher.iv ++ cipher.ct) = cipher.mac := by tauto
    constructor
    · intro unpadded
      exact ⟨not_not.mp iv, wellFormed, authentic, not_not.mp encKey, unpadded⟩
    · rintro ⟨-, -, -, -, unpadded⟩
      exact unpadded

/-- When a string that is not empty decrypts: it parses, its blocks decrypt, and their
text is UTF-8. -/
theorem decrypt_str_ok_iff (s : String) (key : SymmetricKey) (text : String) (nonempty : s ≠ "") :
    decryptStr crypto s key = .ok text ↔
      ∃ cipher, CipherString.parse crypto s = .ok cipher ∧
        ∃ bytes, cipher.decrypt crypto key = .ok bytes ∧ fromUtf8 bytes = some text := by
  simp only [decryptStr, if_neg nonempty, CipherString.decryptToString, bind_ok_iff,
    returned_ok_iff, ok_or_ok_iff]

/-- A key has two halves of 32 bytes. -/
theorem key_halves_ok_iff (wrongLength : Nat → CryptoError) (decrypted : List UInt8)
    (key : SymmetricKey) :
    keyHalves wrongLength decrypted = .ok key ↔
      decrypted.length = 64 ∧ key = ⟨decrypted.take 32, decrypted.drop 32⟩ := by
  unfold keyHalves
  split_ifs with length short
  · simp [length]
  · omega
  · rw [Except.ok.injEq, eq_comm]
    exact (and_iff_right (not_not.mp length)).symm

/-! ## No panic -/

/-- Unpadding reaches neither the unwrap nor a slice outside its buffer: the
padding is at most one block, and an aligned buffer that is not empty has one. -/
theorem pkcs7_unpad_total (data : List UInt8) (blockSize : Nat) :
    pkcs7Unpad data blockSize ≠ .error .panic := by
  by_cases vacant : data = []
  · simp [pkcs7Unpad, vacant]
  by_cases aligned : blockSize ∣ data.length
  · have positive : 0 < data.length := List.length_pos_iff.mpr vacant
    have oneBlock : blockSize ≤ data.length := Nat.le_of_dvd positive aligned
    have ends : data.getLast? = some (data.getLast vacant) := List.getLast?_eq_some_getLast vacant
    simp only [pkcs7Unpad, vacant, aligned, ends, if_false, not_true_eq_false]
    by_cases invalid : (data.getLast vacant).toNat = 0 ∨ (data.getLast vacant).toNat > blockSize
    · simp [invalid]
    · have inside : ¬ data.length < (data.getLast vacant).toNat := by omega
      simp only [invalid, inside, if_false]
      split <;> simp
  · simp [pkcs7Unpad, vacant, aligned]

theorem decrypt_total (cipher : CipherString) (key : SymmetricKey) :
    cipher.decrypt crypto key ≠ .error .panic := by
  unfold CipherString.decrypt
  split_ifs
  case neg => exact pkcs7_unpad_total _ 16
  all_goals simp

theorem key_halves_total (wrongLength : Nat → CryptoError) (decrypted : List UInt8) :
    keyHalves wrongLength decrypted ≠ .error .panic := by
  by_cases whole : decrypted.length = 64
  · simp [keyHalves, whole]
  · simp [keyHalves, whole]

/-- `decrypt_str` returns or fails, whatever the string and the key. -/
theorem decrypt_str_total (s : String) (key : SymmetricKey) :
    decryptStr crypto s key ≠ .error .panic := by
  unfold decryptStr
  split_ifs
  · simp
  · refine bind_total _ _ (returned_total _) (fun cipher => ?_)
    exact bind_total _ _ (decrypt_total crypto cipher key) (fun bytes => ok_or_total _ _)

theorem decrypt_private_key_total (encryptedPrivateKey : String) (symKey : SymmetricKey) :
    decryptPrivateKey crypto encryptedPrivateKey symKey ≠ .error .panic := by
  unfold decryptPrivateKey
  split_ifs
  · simp
  · refine bind_total _ _ (returned_total _) (fun cipher => ?_)
    exact bind_total _ _ (decrypt_total crypto cipher symKey) (fun derBytes => returned_total _)

theorem decrypt_stretched_or_legacy_total (cipher : CipherString) (stretched : SymmetricKey)
    (masterKey : List UInt8) :
    decryptStretchedOrLegacy crypto cipher stretched masterKey ≠ .error .panic := by
  unfold decryptStretchedOrLegacy
  split
  · simp
  · rename_i panicked
    exact absurd panicked (decrypt_total crypto cipher stretched)
  · split
    · simp
    · rename_i panicked
      exact absurd panicked (decrypt_total crypto cipher ⟨masterKey, []⟩)
    · simp

theorem decrypt_symmetric_key_total (encryptedKey : String) (masterKey : List UInt8) :
    decryptSymmetricKey crypto encryptedKey masterKey ≠ .error .panic := by
  unfold decryptSymmetricKey
  split_ifs
  · simp
  · refine bind_total _ _ (returned_total _) (fun cipher => ?_)
    refine bind_total _ _ (returned_total _) (fun stretched => ?_)
    exact bind_total _ _ (decrypt_stretched_or_legacy_total crypto cipher stretched masterKey)
      (fun decrypted => key_halves_total _ decrypted)

theorem decrypt_org_key_total (encryptedOrgKey : String) (privateKey : RsaPrivateKey) :
    decryptOrgKey crypto encryptedOrgKey privateKey ≠ .error .panic := by
  unfold decryptOrgKey
  split_ifs
  · simp
  · refine bind_total _ _ (returned_total _) (fun cipher => ?_)
    exact bind_total _ _ (returned_total _) (fun decrypted => key_halves_total _ decrypted)

end

/-! ## A concrete instance -/

def sampleKey : SymmetricKey := ⟨List.replicate 32 1, List.replicate 32 2⟩

/-- The encryption of `db` under the sample key with a zero initialization vector. -/
def sampleText : String :=
  "2.AAAAAAAAAAAAAAAAAAAAAA==|JRZjcEhI7FwPstUr+7vSEg==|" ++
    "IW0vFuCAoCsJSYS9YwbulE+4IqcjCn78tIpgC5AbNTM="

/-- The sample key as the server stores it: encrypted under the master key that
PBKDF2 derives from the password `secret` and the salt `ops@example.org` with
600000 iterations. -/
def sampleUserKey : String :=
  "2.AAAAAAAAAAAAAAAAAAAAAA==|/0O3+s5WJw48Tls9A90RumZmNl65qWgQs/YI6j5Egs6FadAncXa2xrPvr3p72gAFzRnJJ" ++
    "hjh8EVS0nyWdp6OpseLuXKrOcVrL9fxCmoyOns=|0rsxo0IoXkSJtpeag6VAyzXxwgUPhpiWcRU9zC1/X04="

/-- The MACs of the two sample strings. -/
def sampleTextMac : List UInt8 :=
  [33, 109, 47, 22, 224, 128, 160, 43, 9, 73, 132, 189, 99, 6, 238, 148, 79, 184, 34, 167,
    35, 10, 126, 252, 180, 138, 96, 11, 144, 27, 53, 51]

def sampleUserKeyMac : List UInt8 :=
  [210, 187, 49, 163, 66, 40, 94, 68, 137, 182, 151, 154, 131, 165, 64, 203, 53, 241, 194, 5,
    15, 134, 152, 150, 113, 21, 61, 204, 45, 127, 95, 78]

/-- Primitives with the true values on the sample strings and the keys behind them.
The base64 parts of these strings are told apart by their first characters. -/
def samplePrimitives : Primitives Unit where
  decodeBase64 part := match part with
    | 'A' :: _ => .ok (List.replicate 16 0)
    | 'J' :: _ => .ok [37, 22, 99, 112, 72, 72, 236, 92, 15, 178, 213, 43, 251, 187, 210, 18]
    | 'I' :: _ => .ok sampleTextMac
    | '/' :: _ => .ok
        [255, 67, 183, 250, 206, 86, 39, 14, 60, 78, 91, 61, 3, 221, 17, 186, 102, 102, 54, 94,
          185, 169, 104, 16, 179, 246, 8, 234, 62, 68, 130, 206, 133, 105, 208, 39, 113, 118, 182,
          198, 179, 239, 175, 122, 123, 218, 0, 5, 205, 25, 201, 38, 24, 225, 240, 69, 82, 210,
          124, 150, 118, 158, 142, 166, 199, 139, 185, 114, 171, 57, 197, 107, 47, 215, 241, 10,
          106, 50, 58, 123]
    | '0' :: _ => .ok sampleUserKeyMac
    | _ => .error "Invalid symbol"
  hmacSha256 key _ :=
    if key = sampleKey.macKey then sampleTextMac
    else if key.head? = some 211 then sampleUserKeyMac
    else []
  aes256CbcDecrypt key _ _ :=
    if key = sampleKey.encKey then [100, 98] ++ List.replicate 14 14
    else sampleKey.encKey ++ sampleKey.macKey ++ List.replicate 16 16
  rsaOaepSha256 _ _ := .error "decryption error"
  rsaOaepSha1 _ _ := .error "decryption error"
  fromPkcs8Der _ := .error "ASN.1 error"
  hkdfFromPrk key := decide (32 ≤ key.length)
  hkdfExpand _ info _ :=
    if info = "enc".toUTF8.toList then some
      [56, 50, 245, 62, 198, 202, 245, 241, 96, 85, 48, 197, 26, 42, 67, 115, 75, 38, 35, 180, 34,
        210, 218, 177, 53, 32, 134, 123, 152, 230, 172, 6]
    else some
      [211, 242, 104, 84, 114, 185, 199, 211, 142, 129, 234, 43, 92, 169, 182, 110, 111, 43, 200,
        169, 222, 114, 219, 93, 5, 41, 6, 175, 130, 149, 222, 24]
  pbkdf2HmacSha256 _ _ _ :=
    [115, 253, 200, 2, 50, 93, 220, 29, 1, 63, 235, 235, 160, 51, 115, 200, 101, 181, 188, 187, 29,
      250, 183, 146, 204, 56, 164, 67, 114, 235, 83, 226]
  argon2Params _ _ _ := .error "invalid parameters"
  argon2id _ _ _ _ _ := .error "invalid parameters"

example : decryptStr samplePrimitives sampleText sampleKey = .ok "db" := by decide +kernel

end VaultwardenOperator.Crypto
