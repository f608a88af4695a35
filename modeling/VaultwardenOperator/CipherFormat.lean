import VaultwardenOperator.UserKey

/-!
# The format of cipher strings

A cipher string is a type, a full stop and the base64 parts of that type, divided by
bars: vector and ciphertext for type 0, a MAC as well for type 2, the ciphertext alone
for the RSA types. Parsing undoes writing. It accepts nothing that differs from what
would be written after the full stop, bars in the RSA types apart; the type itself may
be spelled with a plus sign or leading zeros.

The base64 decoder is assumed to accept exactly the standard padded encodings.
-/

namespace VaultwardenOperator.CipherFormat

open Rust Crypto

/-- The two AES types. -/
def IsAes (encType : UInt8) : Prop :=
  encType = encTypeAesCbc256B64 ∨ encType = encTypeAesCbc256HmacSha256B64

/-- The two RSA types. -/
def IsRsa (encType : UInt8) : Prop :=
  encType = encTypeRsa2048OaepSha256B64 ∨ encType = encTypeRsa2048OaepSha1B64

/-- A cipher string of one of the four types, in which the parts that its type does not
have are empty. -/
structure Canonical (cipher : CipherString) : Prop where
  typed : IsAes cipher.encType ∨ IsRsa cipher.encType
  noMac : cipher.encType ≠ encTypeAesCbc256HmacSha256B64 → cipher.mac = []
  noVector : IsRsa cipher.encType → cipher.iv = []

/-- The parts of a cipher string, as text. -/
def encodeParts (cipher : CipherString) : List Char :=
  if cipher.encType = encTypeAesCbc256B64 then
    Base64.encode cipher.iv ++ '|' :: Base64.encode cipher.ct
  else if cipher.encType = encTypeAesCbc256HmacSha256B64 then
    Base64.encode cipher.iv ++ '|' :: (Base64.encode cipher.ct ++ '|' :: Base64.encode cipher.mac)
  else Base64.encode cipher.ct

/-- The text of a cipher string. -/
def encode (cipher : CipherString) : String :=
  String.ofList (Nat.digitChar cipher.encType.toNat :: '.' :: encodeParts cipher)

/-- The part of a text after its first full stop. -/
def afterType (s : String) : Option (List Char) := (splitOnce '.' s.toList).map Prod.snd

/-- The RSA types are neither of the AES types. -/
theorem rsa_not_aes (encType : UInt8) (rsa : IsRsa encType) :
    encType ≠ encTypeAesCbc256B64 ∧ encType ≠ encTypeAesCbc256HmacSha256B64 := by
  rcases rsa with rfl | rfl <;> decide

theorem encode_parts_plain (iv ct mac : List UInt8) :
    encodeParts ⟨encTypeAesCbc256B64, iv, ct, mac⟩ =
      Base64.encode iv ++ '|' :: Base64.encode ct := rfl

theorem encode_parts_mac (iv ct mac : List UInt8) :
    encodeParts ⟨encTypeAesCbc256HmacSha256B64, iv, ct, mac⟩ =
      Base64.encode iv ++ '|' :: (Base64.encode ct ++ '|' :: Base64.encode mac) := rfl

theorem encode_parts_rsa (cipher : CipherString) (rsa : IsRsa cipher.encType) :
    encodeParts cipher = Base64.encode cipher.ct := by
  obtain ⟨notPlain, notMac⟩ := rsa_not_aes cipher.encType rsa
  rw [encodeParts, if_neg notPlain, if_neg notMac]

section
variable {RsaPrivateKey : Type} (crypto : Primitives RsaPrivateKey)

/-- The decoder accepts the standard padded encodings and nothing else. -/
def StandardBase64 : Prop :=
  ∀ part bytes, crypto.decodeBase64 part = .ok bytes ↔ part = Base64.encode bytes

/-- Writing and parsing undo each other. -/
structure Inverse : Prop where
  decodes : ∀ cipher, Canonical cipher → CipherString.parse crypto (encode cipher) = .ok cipher
  canonical : ∀ s cipher, CipherString.parse crypto s = .ok cipher → Canonical cipher
  encodesAes : ∀ s cipher, CipherString.parse crypto s = .ok cipher → IsAes cipher.encType →
    afterType s = afterType (encode cipher)
  encodesRsa : ∀ s cipher, CipherString.parse crypto s = .ok cipher → IsRsa cipher.encType →
    (afterType s).map (List.filter (· ≠ '|')) = afterType (encode cipher)
  distinct : ∀ s other cipher, CipherString.parse crypto s = .ok cipher →
    CipherString.parse crypto other = .ok cipher → IsAes cipher.encType →
      afterType s = afterType other
  twoParts : ∀ s typeText rest, splitOnce '.' s.toList = some (typeText, rest) →
    parseUnsigned 256 typeText = some 0 → rest.count '|' ≠ 1 →
      ∃ error, CipherString.parse crypto s = .error error
  threeParts : ∀ s typeText rest, splitOnce '.' s.toList = some (typeText, rest) →
    parseUnsigned 256 typeText = some 2 → rest.count '|' ≠ 2 →
      ∃ error, CipherString.parse crypto s = .error error

/-! ## Parts -/

/-- No part contains a bar. -/
theorem encode_plain (bytes : List UInt8) : '|' ∉ Base64.encode bytes := by
  intro member
  rcases Base64.mem_encode bytes '|' member with digit | padding
  · exact absurd digit (by decide)
  · exact absurd padding (by decide)

/-- What a call of the decoder returns for a part. -/
theorem decode_part_iff (standard : StandardBase64 crypto) (part : List Char)
    (bytes : List UInt8) :
    decodePart crypto part = .ok bytes ↔ part = Base64.encode bytes := by
  rw [← standard part bytes, decodePart]
  cases crypto.decodeBase64 part <;> simp [Except.mapError]

/-- The written parts of a canonical cipher string are read again. Only that decoding
undoes encoding is needed. -/
theorem parse_encode_parts (decodes : ∀ bytes, decodePart crypto (Base64.encode bytes) = .ok bytes)
    (cipher : CipherString) (canonical : Canonical cipher) :
    CipherString.parseParts crypto cipher.encType (encodeParts cipher) = .ok cipher := by
  obtain ⟨typed, noMac, noVector⟩ := canonical
  obtain ⟨encType, iv, ct, mac⟩ := cipher
  dsimp only at typed noMac noVector ⊢
  rcases typed with (rfl | rfl) | rsa
  · obtain rfl := noMac (by decide)
    rw [CipherString.parseParts, if_pos rfl, encode_parts_plain]
    simp only [splitn_append _ _ _ _ (encode_plain _), splitn_plain _ _ _ (encode_plain _), decodes]
    rfl
  · rw [CipherString.parseParts, if_neg (by decide), if_pos rfl, encode_parts_mac]
    simp only [splitn_append _ _ _ _ (encode_plain _), splitn_plain _ _ _ (encode_plain _), decodes]
    rfl
  · obtain ⟨notPlain, notMac⟩ := rsa_not_aes encType rsa
    obtain rfl := noMac notMac
    obtain rfl := noVector rsa
    have unbarred : (Base64.encode ct).filter (· ≠ '|') = Base64.encode ct := by
      rw [List.filter_eq_self]
      intro char member
      rw [decide_eq_true_iff]
      rintro rfl
      exact encode_plain ct member
    have either : encType = encTypeRsa2048OaepSha256B64 ∨ encType = encTypeRsa2048OaepSha1B64 :=
      rsa
    rw [encode_parts_rsa ⟨encType, [], ct, []⟩ rsa, CipherString.parseParts, if_neg notPlain,
      if_neg notMac, if_pos either, unbarred, decodes]
    rfl

/-- Two parts are read for type 0. -/
theorem parse_plain_inv (standard : StandardBase64 crypto) (rest : List Char)
    (cipher : CipherString)
    (parsed : CipherString.parseParts crypto encTypeAesCbc256B64 rest = .ok cipher) :
    ∃ iv ct, cipher = ⟨encTypeAesCbc256B64, iv, ct, []⟩ ∧ rest = encodeParts cipher := by
  have joined := splitn_intercalate '|' 2 rest
  rw [CipherString.parseParts, if_pos rfl] at parsed
  dsimp only at parsed
  split at parsed
  · rename_i iv ct pieces
    simp only [bind_ok_iff, decode_part_iff crypto standard] at parsed
    obtain ⟨ivBytes, rfl, ctBytes, rfl, built⟩ := parsed
    cases built
    refine ⟨ivBytes, ctBytes, rfl, ?_⟩
    rw [← joined, pieces, encode_parts_plain]
    simp [List.intercalate]
  · cases parsed

/-- Three parts are read for type 2. -/
theorem parse_mac_inv (standard : StandardBase64 crypto) (rest : List Char)
    (cipher : CipherString)
    (parsed : CipherString.parseParts crypto encTypeAesCbc256HmacSha256B64 rest = .ok cipher) :
    ∃ iv ct mac, cipher = ⟨encTypeAesCbc256HmacSha256B64, iv, ct, mac⟩ ∧
      rest = encodeParts cipher := by
  have joined := splitn_intercalate '|' 3 rest
  rw [CipherString.parseParts, if_neg (by decide), if_pos rfl] at parsed
  dsimp only at parsed
  split at parsed
  · rename_i iv ct mac pieces
    simp only [bind_ok_iff, decode_part_iff crypto standard] at parsed
    obtain ⟨ivBytes, rfl, ctBytes, rfl, macBytes, rfl, built⟩ := parsed
    cases built
    refine ⟨ivBytes, ctBytes, macBytes, rfl, ?_⟩
    rw [← joined, pieces, encode_parts_mac]
    simp [List.intercalate]
  · cases parsed

/-- Any other type that is read is an RSA type, with one part from which bars are
removed. -/
theorem parse_rsa_inv (standard : StandardBase64 crypto) (encType : UInt8) (rest : List Char)
    (cipher : CipherString) (notPlain : encType ≠ encTypeAesCbc256B64)
    (notMac : encType ≠ encTypeAesCbc256HmacSha256B64)
    (parsed : CipherString.parseParts crypto encType rest = .ok cipher) :
    IsRsa encType ∧ ∃ ct, cipher = ⟨encType, [], ct, []⟩ ∧
      rest.filter (· ≠ '|') = encodeParts cipher := by
  rw [CipherString.parseParts, if_neg notPlain, if_neg notMac] at parsed
  split_ifs at parsed with rsa
  simp only [bind_ok_iff, decode_part_iff crypto standard] at parsed
  obtain ⟨ct, text, built⟩ := parsed
  cases built
  refine ⟨rsa, ct, rfl, ?_⟩
  rw [encode_parts_rsa ⟨encType, [], ct, []⟩ rsa]
  exact text

/-- Parts that are read are, after the bars of the RSA types, the written parts of what
they are read as. -/
theorem parse_parts_inv (standard : StandardBase64 crypto) (encType : UInt8) (rest : List Char)
    (cipher : CipherString) (parsed : CipherString.parseParts crypto encType rest = .ok cipher) :
    Canonical cipher ∧ (IsAes cipher.encType → rest = encodeParts cipher) ∧
      (IsRsa cipher.encType → rest.filter (· ≠ '|') = encodeParts cipher) := by
  by_cases plain : encType = encTypeAesCbc256B64
  · subst plain
    obtain ⟨iv, ct, rfl, text⟩ := parse_plain_inv crypto standard rest cipher parsed
    exact ⟨⟨.inl (.inl rfl), fun _ => rfl, fun rsa => absurd rfl (rsa_not_aes _ rsa).1⟩,
      fun _ => text, fun rsa => absurd rfl (rsa_not_aes _ rsa).1⟩
  by_cases typed : encType = encTypeAesCbc256HmacSha256B64
  · subst typed
    obtain ⟨iv, ct, mac, rfl, text⟩ := parse_mac_inv crypto standard rest cipher parsed
    exact ⟨⟨.inl (.inr rfl), fun other => absurd rfl other,
      fun rsa => absurd rfl (rsa_not_aes _ rsa).2⟩, fun _ => text,
      fun rsa => absurd rfl (rsa_not_aes _ rsa).2⟩
  · obtain ⟨rsa, ct, rfl, text⟩ :=
      parse_rsa_inv crypto standard encType rest cipher plain typed parsed
    refine ⟨⟨.inr rsa, fun _ => rfl, fun _ => rfl⟩, fun aes => ?_, fun _ => text⟩
    rcases aes with same | same
    · exact absurd same plain
    · exact absurd same typed

/-- Another number of parts is refused. -/
theorem parse_parts_count (rest : List Char) (cipher : CipherString) :
    (CipherString.parseParts crypto encTypeAesCbc256B64 rest = .ok cipher → rest.count '|' = 1) ∧
      (CipherString.parseParts crypto encTypeAesCbc256HmacSha256B64 rest = .ok cipher →
        rest.count '|' = 2) := by
  constructor
  · intro parsed
    have length := splitn_length '|' 2 rest
    rw [CipherString.parseParts, if_pos rfl] at parsed
    dsimp only at parsed
    split at parsed
    · rename_i iv ct pieces
      rw [pieces] at length
      simp only [List.length_cons, List.length_nil] at length
      omega
    · cases parsed
  · intro parsed
    have length := splitn_length '|' 3 rest
    rw [CipherString.parseParts, if_neg (by decide), if_pos rfl] at parsed
    dsimp only at parsed
    split at parsed
    · rename_i iv ct mac pieces
      rw [pieces] at length
      simp only [List.length_cons, List.length_nil] at length
      omega
    · cases parsed

/-! ## Whole strings -/

/-- A type is written with one digit, which is read as that type. -/
theorem type_digit (encType : UInt8) (typed : IsAes encType ∨ IsRsa encType) :
    Nat.digitChar encType.toNat ≠ '.' ∧
      parseUnsigned 256 [Nat.digitChar encType.toNat] = some encType.toNat := by
  rcases typed with (rfl | rfl) | (rfl | rfl) <;> decide

theorem after_encode (cipher : CipherString) (typed : IsAes cipher.encType ∨ IsRsa cipher.encType) :
    afterType (encode cipher) = some (encodeParts cipher) := by
  have separate := (type_digit cipher.encType typed).1
  rw [afterType, encode, String.toList_ofList]
  simp only [splitOnce, separate, if_false, if_true, Option.map_some]

/-- What is written is read again. -/
theorem parse_encode (decodes : ∀ bytes, decodePart crypto (Base64.encode bytes) = .ok bytes)
    (cipher : CipherString) (canonical : Canonical cipher) :
    CipherString.parse crypto (encode cipher) = .ok cipher := by
  obtain ⟨separate, typed⟩ := type_digit cipher.encType canonical.typed
  rw [encode, UserKey.parse_typed crypto _ _ _ typed separate, UInt8.ofNat_toNat]
  exact parse_encode_parts crypto decodes cipher canonical

/-- What is read is, up to the spelling of its type and the bars of the RSA types, what
would be written. -/
theorem parse_encoded (standard : StandardBase64 crypto) (s : String) (cipher : CipherString)
    (parsed : CipherString.parse crypto s = .ok cipher) :
    Canonical cipher ∧ (IsAes cipher.encType → afterType s = afterType (encode cipher)) ∧
      (IsRsa cipher.encType →
        (afterType s).map (List.filter (· ≠ '|')) = afterType (encode cipher)) := by
  obtain ⟨typeText, rest, code, split, -, parts⟩ := parse_inv crypto s cipher parsed
  obtain ⟨canonical, aes, rsa⟩ := parse_parts_inv crypto standard _ rest cipher parts
  have after : afterType s = some rest := by rw [afterType, split, Option.map_some]
  rw [after, after_encode cipher canonical.typed]
  refine ⟨canonical, fun isAes => ?_, fun isRsa => ?_⟩
  · rw [aes isAes]
  · rw [Option.map_some, rsa isRsa]

/-- A type and parts that are refused make an error. -/
theorem parse_refused (s : String) (typeText rest : List Char) (code : Nat)
    (split : splitOnce '.' s.toList = some (typeText, rest))
    (typed : parseUnsigned 256 typeText = some code)
    (refused : ∀ cipher, CipherString.parseParts crypto (UInt8.ofNat code) rest ≠ .ok cipher) :
    ∃ error, CipherString.parse crypto s = .error error := by
  cases parsed : CipherString.parse crypto s with
  | error error => exact ⟨error, rfl⟩
  | ok cipher =>
    obtain ⟨otherText, otherRest, other, otherSplit, otherTyped, parts⟩ :=
      parse_inv crypto s cipher parsed
    obtain ⟨rfl, rfl⟩ := Prod.mk.inj (Option.some.inj (split.symm.trans otherSplit))
    obtain rfl := Option.some.inj (typed.symm.trans otherTyped)
    exact absurd parts (refused cipher)

/-- Over a standard base64 decoder, writing and parsing undo each other. -/
theorem encode_parse_inverse (standard : StandardBase64 crypto) : Inverse crypto where
  decodes := parse_encode crypto (fun bytes => (decode_part_iff crypto standard _ bytes).mpr rfl)
  canonical s cipher parsed := (parse_encoded crypto standard s cipher parsed).1
  encodesAes s cipher parsed := (parse_encoded crypto standard s cipher parsed).2.1
  encodesRsa s cipher parsed := (parse_encoded crypto standard s cipher parsed).2.2
  distinct s other cipher parsed otherParsed aes := by
    rw [(parse_encoded crypto standard s cipher parsed).2.1 aes,
      (parse_encoded crypto standard other cipher otherParsed).2.1 aes]
  twoParts s typeText rest split typed count :=
    parse_refused crypto s typeText rest 0 split typed
      (fun cipher parsed => count ((parse_parts_count crypto rest cipher).1 parsed))
  threeParts s typeText rest split typed count :=
    parse_refused crypto s typeText rest 2 split typed
      (fun cipher parsed => count ((parse_parts_count crypto rest cipher).2 parsed))

end

/-- The concrete decoder is standard. -/
theorem sample_standard : StandardBase64 UserKey.keyPrimitives := by
  intro part bytes
  rw [← Base64.decode_eq_some_iff]
  simp only [UserKey.keyPrimitives]
  cases Base64.decode part <;> simp

theorem encode_parse_inverse_sample : Inverse UserKey.keyPrimitives :=
  encode_parse_inverse UserKey.keyPrimitives sample_standard

example : encode ⟨encTypeAesCbc256B64, List.replicate 16 0, [37], []⟩ =
    "0.AAAAAAAAAAAAAAAAAAAAAA==|JQ==" := by
  decide +kernel

end VaultwardenOperator.CipherFormat
