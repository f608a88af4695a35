import Mathlib.Data.List.Nodup

/-!
# Base64

The standard alphabet with padding, as RFC 4648 has it. A decoder refuses any other
symbol, padding in another place, and bits of a last digit that no byte needs, so that
it accepts exactly what the encoder writes.
-/

namespace VaultwardenOperator.Base64

def alphabet : List Char :=
  "ABCDEFGHIJKLMNOPQRSTUVWXYZabcdefghijklmnopqrstuvwxyz0123456789+/".toList

def encodeDigit (digit : Nat) : Char := alphabet.getD digit 'A'

def decodeDigit (char : Char) : Option Nat :=
  if char ∈ alphabet then some (alphabet.idxOf char) else none

/-- Three bytes become four digits; a rest of one or two bytes is padded. -/
def encode : List UInt8 → List Char
  | [] => []
  | [a] => [encodeDigit (a.toNat / 4), encodeDigit (a.toNat % 4 * 16), '=', '=']
  | [a, b] =>
    [encodeDigit (a.toNat / 4), encodeDigit (a.toNat % 4 * 16 + b.toNat / 16),
      encodeDigit (b.toNat % 16 * 4), '=']
  | a :: b :: c :: rest =>
    encodeDigit (a.toNat / 4) :: encodeDigit (a.toNat % 4 * 16 + b.toNat / 16) ::
      encodeDigit (b.toNat % 16 * 4 + c.toNat / 64) :: encodeDigit (c.toNat % 64) :: encode rest

/-- The bytes of three, each from two of the four digits. -/
def firstByte (x y : Nat) : UInt8 := UInt8.ofNat (x * 4 + y / 16)
def secondByte (y z : Nat) : UInt8 := UInt8.ofNat (y % 16 * 16 + z / 4)
def thirdByte (z w : Nat) : UInt8 := UInt8.ofNat (z % 4 * 64 + w)

/-- The last digits, before one or two padding characters. -/
def decodeLast (first second third : Char) : Option (List UInt8) := do
  let x ← decodeDigit first
  let y ← decodeDigit second
  if third = '=' then
    if y % 16 = 0 then some [firstByte x y] else none
  else do
    let z ← decodeDigit third
    if z % 4 = 0 then some [firstByte x y, secondByte y z] else none

def decode : List Char → Option (List UInt8)
  | [] => some []
  | first :: second :: third :: fourth :: rest =>
    if fourth = '=' then if rest = [] then decodeLast first second third else none
    else do
      let x ← decodeDigit first
      let y ← decodeDigit second
      let z ← decodeDigit third
      let w ← decodeDigit fourth
      let bytes ← decode rest
      pure (firstByte x y :: secondByte y z :: thirdByte z w :: bytes)
  | _ => none

/-! ## Round trip -/

theorem encode_digit_mem (digit : Nat) : encodeDigit digit ∈ alphabet := by
  unfold encodeDigit
  rw [List.getD_eq_getElem?_getD]
  cases found : alphabet[digit]? with
  | none => decide
  | some char => exact List.mem_of_getElem? found

theorem decode_encode_digit (digit : Nat) (bounded : digit < 64) :
    decodeDigit (encodeDigit digit) = some digit := by
  have distinct : alphabet.Nodup := by decide
  have inside : digit < alphabet.length := bounded
  have same : encodeDigit digit = alphabet[digit] := by
    unfold encodeDigit
    rw [List.getD_eq_getElem?_getD, List.getElem?_eq_getElem inside, Option.getD_some]
  rw [decodeDigit, if_pos (encode_digit_mem digit), same, distinct.idxOf_getElem digit inside]

theorem encode_digit_ne_padding (digit : Nat) : encodeDigit digit ≠ '=' := by
  intro same
  have member := encode_digit_mem digit
  rw [same] at member
  exact absurd member (by decide)

theorem first_byte (a : UInt8) (rest : Nat) (bounded : rest < 16) :
    firstByte (a.toNat / 4) (a.toNat % 4 * 16 + rest) = a := by
  have whole : a.toNat / 4 * 4 + (a.toNat % 4 * 16 + rest) / 16 = a.toNat := by omega
  rw [firstByte, whole, UInt8.ofNat_toNat]

theorem second_byte (a b : UInt8) (rest : Nat) (bounded : rest < 4) :
    secondByte (a.toNat % 4 * 16 + b.toNat / 16) (b.toNat % 16 * 4 + rest) = b := by
  have bound := b.toNat_lt
  have whole : (a.toNat % 4 * 16 + b.toNat / 16) % 16 * 16 + (b.toNat % 16 * 4 + rest) / 4 =
      b.toNat := by
    omega
  rw [secondByte, whole, UInt8.ofNat_toNat]

theorem third_byte (b c : UInt8) :
    thirdByte (b.toNat % 16 * 4 + c.toNat / 64) (c.toNat % 64) = c := by
  have bound := c.toNat_lt
  have whole : (b.toNat % 16 * 4 + c.toNat / 64) % 4 * 64 + c.toNat % 64 = c.toNat := by omega
  rw [thirdByte, whole, UInt8.ofNat_toNat]

/-- Decoding undoes encoding. -/
theorem decode_encode (bytes : List UInt8) : decode (encode bytes) = some bytes := by
  induction bytes using encode.induct with
  | case1 => rfl
  | case2 a =>
    have bound := a.toNat_lt
    have first := decode_encode_digit (a.toNat / 4) (by omega)
    have second := decode_encode_digit (a.toNat % 4 * 16) (by omega)
    have byte := first_byte a 0 (by omega)
    rw [Nat.add_zero] at byte
    simp [encode, decode, decodeLast, first, second, byte]
  | case3 a b =>
    have boundA := a.toNat_lt
    have boundB := b.toNat_lt
    have first := decode_encode_digit (a.toNat / 4) (by omega)
    have second := decode_encode_digit (a.toNat % 4 * 16 + b.toNat / 16) (by omega)
    have third := decode_encode_digit (b.toNat % 16 * 4) (by omega)
    have byteA := first_byte a (b.toNat / 16) (by omega)
    have byteB := second_byte a b 0 (by omega)
    rw [Nat.add_zero] at byteB
    simp [encode, decode, decodeLast, first, second, third, byteA, byteB, encode_digit_ne_padding]
  | case4 a b c rest inductionHypothesis =>
    have boundA := a.toNat_lt
    have boundB := b.toNat_lt
    have boundC := c.toNat_lt
    have first := decode_encode_digit (a.toNat / 4) (by omega)
    have second := decode_encode_digit (a.toNat % 4 * 16 + b.toNat / 16) (by omega)
    have third := decode_encode_digit (b.toNat % 16 * 4 + c.toNat / 64) (by omega)
    have fourth := decode_encode_digit (c.toNat % 64) (by omega)
    have byteA := first_byte a (b.toNat / 16) (by omega)
    have byteB := second_byte a b (c.toNat / 64) (by omega)
    have byteC := third_byte b c
    simp [encode, decode, first, second, third, fourth, byteA, byteB, byteC,
      encode_digit_ne_padding, inductionHypothesis]

/-- Encoded text has the digits and the padding character only. -/
theorem mem_encode (bytes : List UInt8) (char : Char) (member : char ∈ encode bytes) :
    char ∈ alphabet ∨ char = '=' := by
  induction bytes using encode.induct with
  | case1 => cases member
  | case2 a =>
    simp only [encode, List.mem_cons, List.not_mem_nil, or_false] at member
    rcases member with rfl | rfl | padding | padding
    · exact .inl (encode_digit_mem _)
    · exact .inl (encode_digit_mem _)
    · exact .inr padding
    · exact .inr padding
  | case3 a b =>
    simp only [encode, List.mem_cons, List.not_mem_nil, or_false] at member
    rcases member with rfl | rfl | rfl | padding
    · exact .inl (encode_digit_mem _)
    · exact .inl (encode_digit_mem _)
    · exact .inl (encode_digit_mem _)
    · exact .inr padding
  | case4 a b c rest inductionHypothesis =>
    simp only [encode, List.mem_cons] at member
    rcases member with rfl | rfl | rfl | rfl | later
    · exact .inl (encode_digit_mem _)
    · exact .inl (encode_digit_mem _)
    · exact .inl (encode_digit_mem _)
    · exact .inl (encode_digit_mem _)
    · exact inductionHypothesis later

/-! ## Nothing else decodes -/

/-- A digit that is decoded is the one that its value encodes to. -/
theorem decode_digit_inv (char : Char) (digit : Nat) (decoded : decodeDigit char = some digit) :
    digit < 64 ∧ encodeDigit digit = char := by
  rw [decodeDigit] at decoded
  split_ifs at decoded with member
  have inside : alphabet.idxOf char < alphabet.length := List.idxOf_lt_length_of_mem member
  obtain rfl := Option.some.inj decoded
  refine ⟨inside, ?_⟩
  rw [encodeDigit, List.getD_eq_getElem?_getD, List.getElem?_eq_getElem inside, Option.getD_some]
  exact List.getElem_idxOf inside

theorem first_byte_value (x y : Nat) (first : x < 64) (second : y < 64) :
    (firstByte x y).toNat = x * 4 + y / 16 := by
  rw [firstByte, UInt8.toNat_ofNat']
  exact Nat.mod_eq_of_lt (by omega)

theorem second_byte_value (y z : Nat) (third : z < 64) :
    (secondByte y z).toNat = y % 16 * 16 + z / 4 := by
  rw [secondByte, UInt8.toNat_ofNat']
  exact Nat.mod_eq_of_lt (by omega)

theorem third_byte_value (z w : Nat) (fourth : w < 64) :
    (thirdByte z w).toNat = z % 4 * 64 + w := by
  rw [thirdByte, UInt8.toNat_ofNat']
  exact Nat.mod_eq_of_lt (by omega)

/-- The last digits are those of one or two bytes: the bits that no byte needs are zero. -/
theorem decode_last_inv (first second third : Char) (bytes : List UInt8)
    (decoded : decodeLast first second third = some bytes) :
    [first, second, third, '='] = encode bytes := by
  simp only [decodeLast, Option.bind_eq_bind, Option.bind_eq_some_iff] at decoded
  obtain ⟨x, isX, y, isY, decoded⟩ := decoded
  obtain ⟨boundX, rfl⟩ := decode_digit_inv first x isX
  obtain ⟨boundY, rfl⟩ := decode_digit_inv second y isY
  have byteA := first_byte_value x y boundX boundY
  split_ifs at decoded with padded unused
  · obtain rfl := Option.some.inj decoded
    have firstDigit : (firstByte x y).toNat / 4 = x := by omega
    have secondDigit : (firstByte x y).toNat % 4 * 16 = y := by omega
    rw [encode, firstDigit, secondDigit, padded]
  · simp only [Option.bind_eq_some_iff] at decoded
    obtain ⟨z, isZ, decoded⟩ := decoded
    obtain ⟨boundZ, rfl⟩ := decode_digit_inv third z isZ
    have byteB := second_byte_value y z boundZ
    split_ifs at decoded with unused
    obtain rfl := Option.some.inj decoded
    have firstDigit : (firstByte x y).toNat / 4 = x := by omega
    have secondDigit : (firstByte x y).toNat % 4 * 16 + (secondByte y z).toNat / 16 = y := by omega
    have thirdDigit : (secondByte y z).toNat % 16 * 4 = z := by omega
    rw [encode, firstDigit, secondDigit, thirdDigit]

/-- What decodes is the encoding of its bytes. The induction takes four digits at a time,
as the decoder does. -/
theorem decode_inv (part : List Char) (bytes : List UInt8) (decoded : decode part = some bytes) :
    part = encode bytes := by
  induction part using decode.induct generalizing bytes with
  | case1 =>
    obtain rfl := Option.some.inj decoded
    rfl
  | case2 first second third => exact decode_last_inv first second third bytes decoded
  | case3 first second third rest further =>
    rw [decode, if_pos rfl, if_neg further] at decoded
    cases decoded
  | case4 first second third fourth rest digits inductionHypothesis =>
    rw [decode, if_neg digits] at decoded
    simp only [Option.bind_eq_bind, Option.bind_eq_some_iff] at decoded
    obtain ⟨x, isX, y, isY, z, isZ, w, isW, others, isRest, decoded⟩ := decoded
    obtain ⟨boundX, rfl⟩ := decode_digit_inv first x isX
    obtain ⟨boundY, rfl⟩ := decode_digit_inv second y isY
    obtain ⟨boundZ, rfl⟩ := decode_digit_inv third z isZ
    obtain ⟨boundW, rfl⟩ := decode_digit_inv fourth w isW
    obtain rfl := Option.some.inj decoded
    have byteA := first_byte_value x y boundX boundY
    have byteB := second_byte_value y z boundZ
    have byteC := third_byte_value z w boundW
    have firstDigit : (firstByte x y).toNat / 4 = x := by omega
    have secondDigit : (firstByte x y).toNat % 4 * 16 + (secondByte y z).toNat / 16 = y := by omega
    have thirdDigit : (secondByte y z).toNat % 16 * 4 + (thirdByte z w).toNat / 64 = z := by omega
    have fourthDigit : (thirdByte z w).toNat % 64 = w := by omega
    rw [encode, firstDigit, secondDigit, thirdDigit, fourthDigit, inductionHypothesis others isRest]
  | case5 part vacant short =>
    unfold decode at decoded
    split at decoded
    · exact absurd rfl vacant
    · exact absurd rfl (short _ _ _ _ _)
    · cases decoded

/-- The decoder accepts the image of the encoder and nothing else. -/
theorem decode_eq_some_iff (part : List Char) (bytes : List UInt8) :
    decode part = some bytes ↔ part = encode bytes := by
  constructor
  · exact decode_inv part bytes
  · rintro rfl
    exact decode_encode bytes

end VaultwardenOperator.Base64
