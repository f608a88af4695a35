import VaultwardenOperator.Crypto

/-!
# PKCS#7 padding

A padded text is a whole number of blocks and ends in one to a block of bytes, each of
which is their number. The length of the text leaves only one such number, so that
unpadding and padding are inverse to each other, for every block size that a byte can
count.
-/

namespace VaultwardenOperator.Padding

open Rust Crypto

/-- The bytes that fill the last block up; a whole block when there is nothing to fill. -/
def paddingLength (blockSize length : Nat) : Nat := blockSize - length % blockSize

/-- PKCS#7 padding to whole blocks. -/
def pkcs7Pad (data : List UInt8) (blockSize : Nat) : List UInt8 :=
  let padLen := paddingLength blockSize data.length
  data ++ List.replicate padLen (UInt8.ofNat padLen)

/-- The data are whole blocks, and the text with a number of bytes of that value, up to a
block. -/
def IsPadded (blockSize : Nat) (text data : List UInt8) : Prop :=
  blockSize ∣ data.length ∧ ∃ padLen, 1 ≤ padLen ∧ padLen ≤ blockSize ∧
    data = text ++ List.replicate padLen (UInt8.ofNat padLen)

/-- What unpadding does on one block size: it accepts the padded data and no other, padding
and unpadding undo each other, and nothing in it panics. -/
structure Exact (blockSize : Nat) : Prop where
  accepts : ∀ data text, pkcs7Unpad data blockSize = .ok text ↔ IsPadded blockSize text data
  unpadPad : ∀ text, pkcs7Unpad (pkcs7Pad text blockSize) blockSize = .ok text
  padUnpad : ∀ data text, pkcs7Unpad data blockSize = .ok text → pkcs7Pad text blockSize = data
  injective : ∀ data other text, pkcs7Unpad data blockSize = .ok text →
    pkcs7Unpad other blockSize = .ok text → data = other
  total : ∀ data, pkcs7Unpad data blockSize ≠ .error .panic

/-! ## Lengths -/

theorem padding_length_bounds (blockSize length : Nat) (positive : 1 ≤ blockSize) :
    1 ≤ paddingLength blockSize length ∧ paddingLength blockSize length ≤ blockSize := by
  have remainder : length % blockSize < blockSize := Nat.mod_lt _ positive
  rw [paddingLength]
  omega

theorem padding_length_aligned (blockSize length : Nat) (positive : 1 ≤ blockSize) :
    blockSize ∣ length + paddingLength blockSize length := by
  have remainder : length % blockSize < blockSize := Nat.mod_lt _ positive
  have split := Nat.div_add_mod length blockSize
  refine ⟨length / blockSize + 1, ?_⟩
  rw [paddingLength, Nat.mul_add]
  omega

/-- Only one number of bytes, up to a block, fills the last block up. -/
theorem padding_length_unique (blockSize length padLen : Nat) (positive : 1 ≤ padLen)
    (bounded : padLen ≤ blockSize) (aligned : blockSize ∣ length + padLen) :
    padLen = paddingLength blockSize length := by
  have remainder : length % blockSize < blockSize := Nat.mod_lt _ (by omega)
  have filled : blockSize ∣ length % blockSize + padLen := by
    rw [← Nat.div_add_mod length blockSize, Nat.add_assoc] at aligned
    exact (Nat.dvd_add_right (Nat.dvd_mul_right _ _)).mp aligned
  obtain ⟨blocks, whole⟩ := filled
  have one : blocks = 1 := by
    -- The sum is positive and less than two blocks.
    have some : 0 < blocks := Nat.pos_of_ne_zero (by
      rintro rfl
      omega)
    have few : blocks < 2 := by
      by_contra many
      have twice : blockSize * 2 ≤ blockSize * blocks := Nat.mul_le_mul_left _ (by omega)
      omega
    omega
  subst one
  rw [paddingLength]
  omega

/-! ## Padded data -/

/-- Padding pads. -/
theorem pad_is_padded (text : List UInt8) (blockSize : Nat) (positive : 1 ≤ blockSize) :
    IsPadded blockSize text (pkcs7Pad text blockSize) := by
  obtain ⟨atLeast, atMost⟩ := padding_length_bounds blockSize text.length positive
  refine ⟨?_, _, atLeast, atMost, rfl⟩
  rw [pkcs7Pad, List.length_append, List.length_replicate]
  exact padding_length_aligned blockSize text.length positive

/-- Padded data are what padding makes of their text. -/
theorem padded_is_pad (blockSize : Nat) (text data : List UInt8)
    (padded : IsPadded blockSize text data) : pkcs7Pad text blockSize = data := by
  obtain ⟨aligned, padLen, atLeast, atMost, rfl⟩ := padded
  rw [List.length_append, List.length_replicate] at aligned
  rw [pkcs7Pad, ← padding_length_unique blockSize text.length padLen atLeast atMost aligned]

/-- The number of padding bytes as a byte. -/
theorem padded_iff_last (blockSize : Nat) (byte : blockSize ≤ 255) (text data : List UInt8) :
    IsPadded blockSize text data ↔
      blockSize ∣ data.length ∧ ∃ last : UInt8, 0 < last.toNat ∧ last.toNat ≤ blockSize ∧
        data = text ++ List.replicate last.toNat last := by
  refine and_congr_right (fun _ => ?_)
  constructor
  · rintro ⟨padLen, atLeast, atMost, same⟩
    have count : (UInt8.ofNat padLen).toNat = padLen := by
      rw [UInt8.toNat_ofNat', Nat.mod_eq_of_lt (by omega)]
    exact ⟨UInt8.ofNat padLen, by omega, by omega, by rw [count, same]⟩
  · rintro ⟨last, positive, bounded, same⟩
    exact ⟨last.toNat, positive, bounded, by rw [UInt8.ofNat_toNat, same]⟩

/-- Unpadding accepts exactly the padded data. -/
theorem unpad_ok_iff (blockSize : Nat) (byte : blockSize ≤ 255) (data text : List UInt8) :
    pkcs7Unpad data blockSize = .ok text ↔ IsPadded blockSize text data := by
  rw [pkcs7_unpad_ok_iff, padded_iff_last blockSize byte]

/-- For every block size from 1 to 255 unpadding is exact. -/
theorem unpad_exact (blockSize : Nat) (positive : 1 ≤ blockSize) (byte : blockSize ≤ 255) :
    Exact blockSize where
  accepts := unpad_ok_iff blockSize byte
  unpadPad text := (unpad_ok_iff blockSize byte _ text).mpr (pad_is_padded text blockSize positive)
  padUnpad data text unpadded :=
    padded_is_pad blockSize text data ((unpad_ok_iff blockSize byte data text).mp unpadded)
  injective data other text unpadded otherUnpadded := by
    rw [← padded_is_pad blockSize text data ((unpad_ok_iff blockSize byte data text).mp unpadded),
      padded_is_pad blockSize text other ((unpad_ok_iff blockSize byte other text).mp otherUnpadded)]
  total data := pkcs7_unpad_total data blockSize

theorem unpad_exact_sample : Exact 16 := unpad_exact 16 (by decide) (by decide)

end VaultwardenOperator.Padding
