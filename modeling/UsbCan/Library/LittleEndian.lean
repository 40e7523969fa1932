import UsbCan.Library.Checked
import Mathlib.Data.Nat.Digits.Lemmas

/-
  Little-endian bytes of 32-bit words.

  Key definitions include:
    * `LittleEndian.value`
    * `LittleEndian.toLeBytes`
    * `LittleEndian.fromLeBytes`

  Key theorems include:
    * `LittleEndian.toNat_fromLeBytes`
    * `LittleEndian.fromLeBytes_toLeBytes`
    * `LittleEndian.toLeBytes_fromLeBytes`
-/

------------------------------------------------------------
-- Words and Their Bytes
------------------------------------------------------------

namespace LittleEndian

open Checked

/- The number whose base-256 digits, lowest first, are `bytes`. -/
def value (bytes : List UInt8) : Nat :=
  Nat.ofDigits 256 (bytes.map UInt8.toNat)

/- The four bytes of a word, lowest first. -/
def toLeBytes (word : UInt32) : FixedArray UInt8 4 where
  toList :=
    [word.toUInt8, (word >>> 8).toUInt8,
      (word >>> 16).toUInt8, (word >>> 24).toUInt8]
  length_toList := rfl

/- The word with the given four bytes, lowest first. -/
def fromLeBytes (bytes : FixedArray UInt8 4) : UInt32 :=
  UInt32.ofNat (value bytes.toList)

@[simp] theorem value_nil :
    value [] = 0 := rfl

@[simp] theorem value_cons
    (byte : UInt8)
    (bytes : List UInt8) :
    value (byte :: bytes) =
      byte.toNat + 256 * value bytes := by
  simp [value, Nat.ofDigits_cons]

/- High zero bytes do not change the number. -/
theorem value_append_zeros
    (bytes : List UInt8)
    (n : Nat) :
    value (bytes ++ List.replicate n 0) = value bytes := by
  induction bytes with
  | nil =>
      induction n with
      | zero => rfl
      | succ n ih =>
          simpa [List.replicate_succ] using ih
  | cons byte bytes ih =>
      simpa using ih

theorem value_lt
    (bytes : List UInt8) :
    value bytes < 256 ^ bytes.length := by
  have hDigits :
      ∀ digit ∈ bytes.map UInt8.toNat, digit < 256 := by
    intro digit hDigit
    rcases List.mem_map.mp hDigit with ⟨byte, _, rfl⟩
    exact byte.toNat_lt
  simpa [value] using
    Nat.ofDigits_lt_base_pow_length
      (by omega) hDigits

------------------------------------------------------------
-- Round Trips
------------------------------------------------------------

/- The byte of a word at a bit offset, as a number. -/
private theorem toNat_byteAt
    (word offset : UInt32)
    (bits : Nat)
    (hOffset : offset.toNat = bits)
    (hBits : bits < 32) :
    ((word >>> offset).toUInt8).toNat =
      word.toNat / 2 ^ bits % 256 := by
  rw [UInt32.toNat_toUInt8, UInt32.toNat_shiftRight,
    hOffset, Nat.mod_eq_of_lt hBits,
    Nat.shiftRight_eq_div_pow]

theorem toNat_fromLeBytes
    (bytes : FixedArray UInt8 4) :
    (fromLeBytes bytes).toNat = value bytes.toList := by
  have hBound := value_lt bytes.toList
  rw [bytes.length_toList] at hBound
  simp only [fromLeBytes, UInt32.toNat_ofNat']
  exact Nat.mod_eq_of_lt (by omega)

theorem fromLeBytes_toLeBytes
    (word : UInt32) :
    fromLeBytes (toLeBytes word) = word := by
  apply UInt32.toNat_inj.mp
  have hWord := word.toNat_lt
  rw [toNat_fromLeBytes]
  simp only [toLeBytes, value_cons, value_nil,
    UInt32.toNat_toUInt8,
    toNat_byteAt word 8 8 rfl (by decide),
    toNat_byteAt word 16 16 rfl (by decide),
    toNat_byteAt word 24 24 rfl (by decide)]
  norm_num
  omega

theorem toLeBytes_fromLeBytes
    (bytes : FixedArray UInt8 4) :
    toLeBytes (fromLeBytes bytes) = bytes := by
  have hValue := toNat_fromLeBytes bytes
  rcases bytes with ⟨list, hLength⟩
  rcases List.length_eq_four.mp hLength with
    ⟨b₀, b₁, b₂, b₃, rfl⟩
  have h₀ := b₀.toNat_lt
  have h₁ := b₁.toNat_lt
  have h₂ := b₂.toNat_lt
  have h₃ := b₃.toNat_lt
  simp only [value_cons, value_nil] at hValue
  ext1
  simp only [toLeBytes, List.cons.injEq, and_true,
    ← UInt8.toNat_inj, UInt32.toNat_toUInt8,
    toNat_byteAt _ 8 8 rfl (by decide),
    toNat_byteAt _ 16 16 rfl (by decide),
    toNat_byteAt _ 24 24 rfl (by decide), hValue]
  norm_num
  omega

/- The two high bytes of a 16-bit number are zero. -/
theorem toLeBytes_of_lt
    {word : UInt32}
    (hWord : word.toNat < 65536) :
    (toLeBytes word).toList =
      (toLeBytes word).toList.take 2 ++
        List.replicate 2 0 := by
  have hThird : (word >>> 16).toUInt8 = 0 := by
    apply UInt8.toNat_inj.mp
    rw [toNat_byteAt word 16 16 rfl (by decide)]
    norm_num
    omega
  have hFourth : (word >>> 24).toUInt8 = 0 := by
    apply UInt8.toNat_inj.mp
    rw [toNat_byteAt word 24 24 rfl (by decide)]
    norm_num
    omega
  simp [toLeBytes, hThird, hFourth, List.replicate]

/- The low bytes of a short number are its digits. -/
theorem take_toLeBytes
    {bytes : List UInt8}
    (hShort : bytes.length ≤ 4) :
    (toLeBytes (UInt32.ofNat (value bytes))).toList.take
        bytes.length =
      bytes := by
  let padded : FixedArray UInt8 4 :=
    ⟨bytes ++ List.replicate (4 - bytes.length) 0, by
      simp
      omega⟩
  have hWord :
      fromLeBytes padded = UInt32.ofNat (value bytes) := by
    simp only [fromLeBytes, padded, value_append_zeros]
  rw [← hWord, toLeBytes_fromLeBytes]
  exact List.take_left' rfl

end LittleEndian
