import Mathlib.Data.Nat.Digits.Lemmas
import Mathlib.Data.UInt

/-
  Big-endian bytes of 16-bit and 32-bit words.

  Key definitions include:
    * `BigEndian.value`
    * `BigEndian.toBeBytes16`
    * `BigEndian.toBeBytes32`

  Key theorems include:
    * `BigEndian.value_toBeBytes16`
    * `BigEndian.value_toBeBytes32`
-/

namespace BigEndian

/- The number with these base-256 digits, highest first. -/
def value (bytes : List UInt8) : Nat :=
  Nat.ofDigits 256 (bytes.reverse.map UInt8.toNat)

/- The two bytes of a word, highest first. -/
def toBeBytes16 (word : UInt16) : List UInt8 :=
  [(word >>> 8).toUInt8, word.toUInt8]

/- The four bytes of a word, highest first. -/
def toBeBytes32 (word : UInt32) : List UInt8 :=
  [(word >>> 24).toUInt8, (word >>> 16).toUInt8,
    (word >>> 8).toUInt8, word.toUInt8]

@[simp] theorem length_toBeBytes16 (word : UInt16) :
    (toBeBytes16 word).length = 2 := rfl

@[simp] theorem length_toBeBytes32 (word : UInt32) :
    (toBeBytes32 word).length = 4 := rfl

theorem value_toBeBytes16 (word : UInt16) :
    value (toBeBytes16 word) = word.toNat := by
  have hWord := word.toNat_lt
  simp only [value, toBeBytes16, List.reverse_cons,
    List.reverse_nil, List.nil_append, List.cons_append,
    List.map_cons, List.map_nil, Nat.ofDigits_cons,
    Nat.ofDigits_nil, UInt16.toNat_toUInt8,
    UInt16.toNat_shiftRight, Nat.shiftRight_eq_div_pow]
  simp
  omega

theorem value_toBeBytes32 (word : UInt32) :
    value (toBeBytes32 word) = word.toNat := by
  have hWord := word.toNat_lt
  simp only [value, toBeBytes32, List.reverse_cons,
    List.reverse_nil, List.nil_append, List.cons_append,
    List.map_cons, List.map_nil, Nat.ofDigits_cons,
    Nat.ofDigits_nil, UInt32.toNat_toUInt8,
    UInt32.toNat_shiftRight, Nat.shiftRight_eq_div_pow]
  simp
  omega

end BigEndian
