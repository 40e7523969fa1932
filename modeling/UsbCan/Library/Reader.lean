import UsbCan.Library.BigEndian

/-
  Readers of records that are written field by field.

  A reader takes its value from the front of the input and
  leaves the rest to the next one.  It reads a field if it
  gets back every value that was written, whatever follows.

  Key definitions include:
    * `Reader`
    * `Reader.whole`
    * `Reader.word16`

  Key theorems include:
    * `Reader.whole_eq_some`
    * `Reader.run_word16`
    * `Reader.run_word32`
-/

------------------------------------------------------------
-- Readers
------------------------------------------------------------

/- What is left of the input is the state. -/
abbrev Reader (σ : Type) : Type → Type :=
  StateT (List σ) Option

namespace Reader

variable {σ α : Type}

/- One symbol, whatever it is. -/
def symbol : Reader σ σ
| [] => none
| first :: rest => some (first, rest)

/- One symbol that must be the expected one. -/
def expect [DecidableEq σ] (expected : σ) : Reader σ Unit
| [] => none
| first :: rest =>
    if first = expected then some ((), rest) else none

/- How many symbols are left. -/
def remaining : Reader σ Nat :=
  fun input => some (input.length, input)

/- A value that is refused is not read. -/
def require : Option α → Reader σ α
| none => fun _ => none
| some value => pure value

/- The value of an input that is used up. -/
def whole
    (reader : Reader σ α)
    (input : List σ) :
    Option α :=
  match reader.run input with
  | some (value, []) => some value
  | _ => none

@[simp] theorem run_symbol
    (first : σ)
    (rest : List σ) :
    symbol.run (first :: rest) = some (first, rest) := rfl

@[simp] theorem run_expect
    [DecidableEq σ]
    (expected : σ)
    (rest : List σ) :
    (expect expected).run (expected :: rest) =
      some ((), rest) :=
  if_pos rfl

@[simp] theorem run_remaining (input : List σ) :
    remaining.run input = some (input.length, input) := rfl

@[simp] theorem require_some (value : α) :
    (require (some value) : Reader σ α) = pure value := rfl

theorem whole_eq_some
    {reader : Reader σ α}
    {input : List σ}
    {value : α}
    (hRead : reader.run input = some (value, [])) :
    reader.whole input = some value := by
  rw [whole, hRead]

------------------------------------------------------------
-- Flags and Words
------------------------------------------------------------

/- A flag is the byte 1 or 0. -/
def flag : Reader UInt8 Bool
| 0 :: rest => some (false, rest)
| 1 :: rest => some (true, rest)
| _ => none

/- A word of two bytes, highest first. -/
def word16 : Reader UInt8 UInt16
| b₁ :: b₀ :: rest =>
    some (UInt16.ofNat (BigEndian.value [b₁, b₀]), rest)
| _ => none

/- A word of four bytes, highest first. -/
def word32 : Reader UInt8 UInt32
| b₃ :: b₂ :: b₁ :: b₀ :: rest =>
    some
      (UInt32.ofNat (BigEndian.value [b₃, b₂, b₁, b₀]), rest)
| _ => none

variable (rest : List UInt8)

@[simp] theorem run_flag (set : Bool) :
    flag.run (set.toUInt8 :: rest) = some (set, rest) := by
  cases set <;> rfl

@[simp] theorem run_word16 (word : UInt16) :
    word16.run (BigEndian.toBeBytes16 word ++ rest) =
      some (word, rest) := by
  have hValue := BigEndian.value_toBeBytes16 word
  rw [BigEndian.toBeBytes16] at hValue ⊢
  change some (UInt16.ofNat _, rest) = _
  rw [hValue, UInt16.ofNat_toNat]

@[simp] theorem run_word32 (word : UInt32) :
    word32.run (BigEndian.toBeBytes32 word ++ rest) =
      some (word, rest) := by
  have hValue := BigEndian.value_toBeBytes32 word
  rw [BigEndian.toBeBytes32] at hValue ⊢
  change some (UInt32.ofNat _, rest) = _
  rw [hValue, UInt32.ofNat_toNat]

end Reader
