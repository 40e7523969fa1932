import Mathlib.Data.Nat.ModEq

/-
  Additive checksums over a window of a sequence.

  The symbol behind the window is the sum of the weights in
  the window, reduced by a modulus.  When the weights tell
  symbols apart, replacing any one symbol of the window or
  the checksum itself breaks the equation.

  Key definitions include:
    * `Checksum.total`
    * `Checksum.Holds`

  Key theorems include:
    * `Checksum.total_set_eq_iff`
    * `Checksum.Holds.set`
-/

------------------------------------------------------------
-- Sums of Weights
------------------------------------------------------------

namespace Checksum

variable {α : Type}
variable (weigh : α → Nat) (modulus : Nat)

/- The sum of the weights, reduced by the modulus. -/
def total (symbols : List α) : Nat :=
  (symbols.map weigh).sum % modulus

/-
  The symbol behind the window of `length` symbols from
  `start` weighs as much as the window.
-/
def Holds
    (start length : Nat)
    (symbols : List α) : Prop :=
  ∃ check,
    symbols[start + length]? = some check ∧
      weigh check =
        total weigh modulus
          ((symbols.drop start).take length)

variable {weigh modulus}

/- Replacing a symbol moves the sum by the two weights. -/
theorem sum_set_add
    {symbols : List α}
    {i : Nat}
    {old : α}
    (hOld : symbols[i]? = some old)
    (new : α) :
    ((symbols.set i new).map weigh).sum + weigh old =
      (symbols.map weigh).sum + weigh new := by
  induction symbols generalizing i with
  | nil => cases hOld
  | cons symbol rest ih =>
      cases i with
      | zero =>
          cases hOld
          simp only [List.set_cons_zero, List.map_cons,
            List.sum_cons]
          omega
      | succ i =>
          have hRest := ih hOld
          simp only [List.set_cons_succ, List.map_cons,
            List.sum_cons]
          omega

/- The total is kept exactly by a symbol of equal weight. -/
theorem total_set_eq_iff
    {symbols : List α}
    {i : Nat}
    {old : α}
    (hOld : symbols[i]? = some old)
    (new : α) :
    total weigh modulus (symbols.set i new) =
        total weigh modulus symbols ↔
      weigh new ≡ weigh old [MOD modulus] := by
  have hSum :
      ((symbols.set i new).map weigh).sum + weigh old =
        (symbols.map weigh).sum + weigh new :=
    sum_set_add hOld new
  constructor
  · intro hSame
    have hShifted := Nat.ModEq.add_right (weigh old) hSame
    rw [hSum] at hShifted
    exact Nat.ModEq.add_left_cancel' _ hShifted
  · intro hWeight
    apply Nat.ModEq.add_right_cancel' (weigh old)
    rw [hSum]
    exact Nat.ModEq.add_left _ hWeight

/- A window with its total behind it satisfies the equation. -/
theorem holds_of_append
    {body : List α}
    {check : α}
    (front : List α)
    (hCheck : weigh check = total weigh modulus body) :
    Holds weigh modulus front.length body.length
      (front ++ body ++ [check]) := by
  refine ⟨check, ?_, ?_⟩
  · rw [← List.length_append, List.getElem?_concat_length]
  · rw [List.append_assoc, List.drop_left, List.take_left,
      hCheck]

------------------------------------------------------------
-- Replaced Symbols
------------------------------------------------------------

/-
  Weights that tell symbols apart detect a replaced symbol
  in the window and a replaced checksum.
-/
theorem Holds.set
    {start length i : Nat}
    {symbols : List α}
    {new : α}
    (hHolds : Holds weigh modulus start length symbols)
    (hInjective : Function.Injective weigh)
    (hBounded : ∀ symbol, weigh symbol < modulus)
    (hStart : start ≤ i)
    (hStop : i ≤ start + length)
    (hNew : symbols[i]? ≠ some new) :
    ¬ Holds weigh modulus start length
      (symbols.set i new) := by
  rcases hHolds with ⟨check, hCheck, hTotal⟩
  have hInside : start + length < symbols.length :=
    (List.getElem?_eq_some_iff.mp hCheck).1
  rintro ⟨check', hCheck', hTotal'⟩
  rw [List.drop_set, if_neg (by omega),
    List.take_set] at hTotal'
  by_cases hLast : i = start + length
  · -- The window is the same, the checksum is another one.
    subst hLast
    rw [List.getElem?_set_self hInside] at hCheck'
    cases hCheck'
    rw [List.set_eq_of_length_le (by
        rw [List.length_take]
        omega), ← hTotal] at hTotal'
    exact hNew (by rw [hInjective hTotal', hCheck])
  · -- The checksum is the same, the sum is another one.
    rw [List.getElem?_set_ne hLast, hCheck] at hCheck'
    cases hCheck'
    have hMore : i < symbols.length := by omega
    have hOld :
        ((symbols.drop start).take length)[i - start]? =
          some symbols[i] := by
      rw [List.getElem?_take_of_lt (by omega),
        List.getElem?_drop, Nat.add_sub_cancel' hStart,
        List.getElem?_eq_getElem hMore]
    rw [hTotal] at hTotal'
    have hWeight :=
      (total_set_eq_iff hOld new).mp hTotal'.symm
    have hSame : new = symbols[i] :=
      hInjective (hWeight.eq_of_lt_of_lt (hBounded _)
        (hBounded _))
    exact hNew (by
      rw [hSame, List.getElem?_eq_getElem hMore])

end Checksum
