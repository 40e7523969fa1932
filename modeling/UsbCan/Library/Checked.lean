import Mathlib.Data.List.Basic

/-
  Checked execution of imperative byte code.

  A computation either returns a value or stops at a fault:
  an index or slice outside its sequence, a copy between
  ranges of different lengths, an unsigned subtraction below
  zero, or a loop that did not finish within its fuel.

  Key definitions include:
    * `Checked.Exec`
    * `Checked.slice`, `Checked.sub`
    * `Checked.FixedArray`
    * `Checked.loop`

  Key theorems include:
    * `Checked.FixedArray.copyFromSlice_ok`
    * `Checked.FixedArray.Filled.copyFromSlice`
    * `Checked.FixedArray.copyWithin_front`
    * `Checked.loop_spec`
-/

------------------------------------------------------------
-- Faults
------------------------------------------------------------

namespace Checked

/- The ways a checked computation can stop without a value. -/
inductive Fault where
| indexOutOfBounds
| sliceOutOfBounds
| lengthMismatch
| underflow
| outOfFuel
deriving DecidableEq, Repr

/- A computation that returns a value or stops at a fault. -/
abbrev Exec (α : Type) :=
  Except Fault α

@[simp] theorem ok_bind
    {α β : Type}
    (a : α)
    (next : α → Exec β) :
    ((Except.ok a : Exec α) >>= next) = next a := rfl

@[simp] theorem error_bind
    {α β : Type}
    (fault : Fault)
    (next : α → Exec β) :
    ((Except.error fault : Exec α) >>= next) =
      .error fault := rfl

@[simp] theorem pure_eq_ok
    {α : Type}
    (a : α) :
    (pure a : Exec α) = .ok a := rfl

@[simp] theorem map_ok
    {α β : Type}
    (f : α → β)
    (a : α) :
    (f <$> (Except.ok a : Exec α)) = .ok (f a) := rfl

/- A sequence returns exactly when both of its parts do. -/
theorem bind_eq_ok_iff
    {α β : Type}
    {first : Exec α}
    {next : α → Exec β}
    {b : β} :
    (first >>= next) = .ok b ↔
      ∃ a, first = .ok a ∧ next a = .ok b := by
  cases first with
  | error fault => simp
  | ok a => simp

------------------------------------------------------------
-- Checked Reads
------------------------------------------------------------

/- The element at an index of a sequence. -/
def index
    {α : Type}
    (xs : List α)
    (i : Nat) :
    Exec α :=
  match xs[i]? with
  | some a => .ok a
  | none => .error .indexOutOfBounds

/- The elements of a sequence from `start` up to `stop`. -/
def slice
    {α : Type}
    (xs : List α)
    (start stop : Nat) :
    Exec (List α) :=
  if start ≤ stop ∧ stop ≤ xs.length then
    .ok ((xs.drop start).take (stop - start))
  else
    .error .sliceOutOfBounds

/- Unsigned subtraction. -/
def sub (a b : Nat) : Exec Nat :=
  if b ≤ a then .ok (a - b) else .error .underflow

theorem index_ok
    {α : Type}
    {xs : List α}
    {i : Nat}
    {a : α}
    (hGet : xs[i]? = some a) :
    index xs i = .ok a := by
  simp [index, hGet]

theorem slice_ok
    {α : Type}
    {xs : List α}
    {start stop : Nat}
    (hOrder : start ≤ stop)
    (hStop : stop ≤ xs.length) :
    slice xs start stop =
      .ok ((xs.drop start).take (stop - start)) := by
  simp [slice, hOrder, hStop]

/- A slice from the start is a prefix. -/
theorem slice_zero
    {α : Type}
    {xs : List α}
    {stop : Nat}
    (hStop : stop ≤ xs.length) :
    slice xs 0 stop = .ok (xs.take stop) := by
  simp [slice, hStop]

/- A slice that exists ends inside the list. -/
theorem slice_eq_ok
    {α : Type}
    {xs ys : List α}
    {start stop : Nat}
    (hSlice : slice xs start stop = .ok ys) :
    stop ≤ xs.length := by
  unfold slice at hSlice
  split at hSlice
  · rename_i hBounds
    exact hBounds.2
  · cases hSlice

theorem sub_ok
    {a b : Nat}
    (hLe : b ≤ a) :
    sub a b = .ok (a - b) := by
  simp [sub, hLe]

------------------------------------------------------------
-- Fixed-Length Arrays
------------------------------------------------------------

/- A sequence whose length is part of its type. -/
@[ext] structure FixedArray
    (α : Type)
    (n : Nat) where
  toList : List α
  length_toList : toList.length = n
deriving DecidableEq, Repr

attribute [simp] FixedArray.length_toList

namespace FixedArray

variable {α : Type} {n : Nat}

/- The array holding `a` everywhere. -/
def replicate
    (n : Nat)
    (a : α) :
    FixedArray α n where
  toList := List.replicate n a
  length_toList := List.length_replicate

/- Overwrite one element. -/
def set
    (array : FixedArray α n)
    (i : Nat)
    (a : α) :
    Exec (FixedArray α n) :=
  if i < n then
    .ok ⟨array.toList.set i a, by simp⟩
  else
    .error .indexOutOfBounds

/-
  Overwrite the elements from `start` up to `stop`.  The
  range lies in the array and the source fills it exactly.
-/
def copyFromSlice
    (array : FixedArray α n)
    (start stop : Nat)
    (source : List α) :
    Exec (FixedArray α n) :=
  if hRange : start ≤ stop ∧ stop ≤ n then
    if hLength : source.length = stop - start then
      .ok ⟨array.toList.take start ++ source ++
          array.toList.drop stop, by
        simp [hLength]
        omega⟩
    else
      .error .lengthMismatch
  else
    .error .sliceOutOfBounds

/-
  Copy the elements from `start` up to `stop` to the range
  of the same length that begins at `target`.
-/
def copyWithin
    (array : FixedArray α n)
    (start stop target : Nat) :
    Exec (FixedArray α n) := do
  let source ← slice array.toList start stop
  array.copyFromSlice target (target + (stop - start)) source

@[simp] theorem toList_replicate
    (n : Nat)
    (a : α) :
    (replicate n a).toList = List.replicate n a := rfl

/- A write in range changes exactly that element. -/
theorem set_eq_ok
    (array : FixedArray α n)
    {i : Nat}
    (a : α)
    (hIndex : i < n) :
    array.set i a =
      .ok ⟨array.toList.set i a, by simp⟩ :=
  if_pos hIndex

theorem set_ok
    (array : FixedArray α n)
    {i : Nat}
    (a : α)
    (hIndex : i < n) :
    ∃ written,
      array.set i a = .ok written ∧
        written.toList = array.toList.set i a :=
  ⟨_, array.set_eq_ok a hIndex, rfl⟩

/- A copy in range replaces exactly that range. -/
theorem copyFromSlice_ok
    (array : FixedArray α n)
    (start stop : Nat)
    (source : List α)
    (hStop : stop ≤ n)
    (hLength : start + source.length = stop) :
    ∃ written,
      array.copyFromSlice start stop source =
          .ok written ∧
        written.toList =
          array.toList.take start ++ source ++
            array.toList.drop stop := by
  have hRange : start ≤ stop ∧ stop ≤ n := by omega
  have hSource : source.length = stop - start := by omega
  unfold copyFromSlice
  simp [hRange, hSource]

/-
  An array filled from the front: `front` has been written
  over the beginning of `original`.
-/
def Filled
    (array original : FixedArray α n)
    (front : List α) : Prop :=
  array.toList =
    front ++ original.toList.drop front.length

theorem filled_nil (array : FixedArray α n) :
    Filled array array [] := by
  simp [Filled]

/- Writing the next element extends the front. -/
theorem Filled.set
    {array original : FixedArray α n}
    {front : List α}
    {i : Nat}
    (hFilled : Filled array original front)
    (a : α)
    (hNext : front.length = i)
    (hIndex : i < n) :
    ∃ written,
      array.set i a = .ok written ∧
        Filled written original (front ++ [a]) := by
  rcases array.set_ok a hIndex with
    ⟨written, hWritten, hList⟩
  refine ⟨written, hWritten, ?_⟩
  have hMore : front.length < original.toList.length := by
    rw [original.length_toList]
    omega
  have hDrop := List.drop_eq_getElem_cons hMore
  rw [Filled, hList, hFilled, ← hNext,
    List.set_append_right _ _ (Nat.le_refl _),
    Nat.sub_self, hDrop, List.set_cons_zero,
    List.length_append, List.append_assoc]
  rfl

/- Copying at the end of the front extends it. -/
theorem Filled.copyFromSlice
    {array original : FixedArray α n}
    {front : List α}
    {start stop : Nat}
    (hFilled : Filled array original front)
    (source : List α)
    (hNext : front.length = start)
    (hLength : start + source.length = stop)
    (hStop : stop ≤ n) :
    ∃ written,
      array.copyFromSlice start stop source =
          .ok written ∧
        Filled written original (front ++ source) := by
  rcases array.copyFromSlice_ok start stop source hStop
      hLength with
    ⟨written, hWritten, hList⟩
  refine ⟨written, hWritten, ?_⟩
  have hFront : (front ++ source).length = stop := by
    rw [List.length_append]
    omega
  have hTake : array.toList.take start = front := by
    rw [hFilled, ← hNext, List.take_left]
  have hDrop :
      array.toList.drop stop =
        original.toList.drop stop := by
    rw [hFilled, List.drop_append,
      List.drop_eq_nil_of_le (by omega),
      List.nil_append, List.drop_drop]
    congr 1
    omega
  rw [Filled, hList, hTake, hDrop, hFront]

/-
  Moving a range to the front makes it a prefix of the
  array.
-/
theorem copyWithin_front
    (array : FixedArray α n)
    {start stop : Nat}
    (hOrder : start ≤ stop)
    (hStop : stop ≤ n) :
    ∃ moved,
      array.copyWithin start stop 0 = .ok moved ∧
        moved.toList.take (stop - start) =
          (array.toList.take stop).drop start := by
  have hSlice :
      slice array.toList start stop =
        .ok ((array.toList.drop start).take
          (stop - start)) :=
    slice_ok hOrder (by simpa using hStop)
  have hLength :
      ((array.toList.drop start).take
        (stop - start)).length = stop - start := by
    simp
    omega
  rcases array.copyFromSlice_ok 0 (stop - start)
      ((array.toList.drop start).take (stop - start))
      (by omega) (by omega) with
    ⟨moved, hMoved, hList⟩
  refine ⟨moved, ?_, ?_⟩
  · simpa [copyWithin, hSlice] using hMoved
  · rw [hList, List.take_zero, List.nil_append,
      List.take_append_of_le_length (by omega),
      List.take_of_length_le (by omega),
      List.drop_take]

end FixedArray

------------------------------------------------------------
-- Loops
------------------------------------------------------------

/- What one iteration of a loop decides. -/
inductive Control (σ α : Type) where
| next (state : σ)
| done (result : α)
deriving DecidableEq, Repr

/- Repeat a body until it is done or the fuel is spent. -/
def loop
    {σ α : Type}
    (body : σ → Exec (Control σ α)) :
    Nat → σ → Exec α
| 0, _ => .error .outOfFuel
| fuel + 1, state =>
    match body state with
    | .error fault => .error fault
    | .ok (.next state') => loop body fuel state'
    | .ok (.done result) => .ok result

/-
  A loop establishes `post` when each iteration keeps the
  invariant and either ends with a result that satisfies
  `post` or moves to a state with a smaller variant from
  which `post` carries over.  The fuel only has to exceed
  the variant.
-/
theorem loop_spec
    {σ α : Type}
    {body : σ → Exec (Control σ α)}
    (invariant : σ → Prop)
    (variant : σ → Nat)
    (post : σ → α → Prop)
    (hStep :
      ∀ state, invariant state →
        (∃ result,
            body state = .ok (.done result) ∧
              post state result) ∨
          ∃ state',
            body state = .ok (.next state') ∧
              invariant state' ∧
              variant state' < variant state ∧
              ∀ result, post state' result →
                post state result) :
    ∀ fuel state, invariant state →
      variant state < fuel →
        ∃ result,
          loop body fuel state = .ok result ∧
            post state result
| 0, _, _, hFuel => absurd hFuel (Nat.not_lt_zero _)
| fuel + 1, state, hState, hFuel => by
    rcases hStep state hState with
      ⟨result, hDone, hPost⟩ |
      ⟨state', hNext, hState', hSmaller, hCarry⟩
    · exact ⟨result, by simp [loop, hDone], hPost⟩
    · rcases loop_spec invariant variant post hStep
          fuel state' hState' (by omega) with
        ⟨result, hRest, hPost⟩
      exact ⟨result, by simp [loop, hNext, hRest],
        hCarry result hPost⟩

end Checked
