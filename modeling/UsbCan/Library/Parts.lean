import Mathlib.Data.List.Basic
import Mathlib.Data.List.Infix

/-
  Messages sent in numbered parts.

  A message is cut into pieces of a bounded size, numbered
  from zero.  A receiver starts a new message at each part
  numbered zero and appends the others to the message it
  has begun last.  Messages sent one after the other are
  collected again, and at any moment the receiver has some
  of them whole and at most one further begun.

  Key definitions include:
    * `Parts.chunks`
    * `Parts.collect`
    * `Parts.Arriving`

  Key theorems include:
    * `Parts.flatten_chunks`
    * `Parts.collect_messages`
    * `Parts.arriving_of_prefix`
-/

------------------------------------------------------------
-- Cutting
------------------------------------------------------------

namespace Parts

variable {α : Type}

/- The pieces of at most `size` symbols, in order. -/
def chunks
    (size : Nat)
    (symbols : List α) :
    List (List α) :=
  (List.range ((symbols.length + size - 1) / size)).map
    (fun n => (symbols.drop (n * size)).take size)

@[simp] theorem length_chunks
    (size : Nat)
    (symbols : List α) :
    (chunks size symbols).length =
      (symbols.length + size - 1) / size := by
  simp [chunks]

@[simp] theorem chunks_nil
    {size : Nat}
    (hSize : 0 < size) :
    chunks size ([] : List α) = [] := by
  have hNone : ([] : List α).length + size - 1 < size := by
    simp only [List.length_nil]
    omega
  rw [chunks, Nat.div_eq_of_lt hNone]
  rfl

/- The piece with a given number. -/
theorem getElem?_chunks
    {size n : Nat}
    {symbols : List α}
    (hSize : 0 < size)
    (hMore : n * size < symbols.length) :
    (chunks size symbols)[n]? =
      some ((symbols.drop (n * size)).take size) := by
  have hIndex : n < (symbols.length + size - 1) / size := by
    rw [Nat.lt_div_iff_mul_lt hSize]
    omega
  simp [chunks, List.getElem?_range hIndex]

/- The first piece, and the pieces of what follows it. -/
theorem chunks_of_ne_nil
    {size : Nat}
    {symbols : List α}
    (hSize : 0 < size)
    (hSymbols : symbols ≠ []) :
    chunks size symbols =
      symbols.take size ::
        chunks size (symbols.drop size) := by
  have hLength : 0 < symbols.length :=
    List.length_pos_of_ne_nil hSymbols
  have hCount :
      (symbols.length + size - 1) / size =
        ((symbols.drop size).length + size - 1) / size +
          1 := by
    rw [List.length_drop, ← Nat.add_div_right _ hSize]
    by_cases hLong : size ≤ symbols.length
    · congr 1
      omega
    · rw [Nat.div_eq_of_lt_le (k := 1) (by omega) (by omega),
        Nat.div_eq_of_lt_le (k := 1) (by omega) (by omega)]
  rw [chunks, hCount, List.range_succ_eq_map, List.map_cons,
    List.map_map, Nat.zero_mul, List.drop_zero]
  refine congrArg (symbols.take size :: ·) ?_
  rw [chunks]
  refine List.map_congr_left ?_
  intro n _
  simp only [Function.comp_apply, List.drop_drop]
  congr 2
  rw [Nat.succ_mul, Nat.add_comm]

/- Induction along the pieces of a list. -/
theorem chunks_induction
    {size : Nat}
    {motive : List α → Prop}
    (hSize : 0 < size)
    (nil : motive [])
    (cut :
      ∀ symbols, symbols ≠ [] →
        motive (symbols.drop size) → motive symbols)
    (symbols : List α) :
    motive symbols := by
  induction hLength : symbols.length using
    Nat.strong_induction_on generalizing symbols with
  | h length ih =>
      by_cases hSymbols : symbols = []
      · rw [hSymbols]
        exact nil
      · have hPos := List.length_pos_of_ne_nil hSymbols
        have hSmaller :
            (symbols.drop size).length < length := by
          rw [List.length_drop]
          omega
        exact cut symbols hSymbols
          (ih _ hSmaller (symbols.drop size) rfl)

/- The pieces put together are the list. -/
theorem flatten_chunks
    {size : Nat}
    (hSize : 0 < size)
    (symbols : List α) :
    (chunks size symbols).flatten = symbols := by
  induction symbols using chunks_induction hSize with
  | nil => simp [hSize]
  | cut symbols hSymbols ih =>
      rw [chunks_of_ne_nil hSize hSymbols, List.flatten_cons,
        ih, List.take_append_drop]

/- Each piece has between one and `size` symbols. -/
theorem length_of_mem_chunks
    {size : Nat}
    {symbols piece : List α}
    (hSize : 0 < size)
    (hPiece : piece ∈ chunks size symbols) :
    0 < piece.length ∧ piece.length ≤ size := by
  induction symbols using chunks_induction hSize with
  | nil => simp [hSize] at hPiece
  | cut symbols hSymbols ih =>
      rw [chunks_of_ne_nil hSize hSymbols] at hPiece
      rcases List.mem_cons.mp hPiece with hFirst | hLater
      · have hLength := List.length_pos_of_ne_nil hSymbols
        rw [hFirst, List.length_take]
        omega
      · exact ih hLater

------------------------------------------------------------
-- Collecting
------------------------------------------------------------

/-
  What a receiver has after one more part: a new message for
  a part numbered zero, a longer last message otherwise.
-/
def join
    (messages : List (List α))
    (part : List α × Nat) :
    List (List α) :=
  if part.2 = 0 then
    messages ++ [part.1]
  else
    match messages.getLast? with
    | none => messages
    | some begun => messages.dropLast ++ [begun ++ part.1]

/- The messages that a list of parts amounts to. -/
def collect (parts : List (List α × Nat)) :
    List (List α) :=
  parts.foldl join []

theorem join_zero
    (messages : List (List α))
    (piece : List α) :
    join messages (piece, 0) = messages ++ [piece] := rfl

theorem join_later
    (messages : List (List α))
    (begun piece : List α)
    (n : Nat) :
    join (messages ++ [begun]) (piece, n + 1) =
      messages ++ [begun ++ piece] := by
  simp [join]

/- Later parts extend the message begun last. -/
theorem foldl_join_later
    (messages : List (List α))
    (begun : List α)
    (pieces : List (List α))
    (n : Nat) :
    (pieces.zipIdx (n + 1)).foldl join
        (messages ++ [begun]) =
      messages ++ [begun ++ pieces.flatten] := by
  induction pieces generalizing begun n with
  | nil => simp
  | cons piece pieces ih =>
      rw [List.zipIdx_cons, List.foldl_cons, join_later, ih,
        List.flatten_cons, List.append_assoc]

/- The parts of one more message add that message. -/
theorem foldl_join_zipIdx
    (messages : List (List α))
    {pieces : List (List α)}
    (hPieces : pieces ≠ []) :
    pieces.zipIdx.foldl join messages =
      messages ++ [pieces.flatten] := by
  cases pieces with
  | nil => exact absurd rfl hPieces
  | cons piece pieces =>
      rw [List.zipIdx_cons, List.foldl_cons, join_zero,
        foldl_join_later, List.flatten_cons]

/- Messages sent one after the other are collected again. -/
theorem foldl_join_messages
    (messages : List (List α))
    {sent : List (List (List α))}
    (hSent : ∀ pieces ∈ sent, pieces ≠ []) :
    (sent.map List.zipIdx).flatten.foldl join messages =
      messages ++ sent.map List.flatten := by
  induction sent generalizing messages with
  | nil => simp
  | cons pieces sent ih =>
      rw [List.map_cons, List.flatten_cons, List.foldl_append,
        foldl_join_zipIdx messages (hSent _ (by simp)),
        ih _ (fun pieces h => hSent pieces (by simp [h])),
        List.map_cons, List.append_assoc]
      rfl

theorem collect_messages
    {sent : List (List (List α))}
    (hSent : ∀ pieces ∈ sent, pieces ≠ []) :
    collect (sent.map List.zipIdx).flatten =
      sent.map List.flatten :=
  foldl_join_messages [] hSent

------------------------------------------------------------
-- Messages Still Arriving
------------------------------------------------------------

/-
  Some of the messages have arrived whole; of the next one
  nothing or only a beginning has.
-/
def Arriving
    (messages seen : List (List α)) :
    Prop :=
  seen <+: messages ∨
    ∃ whole next later front,
      messages = whole ++ next :: later ∧
        seen = whole ++ [front] ∧ front <+: next

/- A message that has arrived stands in front. -/
theorem Arriving.cons
    {messages seen : List (List α)}
    (message : List α)
    (hSeen : Arriving messages seen) :
    Arriving (message :: messages) (message :: seen) := by
  rcases hSeen with
    hWhole | ⟨whole, next, later, front, rfl, rfl, hFront⟩
  · exact Or.inl (by simpa using hWhole)
  · exact Or.inr
      ⟨message :: whole, next, later, front, rfl, rfl,
        hFront⟩

/- The beginning of one message's parts. -/
theorem foldl_join_begun
    (messages : List (List α))
    {pieces : List (List α)}
    {parts : List (List α × Nat)}
    (hParts : parts <+: pieces.zipIdx)
    (hBegun : parts ≠ []) :
    ∃ front,
      front <+: pieces.flatten ∧
        parts.foldl join messages = messages ++ [front] := by
  rcases hParts with ⟨rest, hRest⟩
  rcases List.zipIdx_eq_append_iff.mp hRest.symm with
    ⟨begun, later, hPieces, hHere, _⟩
  have hSome : begun ≠ [] := by
    intro hNone
    rw [hNone] at hHere
    exact hBegun hHere
  refine ⟨begun.flatten, ?_, ?_⟩
  · rw [hPieces, List.flatten_append]
    exact List.prefix_append _ _
  · rw [hHere, foldl_join_zipIdx messages hSome]

/- A prefix of what is sent is messages still arriving. -/
theorem foldl_join_prefix
    (messages : List (List α))
    {sent : List (List (List α))}
    {parts : List (List α × Nat)}
    (hSent : ∀ pieces ∈ sent, pieces ≠ [])
    (hParts : parts <+: (sent.map List.zipIdx).flatten) :
    ∃ seen,
      parts.foldl join messages = messages ++ seen ∧
        Arriving (sent.map List.flatten) seen := by
  induction sent generalizing messages parts with
  | nil =>
      have hNone : parts = [] := by simpa using hParts
      refine ⟨[], ?_, Or.inl (List.nil_prefix)⟩
      rw [hNone, List.foldl_nil, List.append_nil]
  | cons pieces sent ih =>
      rw [List.map_cons, List.flatten_cons] at hParts
      rcases List.prefix_or_prefix_of_prefix hParts
          (List.prefix_append _ _) with
        hFirst | ⟨later, rfl⟩
      · by_cases hNone : parts = []
        · refine ⟨[], ?_, Or.inl (List.nil_prefix)⟩
          rw [hNone, List.foldl_nil, List.append_nil]
        · rcases foldl_join_begun messages hFirst hNone with
            ⟨front, hFront, hJoined⟩
          exact ⟨[front], hJoined,
            Or.inr ⟨[], _, _, front, rfl, rfl, hFront⟩⟩
      · have hLater :=
          (List.prefix_append_right_inj _).mp hParts
        rcases ih (messages ++ [pieces.flatten])
            (fun pieces h => hSent pieces (by simp [h]))
            hLater with
          ⟨seen, hJoined, hSeen⟩
        refine ⟨pieces.flatten :: seen, ?_,
          hSeen.cons pieces.flatten⟩
        rw [List.foldl_append,
          foldl_join_zipIdx messages (hSent _ (by simp)),
          hJoined, List.append_assoc]
        rfl

theorem arriving_of_prefix
    {sent : List (List (List α))}
    {parts : List (List α × Nat)}
    (hSent : ∀ pieces ∈ sent, pieces ≠ [])
    (hParts : parts <+: (sent.map List.zipIdx).flatten) :
    Arriving (sent.map List.flatten) (collect parts) := by
  rcases foldl_join_prefix [] hSent hParts with
    ⟨seen, hJoined, hSeen⟩
  rw [collect, hJoined]
  exact hSeen

end Parts
