import UsbCan.Library.Drain

/-
  Concatenated words of a grammar.

  A word is complete for the grammar exactly at its end, and
  is its own token.  A stream of words that is cut off
  somewhere yields the words that lie in it whole.

  Key definitions include:
    * `Framing.Grammar.IsWord`
    * `Framing.fitting`

  Key theorems include:
    * `Framing.Grammar.drain_take_words`
    * `Framing.exists_fitting`
-/

------------------------------------------------------------
-- Words That Fit
------------------------------------------------------------

namespace Framing

variable {α : Type}

/- The first words that need at most `room` symbols. -/
def fitting :
    Nat → List (List α) → List (List α)
| _, [] => []
| room, word :: words =>
    if word.length ≤ room then
      word :: fitting (room - word.length) words
    else
      []

/- Words that need no more than the room all fit. -/
theorem fitting_of_le
    {room : Nat}
    {words : List (List α)}
    (hRoom : words.flatten.length ≤ room) :
    fitting room words = words := by
  induction words generalizing room with
  | nil => rfl
  | cons word words ih =>
      simp only [List.flatten_cons,
        List.length_append] at hRoom
      rw [fitting, if_pos (by omega), ih (by omega)]

/- As many words as possible: no more of them would fit. -/
theorem exists_fitting
    (room : Nat)
    (words : List (List α)) :
    ∃ n ≤ words.length,
      fitting room words = words.take n ∧
        ∀ m ≤ words.length,
          m ≤ n ↔ (words.take m).flatten.length ≤ room := by
  induction words generalizing room with
  | nil => exact ⟨0, Nat.le_refl 0, rfl, by simp⟩
  | cons word words ih =>
      rw [fitting]
      by_cases hFits : word.length ≤ room
      · rcases ih (room - word.length) with
          ⟨n, hLe, hTake, hMost⟩
        refine
          ⟨n + 1, Nat.succ_le_succ hLe, ?_, ?_⟩
        · rw [if_pos hFits, hTake, List.take_succ_cons]
        · intro m hm
          cases m with
          | zero => simp
          | succ m =>
              have hNext := hMost m (Nat.le_of_succ_le_succ hm)
              simp only [List.take_succ_cons,
                List.flatten_cons, List.length_append]
              omega
      · refine ⟨0, Nat.zero_le _, if_neg hFits, ?_⟩
        intro m _
        cases m with
        | zero => simp
        | succ m =>
            simp only [List.take_succ_cons,
              List.flatten_cons, List.length_append]
            omega

end Framing

------------------------------------------------------------
-- Reading Words
------------------------------------------------------------

namespace Framing

namespace Grammar

variable {α : Type}

/- A word that the grammar accepts as a whole. -/
structure IsWord
    (G : Grammar α (List α))
    (word : List α) :
    Prop where
  window : G.window ≤ word.length
  accept : G.judge word = .accept word.length word

variable {G : Grammar α (List α)}
variable {word : List α} {words : List (List α)}

/- A word in front is delivered first. -/
theorem IsWord.drain
    (hWord : G.IsWord word)
    (rest : List α) :
    G.drain some (word ++ rest) =
      word :: G.drain some rest := by
  have hWindow : G.window ≤ (word ++ rest).length := by
    have hLength := hWord.window
    rw [List.length_append]
    omega
  rw [G.drain_accept some hWindow
      (G.accept_append rest hWord.accept),
    List.drop_left]
  rfl

/- The beginning of a word yields nothing. -/
theorem IsWord.drain_take
    (hWord : G.IsWord word)
    {n : Nat}
    (hShort : n < word.length) :
    G.drain some (word.take n) = [] := by
  have hToken :
      G.judge (word.take n ++ word.drop n) =
        .accept (word.take n ++ word.drop n).length
          word := by
    rw [List.take_append_drop]
    exact hWord.accept
  refine G.drain_of_begun some hToken ?_
  rw [Ne, List.drop_eq_nil_iff]
  omega

/- A cut stream yields the words that lie in it whole. -/
theorem drain_take_words
    (hWords : ∀ word ∈ words, G.IsWord word)
    (room : Nat) :
    G.drain some (words.flatten.take room) =
      fitting room words := by
  induction words generalizing room with
  | nil =>
      rw [List.flatten_nil, List.take_nil]
      exact G.drain_of_short some G.window_pos
  | cons word words ih =>
      have hWord := hWords word (by simp)
      have hRest := ih
        (fun other h => hWords other (by simp [h]))
      rw [List.flatten_cons, fitting]
      split
      · rename_i hFits
        rw [List.take_append, List.take_of_length_le hFits,
          hWord.drain, hRest]
      · rename_i hLong
        rw [List.take_append_of_le_length (by omega)]
        exact hWord.drain_take (by omega)

end Grammar

end Framing
