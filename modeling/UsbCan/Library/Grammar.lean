import Mathlib.Data.List.Basic

/-
  Leftmost-first scanning of an unescaped stream.

  A grammar judges the symbols in front of a position: they
  are junk, the beginning of a token that is not complete
  yet, or a complete token.  A judgement is only asked for
  when a minimal window of symbols is in view, and junk and
  complete tokens stay what they are when more symbols
  arrive.  The scanner steps over junk one symbol at a time
  and stops at the first position that is not junk.

  Key definitions include:
    * `Framing.Grammar`
    * `Framing.Grammar.scan`

  Key theorems include:
    * `Framing.Grammar.scan_append_of_some`
    * `Framing.Grammar.scan_append_of_none`
    * `Framing.Grammar.retained_lt_reach`
    * `Framing.Grammar.scan_of_leftmost_accept`
-/

------------------------------------------------------------
-- Grammars
------------------------------------------------------------

namespace Framing

/- What the symbols in front of a position turn out to be. -/
inductive Verdict (β : Type) where
| reject
| pending
| accept (length : Nat) (token : β)

/-
  A grammar over symbols `α` with tokens `β`.  No token and
  no unfinished token is longer than `reach`.
-/
structure Grammar (α β : Type) where
  window : Nat
  reach : Nat
  judge : List α → Verdict β
  window_pos : 0 < window
  window_le_reach : window ≤ reach
  pending_lt :
    ∀ {input}, judge input = .pending →
      input.length < reach
  accept_pos :
    ∀ {input n token}, judge input = .accept n token →
      0 < n
  accept_le :
    ∀ {input n token}, judge input = .accept n token →
      n ≤ input.length ∧ n ≤ reach
  reject_append :
    ∀ {input} (rest : List α), window ≤ input.length →
      judge input = .reject →
        judge (input ++ rest) = .reject
  accept_append :
    ∀ {input n token} (rest : List α),
      judge input = .accept n token →
        judge (input ++ rest) = .accept n token

namespace Grammar

variable {α β : Type}

/-
  Find the leftmost position that is not junk.  The result
  is the number of symbols to drop and the token, if one is
  complete.
-/
def scan
    (G : Grammar α β) :
    List α → Nat × Option β
| [] => (0, none)
| a :: rest =>
    if (a :: rest).length < G.window then
      (0, none)
    else
      match G.judge (a :: rest) with
      | .reject => ((G.scan rest).1 + 1, (G.scan rest).2)
      | .pending => (0, none)
      | .accept n token => (n, some token)

------------------------------------------------------------
-- One Scanning Step
------------------------------------------------------------

variable (G : Grammar α β)

theorem scan_of_short
    {input : List α}
    (hShort : input.length < G.window) :
    G.scan input = (0, none) := by
  cases input with
  | nil => rfl
  | cons a rest => rw [scan, if_pos hShort]

theorem scan_of_pending
    {input : List α}
    (hPending : G.judge input = .pending) :
    G.scan input = (0, none) := by
  cases input with
  | nil => rfl
  | cons a rest => simp [scan, hPending]

theorem scan_of_accept
    {input : List α}
    {n : Nat}
    {token : β}
    (hWindow : G.window ≤ input.length)
    (hAccept : G.judge input = .accept n token) :
    G.scan input = (n, some token) := by
  cases input with
  | nil =>
      have hPos := G.window_pos
      simp only [List.length_nil] at hWindow
      omega
  | cons a rest =>
      have hLong : ¬ (a :: rest).length < G.window := by
        omega
      rw [scan, if_neg hLong, hAccept]

theorem scan_of_reject
    {a : α}
    {rest : List α}
    (hWindow : G.window ≤ (a :: rest).length)
    (hReject : G.judge (a :: rest) = .reject) :
    G.scan (a :: rest) =
      ((G.scan rest).1 + 1, (G.scan rest).2) := by
  have hLong : ¬ (a :: rest).length < G.window := by
    omega
  rw [scan, if_neg hLong, hReject]

/-
  Scanning by cases: the input is too short to judge, or its
  front is junk, unfinished, or a token.
-/
theorem scan_cases
    (input : List α) :
    (input.length < G.window ∧
        G.scan input = (0, none)) ∨
      (G.window ≤ input.length ∧
        G.judge input = .pending ∧
        G.scan input = (0, none)) ∨
      (∃ n token,
        G.window ≤ input.length ∧
          G.judge input = .accept n token ∧
          G.scan input = (n, some token)) ∨
      ∃ a rest,
        input = a :: rest ∧
          G.window ≤ input.length ∧
          G.judge input = .reject ∧
          G.scan input =
            ((G.scan rest).1 + 1, (G.scan rest).2) := by
  by_cases hShort : input.length < G.window
  · exact Or.inl ⟨hShort, G.scan_of_short hShort⟩
  · have hWindow : G.window ≤ input.length := by omega
    cases hJudge : G.judge input with
    | pending =>
        exact Or.inr (Or.inl
          ⟨hWindow, rfl, G.scan_of_pending hJudge⟩)
    | accept n token =>
        exact Or.inr (Or.inr (Or.inl
          ⟨n, token, hWindow, rfl,
            G.scan_of_accept hWindow hJudge⟩))
    | reject =>
        cases input with
        | nil =>
            have hPos := G.window_pos
            simp only [List.length_nil] at hWindow
            omega
        | cons a rest =>
            exact Or.inr (Or.inr (Or.inr
              ⟨a, rest, rfl, hWindow, rfl,
                G.scan_of_reject hWindow hJudge⟩))

------------------------------------------------------------
-- Bounds
------------------------------------------------------------

/- A scan never drops more than it was given. -/
theorem scan_le
    (input : List α) :
    (G.scan input).1 ≤ input.length := by
  induction input with
  | nil => simp [scan]
  | cons a rest ih =>
      rcases G.scan_cases (a :: rest) with
        ⟨_, hScan⟩ | ⟨_, _, hScan⟩ |
        ⟨n, token, _, hJudge, hScan⟩ |
        ⟨b, tail, hInput, _, _, hScan⟩
      · simp [hScan]
      · simp [hScan]
      · rw [hScan]
        exact (G.accept_le hJudge).1
      · rcases List.cons_eq_cons.mp hInput with ⟨_, hTail⟩
        subst hTail
        rw [hScan]
        simpa using ih

/- A token takes at least one symbol. -/
theorem scan_pos
    {input : List α}
    {c : Nat}
    {token : β}
    (hScan : G.scan input = (c, some token)) :
    0 < c := by
  rcases G.scan_cases input with
    ⟨_, h⟩ | ⟨_, _, h⟩ | ⟨n, t, _, hJudge, h⟩ |
    ⟨a, rest, _, _, _, h⟩
  · simp [h] at hScan
  · simp [h] at hScan
  · have hPos := G.accept_pos hJudge
    simp only [h, Prod.mk.injEq] at hScan
    omega
  · simp only [h, Prod.mk.injEq] at hScan
    omega

/- A token that is found is judged complete where it is. -/
theorem exists_accept_of_scan
    {input : List α}
    {c : Nat}
    {token : β}
    (hScan : G.scan input = (c, some token)) :
    ∃ o n, c = o + n ∧
      G.judge (input.drop o) = .accept n token := by
  induction input generalizing c with
  | nil => simp [scan] at hScan
  | cons a rest ih =>
      rcases G.scan_cases (a :: rest) with
        ⟨_, h⟩ | ⟨_, _, h⟩ | ⟨n, t, _, hJudge, h⟩ |
        ⟨b, tail, hInput, _, _, h⟩
      · simp [h] at hScan
      · simp [h] at hScan
      · rw [h] at hScan
        cases hScan
        exact ⟨0, c, by omega, hJudge⟩
      · rcases List.cons_eq_cons.mp hInput with ⟨_, hTail⟩
        subst hTail
        simp only [h, Prod.mk.injEq] at hScan
        rcases hScan with ⟨hCount, hSome⟩
        rcases ih (c := (G.scan rest).1)
            (Prod.ext rfl hSome) with
          ⟨o, n, hPlace, hJudge⟩
        exact ⟨o + 1, n, by omega, hJudge⟩

/- What is kept when no token is complete is below `reach`. -/
theorem retained_lt_reach
    {input : List α}
    {c : Nat}
    (hScan : G.scan input = (c, none)) :
    input.length - c < G.reach := by
  induction input generalizing c with
  | nil =>
      have hPos := G.window_pos
      have hReach := G.window_le_reach
      simp only [List.length_nil]
      omega
  | cons a rest ih =>
      rcases G.scan_cases (a :: rest) with
        ⟨hShort, _⟩ | ⟨_, hPending, _⟩ |
        ⟨n, t, _, _, h⟩ | ⟨b, tail, hInput, _, _, h⟩
      · have hReach := G.window_le_reach
        simp only [List.length_cons] at hShort ⊢
        omega
      · have hLength := G.pending_lt hPending
        simp only [List.length_cons] at hLength ⊢
        omega
      · simp [h] at hScan
      · rcases List.cons_eq_cons.mp hInput with ⟨_, hTail⟩
        subst hTail
        simp only [h, Prod.mk.injEq] at hScan
        rcases hScan with ⟨hCount, hNone⟩
        have hRest := ih (c := (G.scan rest).1)
          (Prod.ext rfl hNone)
        have hLe := G.scan_le rest
        simp only [List.length_cons]
        omega

------------------------------------------------------------
-- Finality
------------------------------------------------------------

/- A complete token is found again under every extension. -/
theorem scan_append_of_some
    {input : List α}
    {c : Nat}
    {token : β}
    (rest : List α)
    (hScan : G.scan input = (c, some token)) :
    G.scan (input ++ rest) = (c, some token) := by
  induction input generalizing c with
  | nil => simp [scan] at hScan
  | cons a tail ih =>
      rcases G.scan_cases (a :: tail) with
        ⟨_, h⟩ | ⟨_, _, h⟩ | ⟨n, t, hWindow, hJudge, h⟩ |
        ⟨b, tail', hInput, hWindow, hJudge, h⟩
      · simp [h] at hScan
      · simp [h] at hScan
      · have hLonger :
            G.window ≤ (a :: tail ++ rest).length := by
          simp only [List.length_append]
          omega
        rw [G.scan_of_accept hLonger
          (G.accept_append rest hJudge), ← h, hScan]
      · rcases List.cons_eq_cons.mp hInput with ⟨_, hTail⟩
        subst hTail
        have hLonger :
            G.window ≤ (a :: (tail ++ rest)).length := by
          simp only [List.length_cons,
            List.length_append] at hWindow ⊢
          omega
        simp only [h, Prod.mk.injEq] at hScan
        rcases hScan with ⟨hCount, hSome⟩
        have hRest := ih (c := (G.scan tail).1)
          (Prod.ext rfl hSome)
        have hStep := G.scan_of_reject hLonger
          (G.reject_append rest hWindow hJudge)
        simp only [List.cons_append, hStep, hRest,
          hCount]

/-
  When no token is complete, scanning an extension of the
  input is scanning an extension of what was kept.
-/
theorem scan_append_of_none
    {input : List α}
    {c : Nat}
    (rest : List α)
    (hScan : G.scan input = (c, none)) :
    G.scan (input ++ rest) =
      (c + (G.scan (input.drop c ++ rest)).1,
        (G.scan (input.drop c ++ rest)).2) := by
  induction input generalizing c with
  | nil =>
      simp only [scan, Prod.mk.injEq] at hScan
      simp [← hScan.1]
  | cons a tail ih =>
      rcases G.scan_cases (a :: tail) with
        ⟨_, h⟩ | ⟨_, _, h⟩ | ⟨n, t, _, _, h⟩ |
        ⟨b, tail', hInput, hWindow, hJudge, h⟩
      · simp only [h, Prod.mk.injEq] at hScan
        simp [← hScan.1]
      · simp only [h, Prod.mk.injEq] at hScan
        simp [← hScan.1]
      · simp [h] at hScan
      · rcases List.cons_eq_cons.mp hInput with ⟨_, hTail⟩
        subst hTail
        have hLonger :
            G.window ≤ (a :: (tail ++ rest)).length := by
          simp only [List.length_cons,
            List.length_append] at hWindow ⊢
          omega
        simp only [h, Prod.mk.injEq] at hScan
        rcases hScan with ⟨hCount, hNone⟩
        subst hCount
        have hRest := ih (c := (G.scan tail).1)
          (Prod.ext rfl hNone)
        have hStep := G.scan_of_reject hLonger
          (G.reject_append rest hWindow hJudge)
        simp only [List.cons_append, hStep, hRest,
          List.drop_succ_cons, Prod.mk.injEq, and_true]
        omega

/- A second scan of what was kept drops nothing. -/
theorem scan_drop_of_none
    {input : List α}
    {c : Nat}
    (hScan : G.scan input = (c, none)) :
    G.scan (input.drop c) = (0, none) := by
  have hAgain := G.scan_append_of_none [] hScan
  simp only [List.append_nil, hScan,
    Prod.mk.injEq] at hAgain
  rcases hAgain with ⟨hCount, hNone⟩
  exact Prod.ext (by omega) hNone.symm

------------------------------------------------------------
-- Leftmost Positions
------------------------------------------------------------

/- Every position before `o` is judged and is junk. -/
def JunkBefore
    (input : List α)
    (o : Nat) : Prop :=
  ∀ p, p < o →
    p + G.window ≤ input.length ∧
      G.judge (input.drop p) = .reject

/- Junk positions are dropped one by one. -/
theorem scan_of_junkBefore
    {input : List α}
    {o : Nat}
    (hJunk : G.JunkBefore input o) :
    G.scan input =
      (o + (G.scan (input.drop o)).1,
        (G.scan (input.drop o)).2) := by
  induction o generalizing input with
  | zero => simp
  | succ o ih =>
      rcases hJunk 0 (by omega) with ⟨hWindow, hReject⟩
      cases input with
      | nil =>
          have hPos := G.window_pos
          simp only [List.length_nil] at hWindow
          omega
      | cons a rest =>
          have hRest : G.JunkBefore rest o := by
            intro p hp
            rcases hJunk (p + 1) (by omega) with
              ⟨hView, hJudge⟩
            refine ⟨?_, by simpa using hJudge⟩
            simp only [List.length_cons] at hView
            omega
          rw [G.scan_of_reject (by simpa using hWindow)
            (by simpa using hReject), ih hRest]
          simp only [List.drop_succ_cons, Prod.mk.injEq,
            and_true]
          omega

/- The scan returns the token at the leftmost position. -/
theorem scan_of_leftmost_accept
    {input : List α}
    {o n : Nat}
    {token : β}
    (hJunk : G.JunkBefore input o)
    (hWindow : o + G.window ≤ input.length)
    (hAccept : G.judge (input.drop o) = .accept n token) :
    G.scan input = (o + n, some token) := by
  have hView : G.window ≤ (input.drop o).length := by
    simp only [List.length_drop]
    omega
  rw [G.scan_of_junkBefore hJunk,
    G.scan_of_accept hView hAccept]

/- The scan stops at a leftmost unfinished token. -/
theorem scan_of_leftmost_pending
    {input : List α}
    {o : Nat}
    (hJunk : G.JunkBefore input o)
    (hPending : G.judge (input.drop o) = .pending) :
    G.scan input = (o, none) := by
  rw [G.scan_of_junkBefore hJunk,
    G.scan_of_pending hPending]
  rfl

/- All junk: what is kept is too short to be judged. -/
theorem scan_of_all_junk
    {input : List α}
    (hJunk :
      G.JunkBefore input
        (input.length - (G.window - 1))) :
    G.scan input =
      (input.length - (G.window - 1), none) := by
  have hPos := G.window_pos
  have hShort :
      (input.drop
        (input.length - (G.window - 1))).length <
        G.window := by
    simp only [List.length_drop]
    omega
  rw [G.scan_of_junkBefore hJunk,
    G.scan_of_short hShort]
  rfl

end Grammar

end Framing
