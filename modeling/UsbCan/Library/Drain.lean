import UsbCan.Library.Grammar
import Mathlib.Data.List.Infix

/-
  Draining a stream with a grammar.

  Draining scans the front of the stream again and again,
  drops what was consumed, and delivers the tokens that a
  filter keeps, until no token is complete.  A reader that
  buffers arriving symbols tracks the stream when what it
  has delivered, followed by what its buffer still yields,
  is what the stream yields under every extension.

  Key definitions include:
    * `Framing.Grammar.drain`
    * `Framing.Grammar.next`
    * `Framing.Grammar.Tracks`

  Key theorems include:
    * `Framing.Grammar.scan_induction`
    * `Framing.Grammar.next_induction`
    * `Framing.Grammar.drain_reject`
    * `Framing.Grammar.drain_accept`
    * `Framing.Grammar.drain_prefix`
    * `Framing.Grammar.next_none_lt_reach`
    * `Framing.Grammar.Tracks.next`
    * `Framing.Grammar.Tracks.drain_eq`
    * `Framing.Grammar.drain_realign`
-/

------------------------------------------------------------
-- Draining
------------------------------------------------------------

namespace Framing

namespace Grammar

variable {α β γ : Type}
variable (G : Grammar α β) (keep : β → Option γ)

/- Deliver every kept token of a stream, in order. -/
def drain (input : List α) : List γ :=
  match _hScan : G.scan input with
  | (_, none) => []
  | (c, some token) =>
      (keep token).toList ++ drain (input.drop c)
termination_by input.length
decreasing_by
  have hPos := G.scan_pos _hScan
  have hLe := G.scan_le input
  simp only [_hScan] at hLe
  simp only [List.length_drop]
  omega

theorem drain_of_none
    {input : List α}
    {c : Nat}
    (hScan : G.scan input = (c, none)) :
    G.drain keep input = [] := by
  rw [drain]
  split
  · rfl
  · rename_i hSome
    simp [hSome] at hScan

theorem drain_of_some
    {input : List α}
    {c : Nat}
    {token : β}
    (hScan : G.scan input = (c, some token)) :
    G.drain keep input =
      (keep token).toList ++
        G.drain keep (input.drop c) := by
  rw [drain]
  split
  · rename_i hNone
    simp [hNone] at hScan
  · rename_i c' token' hSome
    rw [hSome] at hScan
    cases hScan
    rfl

/- Consuming a complete token shortens the stream. -/
theorem scan_some_lt
    {input : List α}
    {c : Nat}
    {token : β}
    (hScan : G.scan input = (c, some token)) :
    (input.drop c).length < input.length := by
  have hPos := G.scan_pos hScan
  have hLe := G.scan_le input
  simp only [hScan] at hLe
  simp only [List.length_drop]
  omega

/-
  Induction along a drain: a stream without a complete
  token, or a stream whose token has been consumed.
-/
theorem scan_induction
    {motive : List α → Prop}
    (stop :
      ∀ input c, G.scan input = (c, none) → motive input)
    (step :
      ∀ input c token, G.scan input = (c, some token) →
        motive (input.drop c) → motive input)
    (input : List α) :
    motive input := by
  induction hSize : input.length using
    Nat.strong_induction_on generalizing input with
  | h size ih =>
      cases hScan : G.scan input with
      | mk c found =>
          cases found with
          | none => exact stop input c hScan
          | some token =>
              have hSmaller : (input.drop c).length < size := by
                rw [← hSize]
                exact G.scan_some_lt hScan
              exact step input c token hScan
                (ih _ hSmaller (input.drop c) rfl)

/- A stream too short to judge yields nothing. -/
theorem drain_of_short
    {input : List α}
    (hShort : input.length < G.window) :
    G.drain keep input = [] :=
  G.drain_of_none keep (G.scan_of_short hShort)

@[simp] theorem drain_nil :
    G.drain keep [] = [] :=
  G.drain_of_short keep G.window_pos

/- A junk symbol at the front yields nothing. -/
theorem drain_reject
    {a : α}
    {rest : List α}
    (hWindow : G.window ≤ (a :: rest).length)
    (hReject : G.judge (a :: rest) = .reject) :
    G.drain keep (a :: rest) = G.drain keep rest := by
  have hStep := G.scan_of_reject hWindow hReject
  cases hToken : (G.scan rest).2 with
  | none =>
      have hRest : G.scan rest = ((G.scan rest).1, none) :=
        Prod.ext rfl hToken
      rw [hToken] at hStep
      rw [G.drain_of_none keep hStep,
        G.drain_of_none keep hRest]
  | some token =>
      have hRest :
          G.scan rest = ((G.scan rest).1, some token) :=
        Prod.ext rfl hToken
      rw [hToken] at hStep
      rw [G.drain_of_some keep hStep,
        G.drain_of_some keep hRest, List.drop_succ_cons]

/- A complete token at the front is delivered first. -/
theorem drain_accept
    {input : List α}
    {n : Nat}
    {token : β}
    (hWindow : G.window ≤ input.length)
    (hAccept : G.judge input = .accept n token) :
    G.drain keep input =
      (keep token).toList ++
        G.drain keep (input.drop n) :=
  G.drain_of_some keep (G.scan_of_accept hWindow hAccept)

/-
  Symbols that are junk wherever they stand yield nothing.
-/
theorem drain_junk
    {junk : List α}
    (rest : List α)
    (hJunk :
      ∀ a ∈ junk, ∀ tail : List α,
        G.judge (a :: tail) = .reject) :
    G.drain keep (junk ++ rest) = G.drain keep rest := by
  induction junk with
  | nil => rfl
  | cons a junk ih =>
      have hRest := ih (fun b hb =>
        hJunk b (List.mem_cons_of_mem a hb))
      have hReject := hJunk a List.mem_cons_self
      by_cases hWindow :
          G.window ≤ (a :: (junk ++ rest)).length
      · rw [List.cons_append,
          G.drain_reject keep hWindow (hReject _), hRest]
      · have hShort :
            (a :: (junk ++ rest)).length < G.window := by
          omega
        have hShorter : rest.length < G.window := by
          simp only [List.length_cons,
            List.length_append] at hShort
          omega
        rw [List.cons_append,
          G.drain_of_short keep hShort,
          G.drain_of_short keep hShorter]

/- What a stream yields is yielded first by a longer one. -/
theorem drain_prefix
    (input rest : List α) :
    G.drain keep input <+: G.drain keep (input ++ rest) := by
  induction input using G.scan_induction with
  | stop input c hScan =>
      rw [G.drain_of_none keep hScan]
      exact List.nil_prefix
  | step input c token hScan ih =>
      have hLe := G.scan_le input
      simp only [hScan] at hLe
      rw [G.drain_of_some keep hScan,
        G.drain_of_some keep
          (G.scan_append_of_some rest hScan),
        List.drop_append_of_le_length hLe]
      exact (List.prefix_append_right_inj _).mpr ih

/- All that is drained was kept. -/
theorem mem_drain
    {input : List α}
    {value : γ}
    (hMem : value ∈ G.drain keep input) :
    ∃ token, keep token = some value := by
  induction input using G.scan_induction with
  | stop input c hScan =>
      rw [G.drain_of_none keep hScan] at hMem
      cases hMem
  | step input c token hScan ih =>
      rw [G.drain_of_some keep hScan, List.mem_append] at hMem
      rcases hMem with hHere | hLater
      · exact ⟨token, Option.mem_toList.mp hHere⟩
      · exact ih hLater

/- A token that has only begun yields nothing. -/
theorem drain_of_begun
    {front rest : List α}
    {token : β}
    (hToken :
      G.judge (front ++ rest) =
        .accept (front ++ rest).length token)
    (hRest : rest ≠ []) :
    G.drain keep front = [] := by
  have hMore : 0 < rest.length :=
    List.length_pos_of_ne_nil hRest
  by_cases hShort : front.length < G.window
  · exact G.drain_of_short keep hShort
  · cases hJudge : G.judge front with
    | pending =>
        exact G.drain_of_none keep (G.scan_of_pending hJudge)
    | reject =>
        have hReject :=
          G.reject_append rest (Nat.not_lt.mp hShort) hJudge
        rw [hToken] at hReject
        cases hReject
    | accept n other =>
        have hAccept := G.accept_append rest hJudge
        have hLe := (G.accept_le hJudge).1
        rw [hToken] at hAccept
        cases hAccept
        simp only [List.length_append] at hLe
        omega

------------------------------------------------------------
-- The Next Delivery
------------------------------------------------------------

/-
  Scan until a token is kept or none is complete.  The
  result is the kept token and what is left of the input.
-/
def next (input : List α) : Option γ × List α :=
  match _hScan : G.scan input with
  | (c, none) => (none, input.drop c)
  | (c, some token) =>
      match keep token with
      | some delivered => (some delivered, input.drop c)
      | none => next (input.drop c)
termination_by input.length
decreasing_by
  have hPos := G.scan_pos _hScan
  have hLe := G.scan_le input
  simp only [_hScan] at hLe
  simp only [List.length_drop]
  omega

theorem next_of_none
    {input : List α}
    {c : Nat}
    (hScan : G.scan input = (c, none)) :
    G.next keep input = (none, input.drop c) := by
  rw [next]
  split
  · rename_i c' hNone
    rw [hNone] at hScan
    cases hScan
    rfl
  · rename_i hSome
    simp [hSome] at hScan

theorem next_of_kept
    {input : List α}
    {c : Nat}
    {token : β}
    {delivered : γ}
    (hScan : G.scan input = (c, some token))
    (hKeep : keep token = some delivered) :
    G.next keep input =
      (some delivered, input.drop c) := by
  rw [next]
  split
  · rename_i hNone
    simp [hNone] at hScan
  · rename_i c' token' hSome
    rw [hSome] at hScan
    cases hScan
    rw [hKeep]

theorem next_of_dropped
    {input : List α}
    {c : Nat}
    {token : β}
    (hScan : G.scan input = (c, some token))
    (hKeep : keep token = none) :
    G.next keep input = G.next keep (input.drop c) := by
  rw [next]
  split
  · rename_i hNone
    simp [hNone] at hScan
  · rename_i c' token' hSome
    rw [hSome] at hScan
    cases hScan
    rw [hKeep]

/-
  The next delivery by cases: nothing is complete, or a
  token is kept, or a token is dropped and the search goes
  on behind it.
-/
theorem next_cases
    (input : List α) :
    (∃ c, G.scan input = (c, none) ∧
        G.next keep input = (none, input.drop c)) ∨
      (∃ c token delivered,
        G.scan input = (c, some token) ∧
          keep token = some delivered ∧
          G.next keep input =
            (some delivered, input.drop c)) ∨
      ∃ c token,
        G.scan input = (c, some token) ∧
          keep token = none ∧
          (input.drop c).length < input.length ∧
          G.next keep input =
            G.next keep (input.drop c) := by
  cases hScan : G.scan input with
  | mk c found =>
      cases found with
      | none =>
          exact Or.inl
            ⟨c, rfl, G.next_of_none keep hScan⟩
      | some token =>
          cases hKeep : keep token with
          | some delivered =>
              exact Or.inr (Or.inl
                ⟨c, token, delivered, rfl, hKeep,
                  G.next_of_kept keep hScan hKeep⟩)
          | none =>
              exact Or.inr (Or.inr
                ⟨c, token, rfl, hKeep, G.scan_some_lt hScan,
                  G.next_of_dropped keep hScan hKeep⟩)

/-
  Induction along a search: nothing is complete, a token is
  kept, or one is dropped and the search goes on behind it.
-/
theorem next_induction
    {motive : List α → Prop}
    (stop :
      ∀ input c, G.scan input = (c, none) →
        G.next keep input = (none, input.drop c) →
          motive input)
    (kept :
      ∀ input c token value,
        G.scan input = (c, some token) →
          keep token = some value →
            G.next keep input = (some value, input.drop c) →
              motive input)
    (dropped :
      ∀ input c token, G.scan input = (c, some token) →
        keep token = none →
          G.next keep input = G.next keep (input.drop c) →
            motive (input.drop c) → motive input)
    (input : List α) :
    motive input := by
  induction input using G.scan_induction with
  | stop input c hScan =>
      exact stop input c hScan (G.next_of_none keep hScan)
  | step input c token hScan ih =>
      cases hKeep : keep token with
      | none =>
          exact dropped input c token hScan hKeep
            (G.next_of_dropped keep hScan hKeep) ih
      | some value =>
          exact kept input c token value hScan hKeep
            (G.next_of_kept keep hScan hKeep)

/- A search without a delivery leaves less than `reach`. -/
theorem next_none_lt_reach
    {input rest : List α}
    (hNext : G.next keep input = (none, rest)) :
    rest.length < G.reach ∧ G.scan rest = (0, none) := by
  induction input using G.next_induction keep with
  | stop input c hScan hStep =>
      rw [hStep] at hNext
      cases hNext
      refine ⟨?_, G.scan_drop_of_none hScan⟩
      simpa using G.retained_lt_reach hScan
  | kept input c token value hScan hKeep hStep =>
      rw [hStep] at hNext
      cases hNext
  | dropped input c token hScan hKeep hStep ih =>
      rw [hStep] at hNext
      exact ih hNext

------------------------------------------------------------
-- Tracking a Growing Stream
------------------------------------------------------------

/-
  After `taken` symbols of the stream a reader has delivered
  `delivered` and still holds `buffer`.  It tracks the
  stream when no continuation tells it apart from a reader
  that sees the whole stream at once.
-/
def Tracks
    (taken : List α)
    (delivered : List γ)
    (buffer : List α) : Prop :=
  ∀ rest,
    G.drain keep (taken ++ rest) =
      delivered ++ G.drain keep (buffer ++ rest)

namespace Tracks

variable {G : Grammar α β} {keep : β → Option γ}
variable {taken buffer : List α} {delivered : List γ}

/- Nothing taken, nothing delivered, nothing buffered. -/
theorem start :
    G.Tracks keep [] [] [] := by
  intro rest
  simp

/- Arriving symbols go to the end of the buffer. -/
theorem arrive
    (hTracks : G.Tracks keep taken delivered buffer)
    (chunk : List α) :
    G.Tracks keep (taken ++ chunk) delivered
      (buffer ++ chunk) := by
  intro rest
  simpa only [List.append_assoc] using
    hTracks (chunk ++ rest)

/- Dropping the junk of a scan without a token. -/
theorem scanNone
    (hTracks : G.Tracks keep taken delivered buffer)
    {c : Nat}
    (hScan : G.scan buffer = (c, none)) :
    G.Tracks keep taken delivered (buffer.drop c) := by
  intro rest
  rw [hTracks rest]
  have hAppend := G.scan_append_of_none rest hScan
  generalize hKept : buffer.drop c ++ rest = kept at hAppend
  cases hToken : (G.scan kept).2 with
  | none =>
      have hLater : G.scan kept = ((G.scan kept).1, none) :=
        Prod.ext rfl hToken
      rw [hToken] at hAppend
      rw [G.drain_of_none keep hAppend,
        G.drain_of_none keep hLater]
  | some token =>
      have hLater :
          G.scan kept = ((G.scan kept).1, some token) :=
        Prod.ext rfl hToken
      have hLe := G.scan_le buffer
      simp only [hScan] at hLe
      rw [hToken] at hAppend
      rw [G.drain_of_some keep hAppend,
        G.drain_of_some keep hLater, ← hKept,
        ← List.drop_drop,
        List.drop_append_of_le_length hLe]

/- Consuming the token of a scan delivers it if kept. -/
theorem scanSome
    (hTracks : G.Tracks keep taken delivered buffer)
    {c : Nat}
    {token : β}
    (hScan : G.scan buffer = (c, some token)) :
    G.Tracks keep taken
      (delivered ++ (keep token).toList)
      (buffer.drop c) := by
  intro rest
  have hLe := G.scan_le buffer
  simp only [hScan] at hLe
  rw [hTracks rest,
    G.drain_of_some keep
      (G.scan_append_of_some rest hScan),
    List.drop_append_of_le_length hLe, List.append_assoc]

/- The next delivery, if any, is appended. -/
theorem next
    (hTracks : G.Tracks keep taken delivered buffer) :
    G.Tracks keep taken
      (delivered ++ (G.next keep buffer).1.toList)
      (G.next keep buffer).2 := by
  induction buffer using G.next_induction keep with
  | stop buffer c hScan hStep =>
      rw [hStep]
      simpa using hTracks.scanNone hScan
  | kept buffer c token value hScan hKeep hStep =>
      rw [hStep]
      simpa [hKeep] using hTracks.scanSome hScan
  | dropped buffer c token hScan hKeep hStep ih =>
      rw [hStep]
      apply ih
      simpa [hKeep] using hTracks.scanSome hScan

/- Delivered and still deliverable is all there is. -/
theorem drain_eq
    (hTracks : G.Tracks keep taken delivered buffer) :
    G.drain keep taken =
      delivered ++ G.drain keep buffer := by
  simpa using hTracks []

/-
  A reader whose buffer has no complete token has delivered
  everything.
-/
theorem delivered_eq
    (hTracks : G.Tracks keep taken delivered buffer)
    {c : Nat}
    (hScan : G.scan buffer = (c, none)) :
    G.drain keep taken = delivered := by
  rw [hTracks.drain_eq, G.drain_of_none keep hScan,
    List.append_nil]

end Tracks

------------------------------------------------------------
-- Realignment
------------------------------------------------------------

/-
  A drain of `front ++ rest` leaves `front` less than
  `reach` symbols into `rest`, when `rest` is long enough
  that no unfinished token can block the scan in `front`.
-/
theorem drain_realign
    (front rest : List α)
    (hRest : G.reach ≤ rest.length) :
    ∃ delivered k,
      k < G.reach ∧
        G.drain keep (front ++ rest) =
          delivered ++ G.drain keep (rest.drop k) := by
  have hPos := G.window_pos
  have hReach := G.window_le_reach
  induction hSize : front.length using
    Nat.strong_induction_on generalizing front with
  | h size ih =>
      cases front with
      | nil =>
          exact ⟨[], 0, by omega, by simp⟩
      | cons a front =>
          have hLength :
              (a :: front ++ rest).length =
                front.length + 1 + rest.length := by
            simp
            omega
          have hWindow :
              G.window ≤ (a :: front ++ rest).length := by
            omega
          simp only [List.length_cons] at hSize
          cases hJudge : G.judge (a :: front ++ rest) with
          | reject =>
              rcases ih front.length (by omega) front rfl
                with ⟨delivered, k, hk, hDrain⟩
              refine ⟨delivered, k, hk, ?_⟩
              have hStep :
                  G.drain keep (a :: (front ++ rest)) =
                    G.drain keep (front ++ rest) :=
                G.drain_reject keep hWindow hJudge
              rw [List.cons_append, hStep, hDrain]
          | pending =>
              have hBound := G.pending_lt hJudge
              omega
          | accept n token =>
              have hStep := G.drain_accept keep hWindow hJudge
              have hToken := (G.accept_le hJudge).2
              have hTokenPos := G.accept_pos hJudge
              by_cases hInside : n ≤ front.length + 1
              · have hSplit :
                    (a :: front ++ rest).drop n =
                      (a :: front).drop n ++ rest :=
                  List.drop_append_of_le_length
                    (by simpa using hInside)
                rcases ih ((a :: front).drop n).length
                    (by
                      simp only [List.length_drop,
                        List.length_cons]
                      omega)
                    ((a :: front).drop n) rfl with
                  ⟨delivered, k, hk, hDrain⟩
                refine
                  ⟨(keep token).toList ++ delivered, k, hk,
                    ?_⟩
                rw [hStep, hSplit, hDrain,
                  List.append_assoc]
              · have hSplit :
                    (a :: front ++ rest).drop n =
                      rest.drop (n - (front.length + 1)) := by
                  rw [List.drop_append,
                    List.drop_eq_nil_of_le (by
                      simp only [List.length_cons]
                      omega),
                    List.nil_append, List.length_cons]
                exact
                  ⟨(keep token).toList,
                    n - (front.length + 1), by omega, by
                    rw [hStep, hSplit]⟩

end Grammar

end Framing
