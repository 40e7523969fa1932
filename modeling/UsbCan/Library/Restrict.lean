import UsbCan.Library.Drain
import Mathlib.Data.Nat.Find

/-
  Validity checks inside a grammar and behind it.

  A token can be checked in two places.  A restricted
  grammar judges an invalid token junk, and the scan resumes
  one symbol behind its front.  A filter behind the scan
  drops the whole token, and with it all that begins inside.
  The two stop at the same places exactly when no dropped
  token hides a place at which the restricted scan stops.

  Key definitions include:
    * `Framing.Grammar.restrict`
    * `Framing.Grammar.stops`
    * `Framing.Grammar.Visits`
    * `Framing.Grammar.NothingHidden`

  Key theorems include:
    * `Framing.Grammar.judge_induction`
    * `Framing.Grammar.stops_of_junk`
    * `Framing.Grammar.drain_eq_stops`
    * `Framing.Grammar.stops_restrict_iff`
-/

------------------------------------------------------------
-- Restricted Grammars
------------------------------------------------------------

namespace Framing

namespace Verdict

variable {β : Type}

/- An invalid token is junk. -/
def restrict
    (valid : β → Prop) [DecidablePred valid] :
    Verdict β → Verdict β
| .reject => .reject
| .pending => .pending
| .accept n token =>
    if valid token then .accept n token else .reject

variable {valid : β → Prop} [DecidablePred valid]
variable {verdict : Verdict β}

theorem restrict_eq_pending_iff :
    verdict.restrict valid = .pending ↔
      verdict = .pending := by
  cases verdict with
  | reject => simp [restrict]
  | pending => simp [restrict]
  | accept n token =>
      by_cases hValid : valid token <;>
        simp [restrict, hValid]

theorem restrict_eq_accept_iff
    {n : Nat}
    {token : β} :
    verdict.restrict valid = .accept n token ↔
      verdict = .accept n token ∧ valid token := by
  cases verdict with
  | reject => simp [restrict]
  | pending => simp [restrict]
  | accept n' token' =>
      by_cases hValid : valid token'
      · simp only [restrict, if_pos hValid]
        constructor
        · intro hSame
          cases hSame
          exact ⟨rfl, hValid⟩
        · intro hSame
          exact hSame.1
      · simp only [restrict, if_neg hValid]
        constructor
        · intro hSame
          cases hSame
        · rintro ⟨hSame, hToken⟩
          cases hSame
          exact absurd hToken hValid

theorem restrict_eq_reject_iff :
    verdict.restrict valid = .reject ↔
      verdict = .reject ∨
        ∃ n token,
          verdict = .accept n token ∧ ¬ valid token := by
  cases verdict with
  | reject => simp [restrict]
  | pending => simp [restrict]
  | accept n token =>
      by_cases hValid : valid token <;>
        simp [restrict, hValid]

end Verdict

namespace Grammar

variable {α β γ : Type}

/- The grammar in which an invalid token is junk. -/
def restrict
    (G : Grammar α β)
    (valid : β → Prop) [DecidablePred valid] :
    Grammar α β where
  window := G.window
  reach := G.reach
  judge input := (G.judge input).restrict valid
  window_pos := G.window_pos
  window_le_reach := G.window_le_reach
  pending_lt hJudge :=
    G.pending_lt (Verdict.restrict_eq_pending_iff.mp hJudge)
  accept_pos hJudge :=
    G.accept_pos (Verdict.restrict_eq_accept_iff.mp hJudge).1
  accept_le hJudge :=
    G.accept_le (Verdict.restrict_eq_accept_iff.mp hJudge).1
  reject_append := by
    intro input rest hWindow hJudge
    rw [Verdict.restrict_eq_reject_iff] at hJudge ⊢
    rcases hJudge with hReject | ⟨n, token, hAccept, hToken⟩
    · exact Or.inl (G.reject_append rest hWindow hReject)
    · exact Or.inr
        ⟨n, token, G.accept_append rest hAccept, hToken⟩
  accept_append := by
    intro input n token rest hJudge
    rw [Verdict.restrict_eq_accept_iff] at hJudge ⊢
    exact ⟨G.accept_append rest hJudge.1, hJudge.2⟩

------------------------------------------------------------
-- Stops
------------------------------------------------------------

/-
  Where a drain stops: behind a delivered token or in front
  of an unfinished one, with the number of symbols from
  there on.
-/
inductive Stop (γ : Type) where
| delivered (value : γ) (left : Nat)
| unfinished (left : Nat)
deriving DecidableEq, Repr

/- What a stop delivers. -/
def Stop.value? : Stop γ → Option γ
| .delivered value _ => some value
| .unfinished _ => none

variable (G : Grammar α β) (keep : β → Option γ)

/- All stops of a drain, in order. -/
def stops (input : List α) : List (Stop γ) :=
  match _hScan : G.scan input with
  | (c, none) =>
      if (input.drop c).length < G.window then
        []
      else
        [.unfinished (input.drop c).length]
  | (c, some token) =>
      match keep token with
      | some value =>
          .delivered value (input.drop c).length ::
            stops (input.drop c)
      | none => stops (input.drop c)
termination_by input.length
decreasing_by
  all_goals
    have hPos := G.scan_pos _hScan
    have hLe := G.scan_le input
    simp only [_hScan] at hLe
    simp only [List.length_drop]
    omega

theorem stops_of_scan_none
    {input : List α}
    {c : Nat}
    (hScan : G.scan input = (c, none)) :
    G.stops keep input =
      if (input.drop c).length < G.window then
        []
      else
        [.unfinished (input.drop c).length] := by
  rw [stops]
  split
  · rename_i c' hNone
    rw [hNone] at hScan
    cases hScan
    rfl
  · rename_i hSome
    simp [hSome] at hScan

theorem stops_of_scan_some
    {input : List α}
    {c : Nat}
    {token : β}
    (hScan : G.scan input = (c, some token)) :
    G.stops keep input =
      ((keep token).map (fun value =>
          Stop.delivered value
            (input.drop c).length)).toList ++
        G.stops keep (input.drop c) := by
  rw [stops]
  split
  · rename_i hNone
    simp [hNone] at hScan
  · rename_i c' token' hSome
    rw [hSome] at hScan
    cases hScan
    cases hKeep : keep token with
    | none => rfl
    | some value => rfl

/-
  Induction along a drain by what is in front: too little, an
  unfinished token, a junk symbol or a complete token.
-/
theorem judge_induction
    {motive : List α → Prop}
    (short :
      ∀ input, input.length < G.window → motive input)
    (pending :
      ∀ input, G.window ≤ input.length →
        G.judge input = .pending → motive input)
    (reject :
      ∀ a rest, G.window ≤ (a :: rest).length →
        G.judge (a :: rest) = .reject →
          motive rest → motive (a :: rest))
    (accept :
      ∀ input n token, G.window ≤ input.length →
        G.judge input = .accept n token →
          motive (input.drop n) → motive input)
    (input : List α) :
    motive input := by
  induction hSize : input.length using
    Nat.strong_induction_on generalizing input with
  | h size ih =>
      have hPos := G.window_pos
      by_cases hShort : input.length < G.window
      · exact short input hShort
      · have hWindow : G.window ≤ input.length := by omega
        cases hJudge : G.judge input with
        | pending => exact pending input hWindow hJudge
        | reject =>
            cases input with
            | nil =>
                simp only [List.length_nil] at hWindow
                omega
            | cons a rest =>
                have hRest : rest.length < size := by
                  simp only [List.length_cons] at hSize
                  omega
                exact reject a rest hWindow hJudge
                  (ih _ hRest rest rfl)
        | accept n token =>
            have hTaken := G.accept_pos hJudge
            have hRest : (input.drop n).length < size := by
              simp only [List.length_drop]
              omega
            exact accept input n token hWindow hJudge
              (ih _ hRest (input.drop n) rfl)

/- A stream too short to judge has no stop. -/
theorem stops_of_short
    {input : List α}
    (hShort : input.length < G.window) :
    G.stops keep input = [] := by
  rw [G.stops_of_scan_none keep (G.scan_of_short hShort),
    List.drop_zero, if_pos hShort]

/- An unfinished token at the front is the only stop. -/
theorem stops_of_pending
    {input : List α}
    (hWindow : G.window ≤ input.length)
    (hPending : G.judge input = .pending) :
    G.stops keep input = [.unfinished input.length] := by
  rw [G.stops_of_scan_none keep (G.scan_of_pending hPending),
    List.drop_zero, if_neg (by omega)]

/- A junk symbol at the front is passed. -/
theorem stops_of_reject
    {a : α}
    {rest : List α}
    (hWindow : G.window ≤ (a :: rest).length)
    (hReject : G.judge (a :: rest) = .reject) :
    G.stops keep (a :: rest) = G.stops keep rest := by
  have hStep := G.scan_of_reject hWindow hReject
  cases hToken : (G.scan rest).2 with
  | none =>
      have hRest : G.scan rest = ((G.scan rest).1, none) :=
        Prod.ext rfl hToken
      rw [hToken] at hStep
      rw [G.stops_of_scan_none keep hStep,
        G.stops_of_scan_none keep hRest,
        List.drop_succ_cons]
  | some token =>
      have hRest :
          G.scan rest = ((G.scan rest).1, some token) :=
        Prod.ext rfl hToken
      rw [hToken] at hStep
      rw [G.stops_of_scan_some keep hStep,
        G.stops_of_scan_some keep hRest,
        List.drop_succ_cons]

/- A complete token at the front is passed as a whole. -/
theorem stops_of_accept
    {input : List α}
    {n : Nat}
    {token : β}
    (hWindow : G.window ≤ input.length)
    (hAccept : G.judge input = .accept n token) :
    G.stops keep input =
      ((keep token).map (fun value =>
          Stop.delivered value
            (input.drop n).length)).toList ++
        G.stops keep (input.drop n) :=
  G.stops_of_scan_some keep
    (G.scan_of_accept hWindow hAccept)

/- A drain delivers at its stops. -/
theorem drain_eq_stops
    (input : List α) :
    G.drain keep input =
      (G.stops keep input).filterMap Stop.value? := by
  induction input using G.scan_induction with
  | stop input c hScan =>
      rw [G.drain_of_none keep hScan,
        G.stops_of_scan_none keep hScan]
      split <;> rfl
  | step input c token hScan ih =>
      rw [G.drain_of_some keep hScan,
        G.stops_of_scan_some keep hScan,
        List.filterMap_append, ih]
      cases keep token with
      | none => rfl
      | some value => rfl

/-
  The stops of a search for the next delivery: the delivery
  and what is behind it, or an unfinished token.
-/
theorem stops_of_next
    (input : List α) :
    G.stops keep input =
      match G.next keep input with
      | (some value, rest) =>
          .delivered value rest.length :: G.stops keep rest
      | (none, rest) =>
          if rest.length < G.window then
            []
          else
            [.unfinished rest.length] := by
  induction input using G.next_induction keep with
  | stop input c hScan hStep =>
      rw [hStep, G.stops_of_scan_none keep hScan]
  | kept input c token value hScan hKeep hStep =>
      rw [hStep, G.stops_of_scan_some keep hScan, hKeep]
      rfl
  | dropped input c token hScan hKeep hStep ih =>
      rw [hStep, G.stops_of_scan_some keep hScan, hKeep, ← ih]
      rfl

/- A delivery shortens the input. -/
theorem next_some_lt
    {input rest : List α}
    {value : γ}
    (hNext : G.next keep input = (some value, rest)) :
    rest.length < input.length := by
  induction input using G.next_induction keep with
  | stop input c hScan hStep =>
      rw [hStep] at hNext
      cases hNext
  | kept input c token found hScan hKeep hStep =>
      rw [hStep] at hNext
      cases hNext
      exact G.scan_some_lt hScan
  | dropped input c token hScan hKeep hStep ih =>
      rw [hStep] at hNext
      exact (ih hNext).trans (G.scan_some_lt hScan)

------------------------------------------------------------
-- Positions of Stops
------------------------------------------------------------

/- A position in view that is not junk. -/
def StopsAt
    (input : List α)
    (p : Nat) : Prop :=
  p + G.window ≤ input.length ∧
    G.judge (input.drop p) ≠ .reject

/- Positions without a stop are passed. -/
theorem stops_of_junk
    {input : List α}
    {n : Nat}
    (hJunk : ∀ p, p < n → ¬ G.StopsAt input p) :
    G.stops keep input = G.stops keep (input.drop n) := by
  induction n generalizing input with
  | zero => rfl
  | succ n ih =>
      by_cases hShort : input.length < G.window
      · have hShorter :
            (input.drop (n + 1)).length < G.window := by
          simp only [List.length_drop]
          omega
        rw [G.stops_of_short keep hShort,
          G.stops_of_short keep hShorter]
      · have hReject : G.judge input = .reject := by
          by_contra hStops
          exact hJunk 0 (by omega) ⟨by omega, hStops⟩
        cases input with
        | nil =>
            have hPos := G.window_pos
            simp only [List.length_nil] at hShort
            omega
        | cons a rest =>
            have hRest :
                ∀ p, p < n → ¬ G.StopsAt rest p := by
              rintro p hp ⟨hView, hStops⟩
              apply hJunk (p + 1) (by omega)
              refine ⟨?_, by simpa using hStops⟩
              simp only [List.length_cons]
              omega
            rw [G.stops_of_reject keep (by omega) hReject,
              ih hRest, List.drop_succ_cons]

/- A delivery comes from a token at some position. -/
theorem exists_accept_of_delivered
    {input : List α}
    {value : γ}
    {left : Nat}
    (hStop : .delivered value left ∈ G.stops keep input) :
    ∃ p n token,
      p + n + left = input.length ∧
        G.judge (input.drop p) = .accept n token ∧
        keep token = some value := by
  induction input using G.scan_induction with
  | stop input c hScan =>
      rw [G.stops_of_scan_none keep hScan] at hStop
      split at hStop
      · cases hStop
      · simp at hStop
  | step input c token hScan ih =>
      have hLe := G.scan_le input
      simp only [hScan] at hLe
      rw [G.stops_of_scan_some keep hScan,
        List.mem_append] at hStop
      rcases hStop with hHere | hLater
      · rcases G.exists_accept_of_scan hScan with
          ⟨o, n, hPlace, hJudge⟩
        cases hKeep : keep token with
        | none =>
            rw [hKeep] at hHere
            cases hHere
        | some found =>
            simp only [hKeep, Option.map_some,
              Option.toList_some, List.mem_singleton,
              Stop.delivered.injEq] at hHere
            rcases hHere with ⟨rfl, rfl⟩
            refine ⟨o, n, token, ?_, hJudge, hKeep⟩
            simp only [List.length_drop]
            omega
      · rcases ih hLater with
          ⟨p, n, later, hPlace, hJudge, hKeep⟩
        refine ⟨c + p, n, later, ?_, ?_, hKeep⟩
        · simp only [List.length_drop] at hPlace
          omega
        · rw [← List.drop_drop]
          exact hJudge

/- An unfinished token is not longer than the input. -/
theorem unfinished_le
    {input : List α}
    {left : Nat}
    (hStop : .unfinished left ∈ G.stops keep input) :
    left ≤ input.length := by
  induction input using G.scan_induction with
  | stop input c hScan =>
      rw [G.stops_of_scan_none keep hScan] at hStop
      split at hStop
      · cases hStop
      · simp only [List.mem_singleton,
          Stop.unfinished.injEq] at hStop
        subst hStop
        simp only [List.length_drop]
        omega
  | step input c token hScan ih =>
      rw [G.stops_of_scan_some keep hScan,
        List.mem_append] at hStop
      rcases hStop with hHere | hLater
      · cases hKeep : keep token with
        | none =>
            rw [hKeep] at hHere
            cases hHere
        | some found => simp [hKeep] at hHere
      · have hRest := ih hLater
        simp only [List.length_drop] at hRest
        omega

------------------------------------------------------------
-- Visited Positions
------------------------------------------------------------

/-
  How far a drain goes from the front of its input: past one
  junk symbol or past a complete token.
-/
def stride (input : List α) : Option Nat :=
  if input.length < G.window then
    none
  else
    match G.judge input with
    | .reject => some 1
    | .pending => none
    | .accept n _ => some n

/- The positions a drain goes through. -/
inductive Visits (input : List α) : Nat → Prop
| start : Visits input 0
| next {o k : Nat} :
    Visits input o → G.stride (input.drop o) = some k →
      Visits input (o + k)

variable {G}

theorem stride_of_short
    {input : List α}
    (hShort : input.length < G.window) :
    G.stride input = none := by
  rw [stride, if_pos hShort]

theorem stride_of_pending
    {input : List α}
    (hPending : G.judge input = .pending) :
    G.stride input = none := by
  simp [stride, hPending]

theorem stride_of_reject
    {input : List α}
    (hWindow : G.window ≤ input.length)
    (hReject : G.judge input = .reject) :
    G.stride input = some 1 := by
  rw [stride, if_neg (by omega), hReject]

theorem stride_of_accept
    {input : List α}
    {n : Nat}
    {token : β}
    (hWindow : G.window ≤ input.length)
    (hAccept : G.judge input = .accept n token) :
    G.stride input = some n := by
  rw [stride, if_neg (by omega), hAccept]

/- Where a drain cannot go on it is at its only position. -/
theorem Visits.eq_zero
    {input : List α}
    {o : Nat}
    (hVisits : G.Visits input o)
    (hStride : G.stride input = none) :
    o = 0 := by
  induction hVisits with
  | start => rfl
  | next _ hNext ih =>
      subst ih
      rw [List.drop_zero, hStride] at hNext
      cases hNext

/- The positions behind the first step of a drain. -/
theorem Visits.of_drop
    {input : List α}
    {k o : Nat}
    (hStride : G.stride input = some k)
    (hVisits : G.Visits (input.drop k) o) :
    G.Visits input (k + o) := by
  induction hVisits with
  | start =>
      have hFirst : G.stride (input.drop 0) = some k := by
        rw [List.drop_zero, hStride]
      simpa using Visits.next Visits.start hFirst
  | next _ hNext ih =>
      rw [List.drop_drop] at hNext
      rw [← Nat.add_assoc]
      exact .next ih hNext

/- A position is the front or behind the first step. -/
theorem Visits.cases_front
    {input : List α}
    {k o : Nat}
    (hVisits : G.Visits input o)
    (hStride : G.stride input = some k) :
    o = 0 ∨
      ∃ o', o = k + o' ∧ G.Visits (input.drop k) o' := by
  induction hVisits with
  | start => exact Or.inl rfl
  | @next o j _ hNext ih =>
      rcases ih with rfl | ⟨o', rfl, hBehind⟩
      · rw [List.drop_zero, hStride] at hNext
        cases hNext
        exact Or.inr ⟨0, by omega, .start⟩
      · refine Or.inr ⟨o' + j, by omega, ?_⟩
        apply Visits.next hBehind
        rw [List.drop_drop]
        exact hNext

------------------------------------------------------------
-- Hidden Stops
------------------------------------------------------------

variable (G)
variable (valid : β → Prop) [DecidablePred valid]

/-
  An invalid token at the front of `input` hides no stop of
  the restricted grammar.
-/
def HidesNothing (input : List α) : Prop :=
  ∀ n token,
    G.judge input = .accept n token → ¬ valid token →
      ∀ p, 0 < p → p < n →
        ¬ (G.restrict valid).StopsAt input p

/- No invalid token that a drain visits hides a stop. -/
def NothingHidden (input : List α) : Prop :=
  ∀ o, G.Visits input o →
    o + G.window ≤ input.length →
      G.HidesNothing valid (input.drop o)

variable {G valid}

/- A drain that cannot go on has no token to drop. -/
theorem nothingHidden_of_stride_none
    {input : List α}
    (hStride : G.stride input = none) :
    G.NothingHidden valid input := by
  intro o hVisits hView
  have hFront := hVisits.eq_zero hStride
  subst hFront
  intro n token hJudge
  rw [List.drop_zero] at hJudge
  rw [stride_of_accept (by omega) hJudge] at hStride
  cases hStride

/- Hiding nothing, at the front and behind the first step. -/
theorem nothingHidden_iff_of_stride
    {input : List α}
    {k : Nat}
    (hWindow : G.window ≤ input.length)
    (hStride : G.stride input = some k) :
    G.NothingHidden valid input ↔
      G.HidesNothing valid input ∧
        G.NothingHidden valid (input.drop k) := by
  constructor
  · intro hNothing
    refine ⟨?_, ?_⟩
    · simpa using hNothing 0 .start (by omega)
    · intro o hVisits hView
      have hPos := G.window_pos
      simp only [List.length_drop] at hView
      rw [List.drop_drop]
      exact hNothing (k + o) (hVisits.of_drop hStride)
        (by omega)
  · rintro ⟨hFront, hBehind⟩ o hVisits hView
    rcases hVisits.cases_front hStride with
      rfl | ⟨o', rfl, hVisits'⟩
    · simpa using hFront
    · have hLater := hBehind o' hVisits' (by
        simp only [List.length_drop]
        omega)
      rw [List.drop_drop] at hLater
      exact hLater

------------------------------------------------------------
-- Both Checks Compared
------------------------------------------------------------

variable (G valid)

/-
  A filter that keeps exactly the valid tokens, and whose
  values tell how long their tokens were.
-/
structure Filters : Prop where
  isSome_iff :
    ∀ {input n token}, G.judge input = .accept n token →
      ((keep token).isSome = true ↔ valid token)
  length_eq :
    ∀ {input input' n n' token token' value},
      G.judge input = .accept n token →
        G.judge input' = .accept n' token' →
          keep token = some value →
            keep token' = some value →
              n = n'

variable {G keep valid}

/-
  A hidden stop tells the two apart: behind the dropped
  token there is no stop at its place any more.
-/
theorem stops_ne_of_hidden
    (hFilters : G.Filters keep valid)
    {input : List α}
    {n p : Nat}
    {token : β}
    (hAccept : G.judge input = .accept n token)
    (hInside : p < n)
    (hStop : (G.restrict valid).StopsAt input p) :
    (G.restrict valid).stops keep input ≠
      G.stops keep (input.drop n) := by
  classical
  have hExists : ∃ p, (G.restrict valid).StopsAt input p :=
    ⟨p, hStop⟩
  -- The restricted drain passes all positions before `o`.
  obtain ⟨o, hFound, hLeast⟩ :
      ∃ o, (G.restrict valid).StopsAt input o ∧
        ∀ q, q < o →
          ¬ (G.restrict valid).StopsAt input q :=
    ⟨Nat.find hExists, Nat.find_spec hExists,
      fun q hq => Nat.find_min hExists hq⟩
  have hBefore : o < n := by
    by_contra hLate
    exact hLeast p (by omega) hStop
  have hLength := (G.accept_le hAccept).1
  rcases hFound with ⟨hView, hJudge⟩
  have hHere :
      (G.restrict valid).window ≤ (input.drop o).length := by
    simp only [List.length_drop]
    omega
  rw [(G.restrict valid).stops_of_junk keep hLeast]
  intro hSame
  cases hVerdict : (G.restrict valid).judge (input.drop o) with
  | reject => exact hJudge hVerdict
  | pending =>
      rw [(G.restrict valid).stops_of_pending keep hHere
        hVerdict] at hSame
      have hMember :
          .unfinished (input.drop o).length ∈
            G.stops keep (input.drop n) := by
        rw [← hSame]
        exact List.mem_singleton_self _
      have hLeft := G.unfinished_le keep hMember
      simp only [List.length_drop] at hLeft
      omega
  | accept m found =>
      rcases Verdict.restrict_eq_accept_iff.mp hVerdict with
        ⟨hJudged, hValid⟩
      rcases Option.isSome_iff_exists.mp
          ((hFilters.isSome_iff hJudged).mpr hValid) with
        ⟨value, hKeep⟩
      have hShort := (G.accept_le hJudged).1
      rw [(G.restrict valid).stops_of_accept keep hHere
        hVerdict, hKeep] at hSame
      have hMember :
          .delivered value ((input.drop o).drop m).length ∈
            G.stops keep (input.drop n) := by
        rw [← hSame]
        exact List.mem_cons_self
      rcases G.exists_accept_of_delivered keep hMember with
        ⟨q, m', later, hPlace, hLater, hKeep'⟩
      have hEqual :=
        hFilters.length_eq hJudged hLater hKeep hKeep'
      simp only [List.length_drop] at hPlace hShort
      omega

/-
  Behind an invalid token both go on alike exactly when it
  hides nothing.
-/
theorem stops_restrict_iff_of_invalid
    (hFilters : G.Filters keep valid)
    {input : List α}
    {n : Nat}
    {token : β}
    (hWindow : G.window ≤ input.length)
    (hAccept : G.judge input = .accept n token)
    (hInvalid : ¬ valid token)
    (hRest :
      (G.restrict valid).stops keep (input.drop n) =
          G.stops keep (input.drop n) ↔
        G.NothingHidden valid (input.drop n)) :
    (G.restrict valid).stops keep input =
        G.stops keep input ↔
      G.NothingHidden valid input := by
  have hDropped : keep token = none := by
    rw [← Option.not_isSome_iff_eq_none,
      hFilters.isSome_iff hAccept]
    exact hInvalid
  have hStrict : (G.restrict valid).judge input = .reject :=
    Verdict.restrict_eq_reject_iff.mpr
      (Or.inr ⟨n, token, hAccept, hInvalid⟩)
  rw [nothingHidden_iff_of_stride hWindow
      (stride_of_accept hWindow hAccept),
    G.stops_of_accept keep hWindow hAccept, hDropped,
    Option.map_none, Option.toList_none, List.nil_append]
  by_cases hHidden :
      ∃ p, 0 < p ∧ p < n ∧
        (G.restrict valid).StopsAt input p
  · rcases hHidden with ⟨p, hFront, hInside, hStop⟩
    refine iff_of_false
      (stops_ne_of_hidden hFilters hAccept hInside hStop) ?_
    rintro ⟨hNothing, _⟩
    exact hNothing n token hAccept hInvalid p hFront hInside
      hStop
  · have hJunk :
        ∀ p, p < n → ¬ (G.restrict valid).StopsAt input p := by
      intro p hp hStop
      by_cases hFront : p = 0
      · subst hFront
        exact hStop.2 hStrict
      · exact hHidden ⟨p, by omega, hp, hStop⟩
    have hNothing : G.HidesNothing valid input := by
      intro n' token' hAccept' _ p hFront hInside
      rw [hAccept] at hAccept'
      cases hAccept'
      exact hJunk p hInside
    rw [(G.restrict valid).stops_of_junk keep hJunk, hRest]
    exact (and_iff_right hNothing).symm

/- Nothing is hidden by a token that is not dropped. -/
theorem hidesNothing_of_not_dropped
    {input : List α}
    (hKept :
      ∀ n token,
        G.judge input = .accept n token → valid token) :
    G.HidesNothing valid input := by
  intro n token hAccept hInvalid
  exact absurd (hKept n token hAccept) hInvalid

/-
  Checking inside the grammar and behind it stop at the same
  places exactly when nothing is hidden.
-/
theorem stops_restrict_iff
    (hFilters : G.Filters keep valid)
    (input : List α) :
    (G.restrict valid).stops keep input =
        G.stops keep input ↔
      G.NothingHidden valid input := by
  induction input using G.judge_induction with
  | short input hShort =>
      rw [G.stops_of_short keep hShort,
        (G.restrict valid).stops_of_short keep hShort]
      exact iff_of_true rfl
        (nothingHidden_of_stride_none
          (stride_of_short hShort))
  | pending input hWindow hJudge =>
      rw [G.stops_of_pending keep hWindow hJudge,
        (G.restrict valid).stops_of_pending keep hWindow
          (Verdict.restrict_eq_pending_iff.mpr hJudge)]
      exact iff_of_true rfl
        (nothingHidden_of_stride_none
          (stride_of_pending hJudge))
  | reject a rest hWindow hJudge ih =>
      have hStrict :
          (G.restrict valid).judge (a :: rest) = .reject :=
        Verdict.restrict_eq_reject_iff.mpr (Or.inl hJudge)
      have hNothing : G.HidesNothing valid (a :: rest) := by
        apply hidesNothing_of_not_dropped
        intro n token hAccept
        rw [hJudge] at hAccept
        cases hAccept
      rw [nothingHidden_iff_of_stride hWindow
          (stride_of_reject hWindow hJudge),
        G.stops_of_reject keep hWindow hJudge,
        (G.restrict valid).stops_of_reject keep hWindow
          hStrict,
        ih, List.drop_one, List.tail_cons]
      exact (and_iff_right hNothing).symm
  | accept input n token hWindow hJudge ih =>
      by_cases hValid : valid token
      · have hStrict :
            (G.restrict valid).judge input =
              .accept n token :=
          Verdict.restrict_eq_accept_iff.mpr
            ⟨hJudge, hValid⟩
        have hNothing : G.HidesNothing valid input := by
          apply hidesNothing_of_not_dropped
          intro n' token' hAccept
          rw [hJudge] at hAccept
          cases hAccept
          exact hValid
        rw [nothingHidden_iff_of_stride hWindow
            (stride_of_accept hWindow hJudge),
          G.stops_of_accept keep hWindow hJudge,
          (G.restrict valid).stops_of_accept keep hWindow
            hStrict,
          List.append_cancel_left_eq, ih]
        exact (and_iff_right hNothing).symm
      · exact stops_restrict_iff_of_invalid hFilters hWindow
          hJudge hValid ih

end Grammar

end Framing
