import UsbCan.Library.Restrict
import UsbCan.Protocol.ParserContract
import UsbCan.Stream.RoundTrip

/-
  Out-of-range identifiers in the receive buffer.

  The parser checks the type, the length and the footer of a
  candidate and skips one byte when a check fails.  The range
  of the identifier is checked behind it, when all bytes of
  the candidate have been consumed.  A reference scanner
  makes all checks alike; the two find the same frames
  exactly when no dropped candidate hides another one.

  Key definitions include:
    * `UsbCan.WaveshareUsbCanA.referenceStops`
    * `UsbCan.Transport.readAll`
    * `UsbCan.WaveshareUsbCanA.NothingSwallowed`

  Main declarations:
    * `readAll_reference_iff`
-/

open Checked Framing

------------------------------------------------------------
-- The Reference Scanner
------------------------------------------------------------

namespace UsbCan

namespace WaveshareUsbCanA

/- The identifier is in the range of its width. -/
def InRange (frame : ParsedFrame) : Prop :=
  frame.id.toNat ≤ maxId frame.isExtended

instance : DecidablePred InRange :=
  fun frame =>
    inferInstanceAs
      (Decidable (frame.id.toNat ≤ maxId frame.isExtended))

variable [EmbeddedCan]

/-
  The reference scanner.  Any failed check of a candidate,
  the range of its identifier included, makes its first byte
  junk; it waits in front of a candidate that is not complete
  yet.  The first argument counts the bytes of a delivered
  frame that are still to be passed.
-/
def referenceStops :
    Nat → List UInt8 → List (Grammar.Stop CanMessage)
| _, [] => []
| passed + 1, _ :: rest => referenceStops passed rest
| 0, start :: rest =>
    if (start :: rest).length < 5 then
      []
    else
      match judge (start :: rest) with
      | .reject => referenceStops 0 rest
      | .pending => [.unfinished (start :: rest).length]
      | .accept n frame =>
          if InRange frame then
            ((deliver frame).map (fun message =>
                Grammar.Stop.delivered message
                  ((start :: rest).length - n))).toList ++
              referenceStops (n - 1) rest
          else
            referenceStops 0 rest

/- The messages the reference scanner delivers. -/
def reference (bytes : List UInt8) : List CanMessage :=
  (referenceStops 0 bytes).filterMap Grammar.Stop.value?

/- Bytes that are passed do not matter. -/
theorem referenceStops_drop
    (passed : Nat)
    (bytes : List UInt8) :
    referenceStops passed bytes =
      referenceStops 0 (bytes.drop passed) := by
  induction passed generalizing bytes with
  | zero => rfl
  | succ passed ih =>
      cases bytes with
      | nil => rfl
      | cons first rest =>
          rw [referenceStops, ih, List.drop_succ_cons]

/- The reference scanner drains the restricted grammar. -/
theorem referenceStops_eq (bytes : List UInt8) :
    referenceStops 0 bytes =
      (dataFrames.restrict InRange).stops deliver bytes := by
  let strict := dataFrames.restrict InRange
  induction bytes using strict.judge_induction with
  | short input hShort =>
      rw [strict.stops_of_short deliver hShort]
      cases input with
      | nil => rfl
      | cons start rest => exact if_pos hShort
  | pending input hWindow hJudge =>
      rw [strict.stops_of_pending deliver hWindow hJudge]
      cases input with
      | nil => cases hJudge
      | cons start rest =>
          have hLong : ¬ (start :: rest).length < 5 :=
            Nat.not_lt.mpr hWindow
          rw [referenceStops, if_neg hLong,
            show judge (start :: rest) = .pending
              from Verdict.restrict_eq_pending_iff.mp hJudge]
  | reject start rest hWindow hJudge ih =>
      have hLong : ¬ (start :: rest).length < 5 :=
        Nat.not_lt.mpr hWindow
      rw [strict.stops_of_reject deliver hWindow hJudge, ← ih,
        referenceStops, if_neg hLong]
      rcases Verdict.restrict_eq_reject_iff.mp hJudge with
        hReject | ⟨n, frame, hAccept, hOutside⟩
      · rw [show judge (start :: rest) = .reject
          from hReject]
      · rw [show judge (start :: rest) = .accept n frame
          from hAccept]
        exact if_neg hOutside
  | accept input n frame hWindow hJudge ih =>
      rcases Verdict.restrict_eq_accept_iff.mp hJudge with
        ⟨hAccept, hRange⟩
      rw [strict.stops_of_accept deliver hWindow hJudge, ← ih]
      cases input with
      | nil => cases hAccept
      | cons start rest =>
          have hBehind :
              referenceStops (n - 1) rest =
                referenceStops 0 ((start :: rest).drop n) := by
            obtain ⟨m, rfl⟩ :=
              Nat.exists_eq_succ_of_ne_zero
                (Nat.ne_of_gt (dataFrames.accept_pos hAccept))
            exact referenceStops_drop m rest
          have hLong : ¬ (start :: rest).length < 5 :=
            Nat.not_lt.mpr hWindow
          rw [referenceStops, if_neg hLong,
            show judge (start :: rest) = .accept n frame
              from hAccept]
          simp only [if_pos hRange, hBehind,
            List.length_drop]

/- Which identifiers are in range decides what is kept. -/
theorem filters_deliver :
    dataFrames.Filters deliver InRange where
  isSome_iff hJudge :=
    deliver_isSome_iff (judge_accept_id_lt hJudge)
  length_eq := by
    intro input input' n n' token token' message
      hJudge hJudge' hKeep hKeep'
    rcases parsed_of_deliver (judge_accept_id_lt hJudge)
        hKeep with
      ⟨source, hToken, hMessage⟩
    rcases parsed_of_deliver (judge_accept_id_lt hJudge')
        hKeep' with
      ⟨source', hToken', hMessage'⟩
    have hFrames :=
      DataFrame.message_injective
        (hMessage.trans hMessage'.symm)
    rw [hToken] at hJudge
    rw [hToken', ← hFrames] at hJudge'
    rw [(take_of_judge_accept hJudge).1,
      (take_of_judge_accept hJudge').1]

end WaveshareUsbCanA

end UsbCan

------------------------------------------------------------
-- Reading Until Nothing Is Returned
------------------------------------------------------------

namespace UsbCan

namespace Transport

variable [EmbeddedCan]
variable {P : Type} [Protocol P]

/-
  Call `try_read_frame` until it returns nothing.  Every
  message comes with the number of bytes left behind it.
-/
def readAllLoop :
    Nat → Transport P →
      Exec (List (CanMessage × Nat) × Transport P)
| 0, _ => .error .outOfFuel
| fuel + 1, transport => do
    let (message, transport) ← transport.tryReadFrame
    match message with
    | none => pure ([], transport)
    | some message => do
        let (results, final) ← readAllLoop fuel transport
        pure
          ((message, transport.rxLength) :: results, final)

/- All messages of the receive buffer. -/
def readAll
    (transport : Transport P) :
    Exec (List (CanMessage × Nat) × Transport P) :=
  readAllLoop (transport.rxLength + 1) transport

/-
  What a reader sees: the messages, and the bytes that stay
  in the buffer when they are enough for a frame header.
-/
def seen
    (window : Nat)
    (results : List (CanMessage × Nat))
    (left : Nat) :
    List (Framing.Grammar.Stop CanMessage) :=
  results.map (fun (message, left) =>
      Framing.Grammar.Stop.delivered message left) ++
    if left < window then [] else [.unfinished left]

/- The messages among what a reader sees. -/
theorem filterMap_seen
    (window : Nat)
    (results : List (CanMessage × Nat))
    (left : Nat) :
    (seen window results left).filterMap
        Framing.Grammar.Stop.value? =
      results.map Prod.fst := by
  have hLeft :
      (if left < window then
            []
          else
            [Framing.Grammar.Stop.unfinished
              (γ := CanMessage) left]).filterMap
          Framing.Grammar.Stop.value? =
        [] := by
    split <;> rfl
  rw [seen, List.filterMap_append, hLeft, List.append_nil,
    List.filterMap_map]
  exact congrFun List.filterMap_eq_map results

/- Reading the whole buffer goes through all its stops. -/
theorem readAllLoop_seen
    [ScanningProtocol P]
    (fuel : Nat)
    {transport : Transport P}
    (hSized : transport.Sized)
    (hFuel : transport.rxLength < fuel) :
    ∃ results final,
      readAllLoop fuel transport = .ok (results, final) ∧
        seen transport.rxGrammar.window results
            final.rxLength =
          transport.rxGrammar.stops deliver
            transport.buffered := by
  induction fuel generalizing transport with
  | zero => omega
  | succ fuel ih =>
      rcases tryReadFrame_next hSized with
        ⟨⟨message, transport'⟩, hRead, hNext, hSized', _,
          hSame⟩
      have hStops :=
        transport.rxGrammar.stops_of_next deliver
          transport.buffered
      have hLength := hSized.length_buffered
      have hLength' := hSized'.length_buffered
      simp only at hNext hSized' hSame hLength'
      rw [hNext] at hStops
      rw [readAllLoop, hRead, ok_bind]
      cases message with
      | none =>
          refine ⟨[], transport', rfl, ?_⟩
          simp only [hLength'] at hStops
          rw [hStops]
          rfl
      | some message =>
          have hLess :=
            transport.rxGrammar.next_some_lt deliver hNext
          rcases ih hSized' (by omega) with
            ⟨results, final, hRest, hSeen⟩
          refine
            ⟨(message, transport'.rxLength) :: results,
              final, ?_, ?_⟩
          · simp only [hRest, ok_bind, pure_eq_ok]
          · simp only [hLength'] at hStops
            rw [rxGrammar, hSame] at hSeen
            rw [hStops, rxGrammar, ← hSeen]
            rfl

end Transport

end UsbCan

------------------------------------------------------------
-- Swallowed Frames
------------------------------------------------------------

namespace UsbCan

namespace WaveshareUsbCanA

/- The identifier of the candidate at a position. -/
def idAt
    (buffer : List UInt8)
    (o : Nat)
    (isExtended : Bool) :
    Nat :=
  LittleEndian.value
    ((buffer.drop (o + 2)).take (idLength isExtended))

/- A complete frame whose identifier is in range. -/
def Valid
    (buffer : List UInt8)
    (o : Nat) :
    Prop :=
  ∃ isExtended dlc,
    Complete buffer o isExtended dlc ∧
      idAt buffer o isExtended ≤ maxId isExtended

/-
  The positions a scan reaches that passes junk byte by byte
  and complete candidates as a whole.
-/
inductive Reached (buffer : List UInt8) : Nat → Prop
| start : Reached buffer 0
| junk {o : Nat} :
    Reached buffer o → o + 5 ≤ buffer.length →
      ¬ Stops buffer o → Reached buffer (o + 1)
| frame {o : Nat} {isExtended : Bool} {dlc : Nat} :
    Reached buffer o → Complete buffer o isExtended dlc →
      Reached buffer (o + frameLength isExtended dlc)

/-
  No candidate that the scan reaches and that is dropped for
  its identifier has a valid or an unfinished frame among
  the positions inside it.
-/
def NothingSwallowed (buffer : List UInt8) : Prop :=
  ∀ o isExtended dlc,
    Reached buffer o →
      Complete buffer o isExtended dlc →
        maxId isExtended < idAt buffer o isExtended →
          ∀ p, o < p → p < o + frameLength isExtended dlc →
            ¬ Pending buffer p ∧ ¬ Valid buffer p

/- A frame at a position has the identifier at it. -/
theorem inRange_frameAt_iff
    (buffer : List UInt8)
    (o : Nat)
    (isExtended : Bool)
    (dlc : Fin 9) :
    InRange (frameAt isExtended dlc (buffer.drop o)) ↔
      idAt buffer o isExtended ≤ maxId isExtended := by
  have hId :=
    toNat_frameAt_id isExtended dlc (buffer.drop o)
  rw [idField, List.drop_drop] at hId
  unfold InRange
  rw [hId]
  exact Iff.rfl

/- An accepted position holds a complete frame. -/
theorem complete_of_judge_accept
    {buffer : List UInt8}
    {o n : Nat}
    {frame : ParsedFrame}
    (hView : o + 5 ≤ buffer.length)
    (hJudge : judge (buffer.drop o) = .accept n frame) :
    ∃ isExtended dlc,
      ∃ hDlc : dlc < 9,
        Complete buffer o isExtended dlc ∧
          n = frameLength isExtended dlc ∧
          frame =
            frameAt isExtended ⟨dlc, hDlc⟩
              (buffer.drop o) := by
  have hStops : Stops buffer o := by
    by_contra hNone
    rw [judge_of_not_stops hView hNone] at hJudge
    cases hJudge
  rcases hStops with hPending | ⟨isExtended, dlc, hComplete⟩
  · rw [hPending.judge_eq] at hJudge
    cases hJudge
  · rcases hComplete.judge_eq with ⟨hDlc, hAccept⟩
    rw [hAccept] at hJudge
    cases hJudge
    exact ⟨isExtended, dlc, hDlc, hComplete, rfl, rfl⟩

/- How far the scan goes from a position. -/
theorem stride_eq_some_iff
    {buffer : List UInt8}
    {o k : Nat} :
    dataFrames.stride (buffer.drop o) = some k ↔
      (o + 5 ≤ buffer.length ∧ ¬ Stops buffer o ∧ k = 1) ∨
        ∃ isExtended dlc,
          Complete buffer o isExtended dlc ∧
            k = frameLength isExtended dlc := by
  have hWindow :
      dataFrames.window ≤ (buffer.drop o).length ↔
        o + 5 ≤ buffer.length := by
    change 5 ≤ (buffer.drop o).length ↔ _
    simp only [List.length_drop]
    omega
  constructor
  · intro hStride
    by_cases hView : o + 5 ≤ buffer.length
    · by_cases hStops : Stops buffer o
      · rcases hStops with
          hPending | ⟨isExtended, dlc, hComplete⟩
        · rw [Grammar.stride_of_pending
            hPending.judge_eq] at hStride
          cases hStride
        · rcases hComplete.judge_eq with ⟨_, hAccept⟩
          rw [Grammar.stride_of_accept (hWindow.mpr hView)
            hAccept] at hStride
          cases hStride
          exact Or.inr ⟨isExtended, dlc, hComplete, rfl⟩
      · rw [Grammar.stride_of_reject (hWindow.mpr hView)
          (judge_of_not_stops hView hStops)] at hStride
        cases hStride
        exact Or.inl ⟨hView, hStops, rfl⟩
    · rw [Grammar.stride_of_short (by omega)] at hStride
      cases hStride
  · rintro (⟨hView, hStops, rfl⟩ |
      ⟨isExtended, dlc, hComplete, rfl⟩)
    · exact Grammar.stride_of_reject (hWindow.mpr hView)
        (judge_of_not_stops hView hStops)
    · rcases hComplete.judge_eq with ⟨_, hAccept⟩
      exact Grammar.stride_of_accept
        (hWindow.mpr hComplete.1.inView) hAccept

/- The reached positions are those the drain goes through. -/
theorem reached_iff_visits
    {buffer : List UInt8}
    {o : Nat} :
    Reached buffer o ↔ dataFrames.Visits buffer o := by
  constructor
  · intro hReached
    induction hReached with
    | start => exact .start
    | junk _ hView hStops ih =>
        exact .next ih
          (stride_eq_some_iff.mpr
            (Or.inl ⟨hView, hStops, rfl⟩))
    | frame _ hComplete ih =>
        exact .next ih
          (stride_eq_some_iff.mpr
            (Or.inr ⟨_, _, hComplete, rfl⟩))
  · intro hVisits
    induction hVisits with
    | start => exact .start
    | next _ hStride ih =>
        rcases stride_eq_some_iff.mp hStride with
          ⟨hView, hStops, rfl⟩ |
          ⟨isExtended, dlc, hComplete, rfl⟩
        · exact .junk ih hView hStops
        · exact .frame ih hComplete

/- Where the reference scanner skips one byte. -/
theorem restrict_judge_eq_reject_iff
    {buffer : List UInt8}
    {o : Nat}
    (hView : o + 5 ≤ buffer.length) :
    (judge (buffer.drop o)).restrict InRange = .reject ↔
      ¬ Pending buffer o ∧ ¬ Valid buffer o := by
  constructor
  · intro hReject
    constructor
    · intro hPending
      rw [hPending.judge_eq] at hReject
      cases hReject
    · rintro ⟨isExtended, dlc, hComplete, hId⟩
      rcases hComplete.judge_eq with ⟨hDlc, hAccept⟩
      have hRange :
          InRange
            (frameAt isExtended ⟨dlc, hDlc⟩
              (buffer.drop o)) :=
        (inRange_frameAt_iff _ _ _ _).mpr hId
      rw [hAccept, Verdict.restrict, if_pos hRange] at hReject
      cases hReject
  · rintro ⟨hPending, hValid⟩
    rw [Verdict.restrict_eq_reject_iff]
    by_cases hStops : Stops buffer o
    · rcases hStops with
        hPending' | ⟨isExtended, dlc, hComplete⟩
      · exact absurd hPending' hPending
      · rcases hComplete.judge_eq with ⟨hDlc, hAccept⟩
        refine Or.inr ⟨_, _, hAccept, ?_⟩
        rw [inRange_frameAt_iff]
        intro hId
        exact hValid ⟨isExtended, dlc, hComplete, hId⟩
    · exact Or.inl (judge_of_not_stops hView hStops)

/- A valid or an unfinished frame is in view. -/
theorem inView_of_pending_or_valid
    {buffer : List UInt8}
    {o : Nat}
    (hStop : Pending buffer o ∨ Valid buffer o) :
    o + 5 ≤ buffer.length := by
  have hStops : Stops buffer o := by
    rcases hStop with
      hPending | ⟨isExtended, dlc, hComplete, _⟩
    · exact Or.inl hPending
    · exact Or.inr ⟨isExtended, dlc, hComplete⟩
  exact hStops.inView

/- Where the reference scanner stops. -/
theorem stopsAt_restrict_iff
    {buffer : List UInt8}
    {o p : Nat} :
    (dataFrames.restrict InRange).StopsAt
        (buffer.drop o) p ↔
      Pending buffer (o + p) ∨ Valid buffer (o + p) := by
  have hWindow :
      p + 5 ≤ (buffer.drop o).length ↔
        p + 5 ≤ buffer.length - o := by
    rw [List.length_drop]
  constructor
  · rintro ⟨hLong, hJudge⟩
    rw [List.drop_drop] at hJudge
    have hInside := hWindow.mp hLong
    have hView : o + p + 5 ≤ buffer.length := by omega
    by_contra hNone
    exact hJudge
      ((restrict_judge_eq_reject_iff hView).mpr
        (not_or.mp hNone))
  · intro hStop
    have hView := inView_of_pending_or_valid hStop
    refine ⟨hWindow.mpr (by omega), ?_⟩
    rw [List.drop_drop]
    intro hReject
    exact not_or.mpr
      ((restrict_judge_eq_reject_iff hView).mp hReject) hStop

/- Hiding in the grammar is swallowing in the buffer. -/
theorem nothingHidden_iff
    (buffer : List UInt8) :
    dataFrames.NothingHidden InRange buffer ↔
      NothingSwallowed buffer := by
  constructor
  · intro hNothing o isExtended dlc hReached hComplete
      hOutside p hFront hInside
    rcases hComplete.judge_eq with ⟨hDlc, hAccept⟩
    have hRange :
        ¬ InRange
          (frameAt isExtended ⟨dlc, hDlc⟩
            (buffer.drop o)) := by
      rw [inRange_frameAt_iff]
      omega
    have hHidden :=
      hNothing o (reached_iff_visits.mp hReached)
        hComplete.1.inView _ _ hAccept hRange (p - o)
        (by omega) (by omega)
    rw [stopsAt_restrict_iff,
      Nat.add_sub_cancel' (by omega)] at hHidden
    exact not_or.mp hHidden
  · intro hNothing o hVisits hView n frame hAccept hRange p
      hFront hInside
    rcases complete_of_judge_accept hView hAccept with
      ⟨isExtended, dlc, hDlc, hComplete, rfl, rfl⟩
    rw [inRange_frameAt_iff] at hRange
    rw [stopsAt_restrict_iff]
    exact not_or.mpr
      (hNothing o isExtended dlc
        (reached_iff_visits.mpr hVisits) hComplete
        (by omega) (o + p) (by omega) (by omega))

end WaveshareUsbCanA

end UsbCan

------------------------------------------------------------
-- The Two Ways to Reject Compared
------------------------------------------------------------

namespace UsbCan

namespace WaveshareUsbCanA

variable [EmbeddedCan]

/-
  Reading the whole buffer stops where the reference scanner
  stops exactly when no dropped candidate swallows anything.
  The messages are then those of the reference scanner.
-/
theorem readAll_reference_iff
    (transport : Transport WaveshareUsbCanA)
    (hSized : transport.Sized) :
    ∃ results final,
      transport.readAll = .ok (results, final) ∧
        (Transport.seen 5 results final.rxLength =
            referenceStops 0 transport.buffered ↔
          NothingSwallowed transport.buffered) ∧
        (NothingSwallowed transport.buffered →
          results.map Prod.fst =
            reference transport.buffered) := by
  rcases Transport.readAllLoop_seen
      (transport.rxLength + 1) hSized (by omega) with
    ⟨results, final, hRead, hSeen⟩
  have hReference := referenceStops_eq transport.buffered
  have hSame :
      Transport.seen 5 results final.rxLength =
          referenceStops 0 transport.buffered ↔
        NothingSwallowed transport.buffered := by
    rw [← nothingHidden_iff,
      ← Grammar.stops_restrict_iff filters_deliver,
      hReference]
    exact
      ⟨fun h => h.symm.trans hSeen,
        fun h => hSeen.trans h.symm⟩
  refine ⟨results, final, hRead, hSame, ?_⟩
  intro hNothing
  rw [reference, ← hSame.mpr hNothing,
    Transport.filterMap_seen]

/- Without any assumption the messages are the drained ones. -/
theorem readAll_drain
    {transport : Transport WaveshareUsbCanA}
    {messages : List CanMessage}
    (hSized : transport.Sized)
    (hDrain :
      drain protocol transport.buffered = .ok messages) :
    ∃ results final,
      transport.readAll = .ok (results, final) ∧
        results.map Prod.fst = messages := by
  rcases Transport.readAllLoop_seen
      (transport.rxLength + 1) hSized (by omega) with
    ⟨results, final, hRead, hSeen⟩
  refine ⟨results, final, hRead, ?_⟩
  have hStops :=
    transport.rxGrammar.drain_eq_stops deliver
      transport.buffered
  rw [← hSeen, Transport.filterMap_seen] at hStops
  rw [drain_eq] at hDrain
  rw [← hStops]
  exact Except.ok.inj hDrain

/- A transport whose receive buffer holds `bytes`. -/
def holding
    (bytes : List UInt8)
    (hFits : bytes.length ≤ rxSize) :
    Transport WaveshareUsbCanA where
  protocol := protocol
  rxBuffer :=
    ⟨bytes ++ List.replicate (rxSize - bytes.length) 0, by
      simp
      omega⟩
  rxLength := bytes.length
  temp := FixedArray.replicate tempSize 0

omit [EmbeddedCan] in
@[simp] theorem holding_buffered
    (bytes : List UInt8)
    (hFits : bytes.length ≤ rxSize) :
    (holding bytes hFits).buffered = bytes :=
  List.take_left

omit [EmbeddedCan] in
theorem holding_sized
    (bytes : List UInt8)
    (hFits : bytes.length ≤ rxSize) :
    (holding bytes hFits).Sized :=
  hFits

end WaveshareUsbCanA

end UsbCan

namespace UsbCan

namespace WaveshareUsbCanA

/- A dropped frame and, behind its end, a delivered one. -/
theorem readAll_reference_iff_on_example :
    letI := rangedIds
    ∃ (transport : Transport WaveshareUsbCanA)
      (message : CanMessage),
      CanMessage.new (.standard ⟨0x123, by decide⟩) [] =
          .ok (some message) ∧
        NothingSwallowed transport.buffered ∧
        reference transport.buffered = [message] ∧
        ∃ results final,
          transport.readAll = .ok (results, final) ∧
            results.map Prod.fst = [message] := by
  let _ : EmbeddedCan := rangedIds
  let message : CanMessage :=
    ⟨.standard ⟨0x123, by decide⟩,
      FixedArray.replicate 8 0, 0, false⟩
  let bytes : List UInt8 :=
    [0xAA, 0xC0, 0xFF, 0xFF, 0x55, 0xAA, 0xC0, 0x23, 0x01,
      0x55]
  let transport := holding bytes (by decide)
  have hStarts :
      ∀ o, o < 6 → bytes[o]? = some 0xAA →
        o = 0 ∨ o = 5 := by
    decide
  have hInside :
      ∀ p, p < 5 → 0 < p → bytes[p]? ≠ some 0xAA := by
    decide
  have hNothing : NothingSwallowed bytes := by
    intro o isExtended dlc _ hComplete hOutside p hFront hEnd
    rcases hComplete.1 with
      ⟨hView, hStart, ⟨info, hInfo, hType, hLow⟩, _⟩
    have hWidth : isExtended = false := by
      rcases hStarts o (by
        change o + 5 ≤ 10 at hView
        omega) hStart with rfl | rfl
      · cases hInfo
        cases isExtended with
        | false => rfl
        | true => cases hType
      · cases hInfo
        cases isExtended with
        | false => rfl
        | true => cases hType
    subst hWidth
    rcases hStarts o (by
      change o + 5 ≤ 10 at hView
      omega) hStart with rfl | rfl
    · cases hInfo
      cases hLow
      have hNone : ¬ Stops bytes p :=
        not_stops_of_start (hInside p hEnd hFront)
      exact
        ⟨fun hPending => hNone (Or.inl hPending),
          fun ⟨isExtended, dlc, hInner, _⟩ =>
            hNone (Or.inr ⟨isExtended, dlc, hInner⟩)⟩
    · exact absurd hOutside (by decide)
  rcases readAll_reference_iff transport
      (holding_sized _ _) with
    ⟨results, final, hRead, _, hSame⟩
  have hReference : reference bytes = [message] := by
    decide
  have hBuffered : transport.buffered = bytes :=
    holding_buffered bytes (by decide)
  rw [hBuffered] at hSame
  refine ⟨transport, message, rfl, ?_, ?_, results, final,
    hRead, ?_⟩
  · rw [hBuffered]
    exact hNothing
  · rw [hBuffered]
    exact hReference
  · rw [hSame hNothing, hReference]

/-
  A dropped candidate with a valid frame inside: the frame
  is not delivered, and the reference scanner finds it.
-/
theorem readAll_swallows :
    letI := rangedIds
    ∃ (transport : Transport WaveshareUsbCanA)
      (message : CanMessage),
      transport.Sized ∧
        transport.buffered =
          [0xAA, 0xC5, 0xFF, 0xFF, 0xAA, 0xC0, 0x23, 0x01,
            0x55, 0x55] ∧
        CanMessage.new (.standard ⟨0x123, by decide⟩) [] =
          .ok (some message) ∧
        reference transport.buffered = [message] ∧
        ∃ results final,
          transport.readAll = .ok (results, final) ∧
            results.map Prod.fst = [] ∧
            results.map Prod.fst ≠
              reference transport.buffered := by
  let _ : EmbeddedCan := rangedIds
  let message : CanMessage :=
    ⟨.standard ⟨0x123, by decide⟩,
      FixedArray.replicate 8 0, 0, false⟩
  let bytes : List UInt8 :=
    [0xAA, 0xC5, 0xFF, 0xFF, 0xAA, 0xC0, 0x23, 0x01, 0x55,
      0x55]
  let transport := holding bytes (by decide)
  have hBuffered : transport.buffered = bytes :=
    holding_buffered bytes (by decide)
  have hReference : reference bytes = [message] := by
    decide
  have hDrain : drain protocol bytes = .ok [] := by
    decide
  rw [← hBuffered] at hReference hDrain
  rcases readAll_drain (holding_sized _ _) hDrain with
    ⟨results, final, hRead, hNone⟩
  refine
    ⟨transport, message, holding_sized _ _, hBuffered, rfl,
      hReference, results, final, hRead, hNone, ?_⟩
  rw [hNone, hReference]
  exact (List.cons_ne_nil _ _).symm

/-
  The messages alone can agree by chance: a swallowed frame
  is made up for by an equal one that only the code finds.
-/
theorem readAll_reference_by_chance :
    letI := rangedIds
    ∃ transport : Transport WaveshareUsbCanA,
      transport.Sized ∧
        ¬ NothingSwallowed transport.buffered ∧
        ∃ results final,
          transport.readAll = .ok (results, final) ∧
            results.map Prod.fst =
              reference transport.buffered := by
  let _ : EmbeddedCan := rangedIds
  let bytes : List UInt8 :=
    [0xAA, 0xC2, 0xAA, 0xC8, 0x23, 0x01, 0x55, 0xD1, 0xD2,
      0xD3, 0xAA, 0xC8, 0x23, 0x01, 0x55, 0xD1, 0xD2, 0xD3,
      0xAA, 0xC8, 0x23, 0x01, 0x55]
  let transport := holding bytes (by decide)
  have hBuffered : transport.buffered = bytes :=
    holding_buffered bytes (by decide)
  have hDrain :
      drain protocol bytes = .ok (reference bytes) := by
    decide
  have hOuter : Complete bytes 0 false 2 :=
    ⟨⟨by decide, by decide, ⟨0xC2, by decide⟩, by decide⟩,
      by decide, by decide⟩
  have hInner : Complete bytes 2 false 8 :=
    ⟨⟨by decide, by decide, ⟨0xC8, by decide⟩, by decide⟩,
      by decide, by decide⟩
  rw [← hBuffered] at hDrain
  refine
    ⟨transport, holding_sized _ _, ?_,
      readAll_drain (holding_sized _ _) hDrain⟩
  rw [hBuffered]
  intro hNothing
  have hSwallowed :=
    (hNothing 0 false 2 .start hOuter (by decide) 2
      (by decide) (by decide)).2
  exact hSwallowed ⟨false, 8, hInner, by decide⟩

end WaveshareUsbCanA

end UsbCan
