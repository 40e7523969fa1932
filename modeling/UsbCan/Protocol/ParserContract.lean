import UsbCan.Protocol.Parser

/-
  What callers of the parser rely on.

  The first part describes data frames by positions in the
  buffer, in arithmetic terms only, and shows that the
  parser returns the leftmost position that is complete or
  still unfinished.  The second part shows that a verdict on
  a partial buffer does not change when more bytes arrive.

  Main declarations:
    * `Candidate`, `Complete`, `Pending`, `Leftmost`
    * `parseNextFrame_leftmost`
    * `parseNextFrame_final`
-/

open Checked Framing

------------------------------------------------------------
-- Frame Positions
------------------------------------------------------------

namespace UsbCan

namespace WaveshareUsbCanA

/-
  A position that starts like a data frame: at least five
  bytes are left, the start byte is there, the type nibble
  gives the identifier width and the data length is legal.
-/
structure Candidate
    (buffer : List UInt8)
    (o : Nat)
    (isExtended : Bool)
    (dlc : Nat) :
    Prop where
  inView : o + 5 ≤ buffer.length
  start : buffer[o]? = some 0xAA
  info :
    ∃ info, buffer[o + 1]? = some info ∧
      info.toNat / 16 = (if isExtended then 0xE else 0xC) ∧
      info.toNat % 16 = dlc
  dlc_le : dlc ≤ 8

/- A candidate that is all there and ends in the footer. -/
def Complete
    (buffer : List UInt8)
    (o : Nat)
    (isExtended : Bool)
    (dlc : Nat) :
    Prop :=
  Candidate buffer o isExtended dlc ∧
    o + frameLength isExtended dlc ≤ buffer.length ∧
    buffer[o + frameLength isExtended dlc - 1]? = some 0x55

/- A candidate that extends beyond the buffer. -/
def Pending
    (buffer : List UInt8)
    (o : Nat) :
    Prop :=
  ∃ isExtended dlc,
    Candidate buffer o isExtended dlc ∧
      buffer.length < o + frameLength isExtended dlc

/- A position at which the scan has to stop. -/
def Stops
    (buffer : List UInt8)
    (o : Nat) :
    Prop :=
  Pending buffer o ∨
    ∃ isExtended dlc, Complete buffer o isExtended dlc

/- The least position at which the scan has to stop. -/
def Leftmost
    (buffer : List UInt8)
    (o : Nat) :
    Prop :=
  Stops buffer o ∧ ∀ p, p < o → ¬ Stops buffer p

/- A candidate's first two bytes and their header. -/
theorem Candidate.drop_eq
    {buffer : List UInt8}
    {o : Nat}
    {isExtended : Bool}
    {dlc : Nat}
    (hCandidate : Candidate buffer o isExtended dlc) :
    ∃ info body, ∃ hDlc : dlc < 9,
      buffer.drop o = frameStart :: info :: body ∧
        header info = some (isExtended, ⟨dlc, hDlc⟩) := by
  rcases hCandidate with
    ⟨hView, hStart, ⟨info, hInfo, hType, hLow⟩, hDlc⟩
  refine ⟨info, buffer.drop (o + 2), by omega, ?_, ?_⟩
  · rw [List.drop_eq_getElem_cons (by omega),
      List.drop_eq_getElem_cons (by omega)]
    rw [List.getElem?_eq_getElem (by omega)] at hStart hInfo
    rw [Option.some.inj hStart, Option.some.inj hInfo]
    rfl
  · have hLegal : info.toNat % 16 < 9 := by omega
    subst hLow
    unfold header
    rw [dif_pos hLegal]
    cases isExtended with
    | false => rw [if_pos (by simpa using hType)]
    | true =>
        have hType' : info.toNat / 16 = 0xE := by
          simpa using hType
        rw [if_neg (by omega), if_pos hType']

/- Two bytes with a header are a candidate. -/
theorem candidate_of_header
    {buffer body : List UInt8}
    {o : Nat}
    {info : UInt8}
    {isExtended : Bool}
    {dlc : Fin 9}
    (hView : o + 5 ≤ buffer.length)
    (hDrop : buffer.drop o = frameStart :: info :: body)
    (hHeader : header info = some (isExtended, dlc)) :
    Candidate buffer o isExtended dlc.val := by
  have hDlc := dlc.isLt
  have hStart :
      (buffer.drop o)[0]? = buffer[o]? :=
    List.getElem?_drop
  have hInfo :
      (buffer.drop o)[1]? = buffer[o + 1]? :=
    List.getElem?_drop
  rw [hDrop] at hStart hInfo
  rcases nibbles_of_header_some hHeader with
    ⟨hType, hLow⟩
  rcases toNat_nibbles info with ⟨hHigh, hMod⟩
  refine ⟨hView, hStart.symm,
    ⟨info, hInfo.symm, ?_, by omega⟩, by omega⟩
  rw [← hHigh, hType]
  cases isExtended <;> rfl

/- A complete position is judged a frame. -/
theorem Complete.judge_eq
    {buffer : List UInt8}
    {o : Nat}
    {isExtended : Bool}
    {dlc : Nat}
    (hComplete : Complete buffer o isExtended dlc) :
    ∃ hDlc : dlc < 9,
      judge (buffer.drop o) =
        .accept (frameLength isExtended dlc)
          (frameAt isExtended ⟨dlc, hDlc⟩
            (buffer.drop o)) := by
  rcases hComplete with ⟨hCandidate, hLength, hFooter⟩
  rcases hCandidate.drop_eq with
    ⟨info, body, hDlc, hDrop, hHeader⟩
  refine ⟨hDlc, ?_⟩
  have hBounds := frameLength_bounds isExtended ⟨dlc, hDlc⟩
  simp only at hBounds
  have hFooter' :
      (buffer.drop o)[frameLength isExtended dlc - 1]? =
        some frameFooter := by
    rw [List.getElem?_drop,
      ← Nat.add_sub_assoc (by omega)]
    exact hFooter
  have hLong :
      ¬ (buffer.drop o).length <
        frameLength isExtended dlc := by
    simp only [List.length_drop]
    omega
  rw [hDrop] at hFooter' hLong ⊢
  rw [judge, if_pos rfl, hHeader]
  simp only [if_neg hLong, if_pos hFooter']

/- A pending position is judged unfinished. -/
theorem Pending.judge_eq
    {buffer : List UInt8}
    {o : Nat}
    (hPending : Pending buffer o) :
    judge (buffer.drop o) = .pending := by
  rcases hPending with
    ⟨isExtended, dlc, hCandidate, hLength⟩
  rcases hCandidate.drop_eq with
    ⟨info, body, hDlc, hDrop, hHeader⟩
  have hView := hCandidate.inView
  have hShort :
      (buffer.drop o).length <
        frameLength isExtended dlc := by
    simp only [List.length_drop]
    omega
  rw [hDrop] at hShort ⊢
  rw [judge, if_pos rfl, hHeader]
  simp only [if_pos hShort]

/- Every other position in view is judged junk. -/
theorem judge_of_not_stops
    {buffer : List UInt8}
    {o : Nat}
    (hView : o + 5 ≤ buffer.length)
    (hStops : ¬ Stops buffer o) :
    judge (buffer.drop o) = .reject := by
  have hLength :
      (buffer.drop o).length = buffer.length - o := by
    simp
  match hDrop : buffer.drop o with
  | [] => rfl
  | [_] => rfl
  | start :: info :: body =>
      rcases judge_cases start info body with
        ⟨_, hReject⟩ |
        ⟨isExtended, dlc, hStart, hHeader,
          ⟨hShort, _⟩ | ⟨hComplete, hFooter, _⟩ |
          ⟨_, _, hReject⟩⟩
      · exact hReject
      · subst hStart
        rw [← hDrop, hLength] at hShort
        exact absurd
          (Or.inl
            ⟨isExtended, dlc.val,
              candidate_of_header hView hDrop hHeader,
              by omega⟩)
          hStops
      · subst hStart
        have hBounds := frameLength_bounds isExtended dlc
        rw [← hDrop] at hFooter
        rw [← hDrop, hLength] at hComplete
        rw [List.getElem?_drop,
          ← Nat.add_sub_assoc (by omega)] at hFooter
        exact absurd
          (Or.inr
            ⟨isExtended, dlc.val,
              candidate_of_header hView hDrop hHeader,
              by omega, hFooter⟩)
          hStops
      · exact hReject

theorem Stops.inView
    {buffer : List UInt8}
    {o : Nat}
    (hStops : Stops buffer o) :
    o + 5 ≤ buffer.length := by
  rcases hStops with
    ⟨_, _, hCandidate, _⟩ | ⟨_, _, hCandidate, _⟩
  · exact hCandidate.inView
  · exact hCandidate.inView

/- Before the leftmost position there is only junk. -/
theorem Leftmost.junkBefore
    {buffer : List UInt8}
    {o : Nat}
    (hLeftmost : Leftmost buffer o) :
    dataFrames.JunkBefore buffer o := by
  intro p hp
  have hView := hLeftmost.1.inView
  have hEarlier : p + 5 ≤ buffer.length := by omega
  exact ⟨hEarlier,
    judge_of_not_stops hEarlier (hLeftmost.2 p hp)⟩

------------------------------------------------------------
-- Leftmost First
------------------------------------------------------------

/-
  The parser's result on every buffer.  Either no position
  stops the scan, or there is a leftmost one, and the result
  is determined by what that position is.
-/
theorem parseNextFrame_leftmost
    (buffer : List UInt8)
    (dataOut : FixedArray UInt8 8) :
    ((∀ o, ¬ Stops buffer o) ∨ ∃ o, Leftmost buffer o) ∧
      ((∀ o, ¬ Stops buffer o) →
        parseNextFrame buffer dataOut =
          .ok ((buffer.length - 4, none), dataOut)) ∧
      (∀ o, Leftmost buffer o → Pending buffer o →
        parseNextFrame buffer dataOut =
          .ok ((o, none), dataOut)) ∧
      ∀ o isExtended dlc, Leftmost buffer o →
        Complete buffer o isExtended dlc →
          ∃ frameMeta dataOut',
            parseNextFrame buffer dataOut =
                .ok ((o + frameLength isExtended dlc,
                  some frameMeta), dataOut') ∧
              frameMeta.id.toNat =
                LittleEndian.value
                  ((buffer.drop (o + 2)).take
                    (idLength isExtended)) ∧
              frameMeta.dlc.toNat = dlc ∧
              frameMeta.isExtended = isExtended ∧
              dataOut'.toList =
                (buffer.drop
                    (o + 2 + idLength isExtended)).take dlc ++
                  dataOut.toList.drop dlc := by
  refine ⟨?_, ?_, ?_, ?_⟩
  · by_cases hExists : ∃ o, Stops buffer o
    · classical
      exact Or.inr
        ⟨Nat.find hExists, Nat.find_spec hExists,
          fun p hp => Nat.find_min hExists hp⟩
    · exact Or.inl (fun o hStops => hExists ⟨o, hStops⟩)
  · intro hNone
    have hJunk :
        dataFrames.JunkBefore buffer (buffer.length - 4) := by
      intro p hp
      have hView : p + 5 ≤ buffer.length := by omega
      exact ⟨hView, judge_of_not_stops hView (hNone p)⟩
    have hScan :
        dataFrames.scan buffer =
          (buffer.length - 4, none) :=
      dataFrames.scan_of_all_junk hJunk
    rw [parseNextFrame_scan, hScan]
    rfl
  · intro o hLeftmost hPending
    have hScan :=
      dataFrames.scan_of_leftmost_pending
        hLeftmost.junkBefore hPending.judge_eq
    rw [parseNextFrame_scan, hScan]
    rfl
  · intro o isExtended dlc hLeftmost hComplete
    rcases hComplete.judge_eq with ⟨hDlc, hJudge⟩
    have hScan :=
      dataFrames.scan_of_leftmost_accept
        hLeftmost.junkBefore hComplete.1.inView hJudge
    have hPayload :
        (dataField isExtended dlc
          (buffer.drop o)).length = dlc := by
      have hLength := hComplete.2.1
      simp only [frameLength] at hLength
      simp only [dataField, List.length_take,
        List.length_drop]
      omega
    let frame :=
      frameAt isExtended ⟨dlc, hDlc⟩ (buffer.drop o)
    refine ⟨frame.frameMeta, frame.writtenTo dataOut,
      ?_, ?_, ?_, rfl, ?_⟩
    · rw [parseNextFrame_scan, hScan]
      rfl
    · have hId :=
        toNat_frameAt_id isExtended ⟨dlc, hDlc⟩
          (buffer.drop o)
      rw [idField, List.drop_drop] at hId
      exact hId
    · rw [ParsedFrame.toNat_dlc]
      exact hPayload
    · change
        dataField isExtended dlc (buffer.drop o) ++
            dataOut.toList.drop
              (dataField isExtended dlc
                (buffer.drop o)).length =
          _
      rw [hPayload, dataField, List.drop_drop,
        ← Nat.add_assoc]

/- A position without the start byte does not stop the scan. -/
theorem not_stops_of_start
    {buffer : List UInt8}
    {o : Nat}
    (hStart : buffer[o]? ≠ some 0xAA) :
    ¬ Stops buffer o := by
  rintro (⟨_, _, hCandidate, _⟩ | ⟨_, _, hCandidate, _⟩)
  · exact hStart hCandidate.start
  · exact hStart hCandidate.start

/- No stop, an unfinished frame and a complete one. -/
theorem parseNextFrame_leftmost_on_examples :
    parseNextFrame [0x00, 0x01, 0x02, 0x03, 0x04, 0x05]
          (FixedArray.replicate 8 0) =
        .ok ((2, none), FixedArray.replicate 8 0) ∧
      parseNextFrame [0x00, 0xAA, 0xC2, 0x23, 0x01, 0x11]
          (FixedArray.replicate 8 0) =
        .ok ((1, none), FixedArray.replicate 8 0) ∧
      ∃ frameMeta dataOut',
        parseNextFrame [0x00, 0xAA, 0xC1, 0x23, 0x01, 0x11, 0x55]
            (FixedArray.replicate 8 0) =
          .ok ((7, some frameMeta), dataOut') := by
  refine ⟨?_, ?_, ?_⟩
  · refine (parseNextFrame_leftmost _ _).2.1 ?_
    intro o
    apply not_stops_of_start
    match o with
    | 0 | 1 | 2 | 3 | 4 | 5 => decide
    | o + 6 => simp
  · have hPending :
        Pending [0x00, 0xAA, 0xC2, 0x23, 0x01, 0x11] 1 :=
      ⟨false, 2,
        ⟨by decide, by decide, ⟨0xC2, by decide⟩,
          by decide⟩,
        by decide⟩
    refine (parseNextFrame_leftmost _ _).2.2.1 1
      ⟨Or.inl hPending, ?_⟩ hPending
    intro p hp
    have hZero : p = 0 := by omega
    subst hZero
    exact not_stops_of_start (by decide)
  · have hComplete :
        Complete
          [0x00, 0xAA, 0xC1, 0x23, 0x01, 0x11, 0x55] 1
          false 1 :=
      ⟨⟨by decide, by decide, ⟨0xC1, by decide⟩,
          by decide⟩,
        by decide, by decide⟩
    have hLeftmost :
        Leftmost
          [0x00, 0xAA, 0xC1, 0x23, 0x01, 0x11, 0x55] 1 := by
      refine ⟨Or.inr ⟨false, 1, hComplete⟩, ?_⟩
      intro p hp
      have hZero : p = 0 := by omega
      subst hZero
      exact not_stops_of_start (by decide)
    rcases (parseNextFrame_leftmost _
        (FixedArray.replicate 8 0)).2.2.2 1 false 1
        hLeftmost hComplete with
      ⟨frameMeta, dataOut', hParse, _⟩
    exact ⟨frameMeta, dataOut', hParse⟩

------------------------------------------------------------
-- Finality
------------------------------------------------------------

/- The payload a caller reads after a parse. -/
def payloadOf
    (frame : Option ParsedFrameMeta)
    (dataOut : FixedArray UInt8 8) :
    List UInt8 :=
  match frame with
  | none => []
  | some frameMeta =>
      dataOut.toList.take frameMeta.dlc.toNat

/-
  Verdicts on a partial buffer are final.  A frame that was
  found stays the result when more bytes follow; when none
  was found, the dropped bytes can be forgotten.
-/
theorem parseNextFrame_final
    (buffer rest : List UInt8)
    (dataOut₁ dataOut₂ dataOut₃ : FixedArray UInt8 8) :
    (∀ c frameMeta out₁,
        parseNextFrame buffer dataOut₁ =
            .ok ((c, some frameMeta), out₁) →
          ∃ out₂,
            parseNextFrame (buffer ++ rest) dataOut₂ =
                .ok ((c, some frameMeta), out₂) ∧
              payloadOf (some frameMeta) out₂ =
                payloadOf (some frameMeta) out₁) ∧
      (∀ c out₁,
        parseNextFrame buffer dataOut₁ =
            .ok ((c, none), out₁) →
          (∀ c' result out₂,
            parseNextFrame (buffer.drop c ++ rest)
                  dataOut₂ =
                .ok ((c', result), out₂) →
              ∃ out₃,
                parseNextFrame (buffer ++ rest) dataOut₃ =
                    .ok ((c + c', result), out₃) ∧
                  payloadOf result out₃ =
                    payloadOf result out₂) ∧
            parseNextFrame (buffer.drop c) dataOut₂ =
              .ok ((0, none), dataOut₂)) := by
  simp only [parseNextFrame_scan, Except.ok.injEq]
  refine ⟨?_, ?_⟩
  · intro c frameMeta out₁ hParse
    rcases parseOutcome_eq_some hParse with
      ⟨frame, hScan, rfl, rfl⟩
    rw [dataFrames.scan_append_of_some rest hScan]
    refine ⟨frame.writtenTo dataOut₂, rfl, ?_⟩
    simp only [payloadOf, ParsedFrame.take_writtenTo]
  · intro c out₁ hParse
    rcases parseOutcome_eq_none hParse with ⟨hScan, _⟩
    refine ⟨?_, ?_⟩
    · intro c' result out₂ hLater
      rw [dataFrames.scan_append_of_none rest hScan]
      generalize dataFrames.scan (buffer.drop c ++ rest) =
        scanned at hLater
      rcases scanned with ⟨consumed, _ | frame⟩
      · simp only [parseOutcome, Prod.mk.injEq] at hLater
        rcases hLater with ⟨⟨rfl, rfl⟩, rfl⟩
        exact ⟨dataOut₃, rfl, rfl⟩
      · simp only [parseOutcome, Prod.mk.injEq] at hLater
        rcases hLater with ⟨⟨rfl, rfl⟩, rfl⟩
        refine ⟨frame.writtenTo dataOut₃, rfl, ?_⟩
        simp only [payloadOf, ParsedFrame.take_writtenTo]
    · rw [dataFrames.scan_drop_of_none hScan]
      rfl

/- A frame after junk, and the same bytes cut in its id. -/
theorem parseNextFrame_final_on_examples :
    (∃ out,
        parseNextFrame
            ([0x00, 0xAA, 0xC1, 0x23, 0x01, 0x11, 0x55] ++
              [0xAA])
            (FixedArray.replicate 8 1) =
          .ok ((7, some ⟨0x123, 1, false⟩), out)) ∧
      ∃ out,
        parseNextFrame
            ([0x00, 0xAA, 0xC1, 0x23, 0x01] ++
              [0x11, 0x55])
            (FixedArray.replicate 8 0) =
          .ok ((1 + 6, some ⟨0x123, 1, false⟩), out) := by
  refine ⟨?_, ?_⟩
  · rcases (parseNextFrame_final
        [0x00, 0xAA, 0xC1, 0x23, 0x01, 0x11, 0x55] [0xAA]
        (FixedArray.replicate 8 0)
        (FixedArray.replicate 8 1)
        (FixedArray.replicate 8 0)).1 7 ⟨0x123, 1, false⟩
        ⟨[0x11, 0, 0, 0, 0, 0, 0, 0], rfl⟩ (by decide) with
      ⟨out, hParse, _⟩
    exact ⟨out, hParse⟩
  · rcases ((parseNextFrame_final
        [0x00, 0xAA, 0xC1, 0x23, 0x01] [0x11, 0x55]
        (FixedArray.replicate 8 0)
        (FixedArray.replicate 8 0)
        (FixedArray.replicate 8 0)).2 1
        (FixedArray.replicate 8 0) (by decide)).1 6
        (some ⟨0x123, 1, false⟩)
        ⟨[0x11, 0, 0, 0, 0, 0, 0, 0], rfl⟩ (by decide) with
      ⟨out, hParse, _⟩
    exact ⟨out, hParse⟩

end WaveshareUsbCanA

end UsbCan
