import UsbCan.Protocol.Encoder

/-
  The data-frame grammar, and the parser as its scan.

  Key definitions include:
    * `UsbCan.WaveshareUsbCanA.header`
    * `UsbCan.WaveshareUsbCanA.judge`
    * `UsbCan.WaveshareUsbCanA.dataFrames`

  Key theorems include:
    * `UsbCan.WaveshareUsbCanA.parseIteration_judge`
    * `UsbCan.WaveshareUsbCanA.parseNextFrame_scan`
-/

open Checked Framing

------------------------------------------------------------
-- The Data-Frame Grammar
------------------------------------------------------------

namespace UsbCan

namespace WaveshareUsbCanA

/-
  The identifier width and data length an info byte
  announces, if it announces a data frame at all.
-/
def header (info : UInt8) : Option (Bool × Fin 9) :=
  if hDlc : info.toNat % 16 < 9 then
    if info.toNat / 16 = 0xC then
      some (false, ⟨info.toNat % 16, hDlc⟩)
    else if info.toNat / 16 = 0xE then
      some (true, ⟨info.toNat % 16, hDlc⟩)
    else
      none
  else
    none

/- The identifier bytes of a frame at the front of `input`. -/
def idField
    (isExtended : Bool)
    (input : List UInt8) :
    List UInt8 :=
  (input.drop 2).take (idLength isExtended)

/- The data bytes of a frame at the front of `input`. -/
def dataField
    (isExtended : Bool)
    (dlc : Nat)
    (input : List UInt8) :
    List UInt8 :=
  (input.drop (2 + idLength isExtended)).take dlc

/- The frame with a known header at the front of `input`. -/
def frameAt
    (isExtended : Bool)
    (dlc : Fin 9)
    (input : List UInt8) :
    ParsedFrame where
  id :=
    UInt32.ofNat
      (LittleEndian.value (idField isExtended input))
  isExtended := isExtended
  payload := dataField isExtended dlc.val input
  payload_le := by
    have hLe := List.length_take_le dlc.val
      (input.drop (2 + idLength isExtended))
    simp only [dataField]
    omega

/- Judge the bytes in front of a position. -/
def judge : List UInt8 → Verdict ParsedFrame
| start :: info :: body =>
    if start = frameStart then
      match header info with
      | none => .reject
      | some (isExtended, dlc) =>
          if (start :: info :: body).length <
              frameLength isExtended dlc.val then
            .pending
          else if
              (start :: info :: body)[
                frameLength isExtended dlc.val - 1]? =
                some frameFooter then
            .accept (frameLength isExtended dlc.val)
              (frameAt isExtended dlc
                (start :: info :: body))
          else
            .reject
    else
      .reject
| _ => .reject

theorem frameLength_bounds
    (isExtended : Bool)
    (dlc : Fin 9) :
    5 ≤ frameLength isExtended dlc.val ∧
      frameLength isExtended dlc.val ≤ 15 := by
  have hBounds := idLength_bounds isExtended
  simp only [frameLength]
  omega

/- What a judgement of at least two bytes depends on. -/
theorem judge_cases
    (start info : UInt8)
    (body : List UInt8) :
    ((start ≠ frameStart ∨ header info = none) ∧
        judge (start :: info :: body) = .reject) ∨
      ∃ isExtended dlc,
        start = frameStart ∧
          header info = some (isExtended, dlc) ∧
          (((start :: info :: body).length <
                frameLength isExtended dlc.val ∧
              judge (start :: info :: body) = .pending) ∨
            (frameLength isExtended dlc.val ≤
                (start :: info :: body).length ∧
              (start :: info :: body)[
                  frameLength isExtended dlc.val - 1]? =
                some frameFooter ∧
              judge (start :: info :: body) =
                .accept (frameLength isExtended dlc.val)
                  (frameAt isExtended dlc
                    (start :: info :: body))) ∨
            (frameLength isExtended dlc.val ≤
                (start :: info :: body).length ∧
              (start :: info :: body)[
                  frameLength isExtended dlc.val - 1]? ≠
                some frameFooter ∧
              judge (start :: info :: body) =
                .reject)) := by
  by_cases hStart : start = frameStart
  · cases hHeader : header info with
    | none =>
        exact Or.inl ⟨Or.inr rfl, by
          simp [judge, hHeader]⟩
    | some fields =>
        rcases fields with ⟨isExtended, dlc⟩
        refine Or.inr
          ⟨isExtended, dlc, hStart, rfl, ?_⟩
        by_cases hShort :
            (start :: info :: body).length <
              frameLength isExtended dlc.val
        · refine Or.inl ⟨hShort, ?_⟩
          rw [judge, if_pos hStart, hHeader]
          exact if_pos hShort
        · by_cases hFooter :
              (start :: info :: body)[
                  frameLength isExtended dlc.val - 1]? =
                some frameFooter
          · refine Or.inr (Or.inl
              ⟨by omega, hFooter, ?_⟩)
            rw [judge, if_pos hStart, hHeader]
            simp only [if_neg hShort, if_pos hFooter]
          · refine Or.inr (Or.inr
              ⟨by omega, hFooter, ?_⟩)
            rw [judge, if_pos hStart, hHeader]
            simp only [if_neg hShort, if_neg hFooter]
  · exact Or.inl ⟨Or.inl hStart, by
      rw [judge, if_neg hStart]⟩

/- A byte other than the start byte is junk. -/
theorem judge_of_ne_start
    {start : UInt8}
    (hStart : start ≠ frameStart)
    (body : List UInt8) :
    judge (start :: body) = .reject := by
  cases body with
  | nil => rfl
  | cons info body => rw [judge, if_neg hStart]

/- Bytes inside a frame are not affected by what follows. -/
theorem frameAt_append
    {isExtended : Bool}
    {dlc : Fin 9}
    {input : List UInt8}
    (rest : List UInt8)
    (hLength : frameLength isExtended dlc.val ≤ input.length) :
    frameAt isExtended dlc (input ++ rest) =
      frameAt isExtended dlc input := by
  have hBounds := idLength_bounds isExtended
  simp only [frameLength] at hLength
  have hId :
      idField isExtended (input ++ rest) =
        idField isExtended input := by
    rw [idField, idField,
      List.drop_append_of_le_length (by omega),
      List.take_append_of_le_length (by
        simp only [List.length_drop]
        omega)]
  have hData :
      dataField isExtended dlc.val (input ++ rest) =
        dataField isExtended dlc.val input := by
    rw [dataField, dataField,
      List.drop_append_of_le_length (by omega),
      List.take_append_of_le_length (by
        simp only [List.length_drop]
        omega)]
  ext1
  · simp only [frameAt, hId]
  · rfl
  · simp only [frameAt, hData]

/- The identifier of a complete frame as a number. -/
theorem toNat_frameAt_id
    (isExtended : Bool)
    (dlc : Fin 9)
    (input : List UInt8) :
    (frameAt isExtended dlc input).id.toNat =
      LittleEndian.value (idField isExtended input) := by
  have hBounds := idLength_bounds isExtended
  have hLength :
      (idField isExtended input).length ≤ 4 := by
    have hLe := List.length_take_le (idLength isExtended)
      (input.drop 2)
    simp only [idField]
    omega
  have hValue :=
    LittleEndian.value_lt (idField isExtended input)
  have hPower :
      256 ^ (idField isExtended input).length ≤ 256 ^ 4 :=
    Nat.pow_le_pow_right (by omega) hLength
  simp only [frameAt, UInt32.toNat_ofNat']
  exact Nat.mod_eq_of_lt (by omega)

theorem judge_pending_lt
    {input : List UInt8}
    (hJudge : judge input = .pending) :
    input.length < 15 := by
  match input with
  | [] => simp
  | [_] => simp
  | start :: info :: body =>
      rcases judge_cases start info body with
        ⟨_, hReject⟩ |
        ⟨isExtended, dlc, _, _, ⟨hShort, _⟩ |
          ⟨_, _, hAccept⟩ | ⟨_, _, hReject⟩⟩
      · rw [hReject] at hJudge
        cases hJudge
      · have hBounds := frameLength_bounds isExtended dlc
        omega
      · rw [hAccept] at hJudge
        cases hJudge
      · rw [hReject] at hJudge
        cases hJudge

/- An accepted frame and where its bytes are. -/
theorem judge_accept
    {input : List UInt8}
    {n : Nat}
    {frame : ParsedFrame}
    (hJudge : judge input = .accept n frame) :
    ∃ info body isExtended dlc,
      input = frameStart :: info :: body ∧
        header info = some (isExtended, dlc) ∧
        n = frameLength isExtended dlc.val ∧
        n ≤ input.length ∧
        input[n - 1]? = some frameFooter ∧
        frame = frameAt isExtended dlc input := by
  match input with
  | [] => simp [judge] at hJudge
  | [_] => simp [judge] at hJudge
  | start :: info :: body =>
      rcases judge_cases start info body with
        ⟨_, hReject⟩ |
        ⟨isExtended, dlc, hStart, hHeader,
          ⟨_, hPending⟩ | ⟨hLength, hFooter, hAccept⟩ |
          ⟨_, _, hReject⟩⟩
      · rw [hReject] at hJudge
        cases hJudge
      · rw [hPending] at hJudge
        cases hJudge
      · rw [hAccept] at hJudge
        cases hJudge
        exact ⟨info, body, isExtended, dlc, by rw [hStart],
          hHeader, rfl, hLength, hFooter, rfl⟩
      · rw [hReject] at hJudge
        cases hJudge

theorem judge_append_of_accept
    {input : List UInt8}
    {n : Nat}
    {frame : ParsedFrame}
    (rest : List UInt8)
    (hJudge : judge input = .accept n frame) :
    judge (input ++ rest) = .accept n frame := by
  rcases judge_accept hJudge with
    ⟨info, body, isExtended, dlc, rfl, hHeader, rfl,
      hLength, hFooter, rfl⟩
  have hBounds := frameLength_bounds isExtended dlc
  have hLonger :
      ¬ (frameStart :: info :: (body ++ rest)).length <
        frameLength isExtended dlc.val := by
    simp only [List.length_cons,
      List.length_append] at hLength ⊢
    omega
  have hFooter' :
      (frameStart :: info :: (body ++ rest))[
          frameLength isExtended dlc.val - 1]? =
        some frameFooter := by
    rw [← List.cons_append, ← List.cons_append,
      List.getElem?_append_left (by omega)]
    exact hFooter
  have hFrame := frameAt_append rest hLength
  simp only [List.cons_append] at hFrame ⊢
  rw [judge, if_pos rfl, hHeader]
  simp only [if_neg hLonger, if_pos hFooter', hFrame]

theorem judge_append_of_reject
    {input : List UInt8}
    (rest : List UInt8)
    (hWindow : 5 ≤ input.length)
    (hJudge : judge input = .reject) :
    judge (input ++ rest) = .reject := by
  match input with
  | [] => simp at hWindow
  | [_] => simp at hWindow
  | start :: info :: body =>
      simp only [List.cons_append]
      rcases judge_cases start info body with
        ⟨hStart | hHeader, _⟩ |
        ⟨isExtended, dlc, hStart, hHeader,
          ⟨_, hPending⟩ | ⟨_, _, hAccept⟩ |
          ⟨hLength, hFooter, _⟩⟩
      · exact judge_of_ne_start hStart _
      · by_cases hStart : start = frameStart
        · rw [judge, if_pos hStart, hHeader]
        · exact judge_of_ne_start hStart _
      · rw [hPending] at hJudge
        cases hJudge
      · rw [hAccept] at hJudge
        cases hJudge
      · have hBounds := frameLength_bounds isExtended dlc
        have hLonger :
            ¬ (start :: info :: (body ++ rest)).length <
              frameLength isExtended dlc.val := by
          simp only [List.length_cons,
            List.length_append] at hLength ⊢
          omega
        have hFooter' :
            (start :: info :: (body ++ rest))[
                frameLength isExtended dlc.val - 1]? ≠
              some frameFooter := by
          rw [← List.cons_append, ← List.cons_append,
            List.getElem?_append_left (by omega)]
          exact hFooter
        rw [judge, if_pos hStart, hHeader]
        simp only [if_neg hLonger, if_neg hFooter']

/- The grammar of data frames. -/
def dataFrames : Grammar UInt8 ParsedFrame where
  window := 5
  reach := 15
  judge := judge
  window_pos := by omega
  window_le_reach := by omega
  pending_lt := judge_pending_lt
  accept_pos hJudge := by
    rcases judge_accept hJudge with
      ⟨_, _, isExtended, dlc, _, _, hn, _⟩
    have hBounds := frameLength_bounds isExtended dlc
    omega
  accept_le hJudge := by
    rcases judge_accept hJudge with
      ⟨_, _, isExtended, dlc, _, _, hn, hLe, _⟩
    have hBounds := frameLength_bounds isExtended dlc
    omega
  reject_append := judge_append_of_reject
  accept_append := judge_append_of_accept

------------------------------------------------------------
-- The Parser Scans with the Grammar
------------------------------------------------------------

/- The parser's bit operations compute the header fields. -/
theorem toNat_nibbles (info : UInt8) :
    (info >>> 4).toNat = info.toNat / 16 ∧
      (info &&& 0x0F).toNat = info.toNat % 16 := by
  constructor
  · simp [Nat.shiftRight_eq_div_pow]
  · simpa using Nat.and_two_pow_sub_one_eq_mod info.toNat 4

/- A byte with no header is rejected by one of two checks. -/
theorem nibbles_of_header_none
    {info : UInt8}
    (hHeader : header info = none) :
    (info >>> 4 ≠ 0x0C ∧ info >>> 4 ≠ 0x0E) ∨
      (info &&& 0x0F).toNat > 8 := by
  rcases toNat_nibbles info with ⟨hType, hDlc⟩
  by_cases hLong : info.toNat % 16 < 9
  · refine Or.inl ⟨?_, ?_⟩
    · intro hStandard
      have hNibble : info.toNat / 16 = 0xC := by
        rw [← hType, hStandard]
        rfl
      simp [header, hLong, hNibble] at hHeader
    · intro hExtended
      have hNibble : info.toNat / 16 = 0xE := by
        rw [← hType, hExtended]
        rfl
      simp [header, hLong, hNibble] at hHeader
  · exact Or.inr (by omega)

/- A byte with a header passes both checks. -/
theorem nibbles_of_header_some
    {info : UInt8}
    {isExtended : Bool}
    {dlc : Fin 9}
    (hHeader : header info = some (isExtended, dlc)) :
    info >>> 4 = (if isExtended then 0x0E else 0x0C) ∧
      (info &&& 0x0F).toNat = dlc.val := by
  rcases toNat_nibbles info with ⟨hType, hDlc⟩
  unfold header at hHeader
  split at hHeader
  · split at hHeader
    · rename_i hNibble
      simp only [Option.some.injEq,
        Prod.mk.injEq] at hHeader
      rcases hHeader with ⟨rfl, rfl⟩
      refine ⟨UInt8.toNat_inj.mp ?_, hDlc⟩
      rw [hType, hNibble]
      rfl
    · split at hHeader
      · rename_i hNibble
        simp only [Option.some.injEq,
          Prod.mk.injEq] at hHeader
        rcases hHeader with ⟨rfl, rfl⟩
        refine ⟨UInt8.toNat_inj.mp ?_, hDlc⟩
        rw [hType, hNibble]
        rfl
      · cases hHeader
  · cases hHeader

/- The bytes of a complete frame, read field by field. -/
theorem extract_frame
    (buffer : List UInt8)
    (offset : Nat)
    (dataOut : FixedArray UInt8 8)
    (isExtended : Bool)
    (dlc : Fin 9)
    (hLength :
      offset + frameLength isExtended dlc.val ≤
        buffer.length) :
    ∃ idBytes,
      slice buffer (offset + 2)
          (offset + 2 + idLength isExtended) =
        .ok (idField isExtended (buffer.drop offset)) ∧
      (FixedArray.replicate 4 0).copyFromSlice 0
          (idLength isExtended)
          (idField isExtended (buffer.drop offset)) =
        .ok idBytes ∧
      (frameAt isExtended dlc
          (buffer.drop offset)).frameMeta =
        { id := LittleEndian.fromLeBytes idBytes
          dlc := UInt8.ofNat dlc.val
          isExtended := isExtended } ∧
      slice buffer (offset + 2 + idLength isExtended)
          (offset + 2 + idLength isExtended + dlc.val) =
        .ok (dataField isExtended dlc.val
          (buffer.drop offset)) ∧
      dataOut.copyFromSlice 0 dlc.val
          (dataField isExtended dlc.val
            (buffer.drop offset)) =
        .ok ((frameAt isExtended dlc
          (buffer.drop offset)).writtenTo dataOut) := by
  have hBounds := idLength_bounds isExtended
  simp only [frameLength] at hLength
  have hIdLength :
      (idField isExtended (buffer.drop offset)).length =
        idLength isExtended := by
    simp only [idField, List.length_take, List.length_drop]
    omega
  have hDataLength :
      (dataField isExtended dlc.val
        (buffer.drop offset)).length = dlc.val := by
    simp only [dataField, List.length_take,
      List.length_drop]
    omega
  have hDlc := dlc.isLt
  rcases (FixedArray.replicate 4 (0 : UInt8)).copyFromSlice_ok
      0 (idLength isExtended)
      (idField isExtended (buffer.drop offset)) hBounds.2
      (by omega) with
    ⟨idBytes, hIdBytes, hIdList⟩
  rcases dataOut.copyFromSlice_ok 0 dlc.val
      (dataField isExtended dlc.val (buffer.drop offset))
      (by omega) (by omega) with
    ⟨written, hWritten, hDataList⟩
  refine ⟨idBytes, ?_, hIdBytes, ?_, ?_, ?_⟩
  · rw [slice_ok (by omega) (by omega), idField,
      List.drop_drop]
    congr 2
    omega
  · rw [List.take_zero, List.nil_append,
      FixedArray.toList_replicate,
      List.drop_replicate] at hIdList
    simp only [ParsedFrame.frameMeta, frameAt, hDataLength,
      LittleEndian.fromLeBytes, hIdList,
      LittleEndian.value_append_zeros]
  · rw [slice_ok (by omega) (by omega), dataField,
      List.drop_drop, ← Nat.add_assoc]
    congr 2
    omega
  · rw [hWritten]
    congr 1
    ext1
    rw [hDataList, List.take_zero, List.nil_append]
    simp only [ParsedFrame.writtenTo, frameAt, hDataLength]

/- The footer byte of a complete frame is in view. -/
theorem footer_at
    {buffer : List UInt8}
    {offset : Nat}
    (isExtended : Bool)
    (dlc : Fin 9)
    (hComplete :
      offset + frameLength isExtended dlc.val ≤
        buffer.length) :
    ∃ footer,
      sub (offset + frameLength isExtended dlc.val) 1 =
          .ok
            (offset + frameLength isExtended dlc.val - 1) ∧
        index buffer
            (offset + frameLength isExtended dlc.val - 1) =
          .ok footer ∧
        (buffer.drop offset)[
            frameLength isExtended dlc.val - 1]? =
          some footer := by
  have hBounds := frameLength_bounds isExtended dlc
  have hIndex :
      offset + frameLength isExtended dlc.val - 1 <
        buffer.length := by
    omega
  have hSame :
      (buffer.drop offset)[
          frameLength isExtended dlc.val - 1]? =
        buffer[
          offset + frameLength isExtended dlc.val - 1]? := by
    rw [List.getElem?_drop, Nat.add_sub_assoc (by omega)]
  refine ⟨buffer[
      offset + frameLength isExtended dlc.val - 1],
    sub_ok (by omega), index_ok ?_, ?_⟩
  · exact List.getElem?_eq_getElem hIndex
  · rw [hSame, List.getElem?_eq_getElem hIndex]

/- The two bytes an iteration reads first. -/
theorem front_at
    {buffer : List UInt8}
    {offset : Nat}
    (hWindow : offset + 5 ≤ buffer.length) :
    ∃ start info body,
      buffer.drop offset = start :: info :: body ∧
        index buffer offset = .ok start ∧
        index buffer (offset + 1) = .ok info := by
  refine ⟨buffer[offset], buffer[offset + 1],
    buffer.drop (offset + 2), ?_, ?_, ?_⟩
  · rw [List.drop_eq_getElem_cons (by omega),
      List.drop_eq_getElem_cons (by omega)]
  · exact index_ok (List.getElem?_eq_getElem (by omega))
  · exact index_ok (List.getElem?_eq_getElem (by omega))

------------------------------------------------------------
-- One Iteration
------------------------------------------------------------

section Iteration

variable {buffer : List UInt8} {offset : Nat}
variable {start info : UInt8}
variable (dataOut : FixedArray UInt8 8)

/- The scan is done when fewer than five bytes are left. -/
theorem parseIteration_short
    (hOffset : offset ≤ buffer.length)
    (hShort : buffer.length - offset < 5) :
    parseIteration buffer dataOut offset =
      .ok (.done ((offset, none), dataOut)) := by
  have hRemaining :
      sub buffer.length offset =
        .ok (buffer.length - offset) :=
    sub_ok hOffset
  unfold parseIteration
  simp only [hRemaining, ok_bind, if_pos hShort,
    pure_eq_ok]

/- A byte that starts no data frame is skipped. -/
theorem parseIteration_junk
    (hWindow : offset + 5 ≤ buffer.length)
    (hStart : index buffer offset = .ok start)
    (hInfo : index buffer (offset + 1) = .ok info)
    (hJunk : start ≠ frameStart ∨ header info = none) :
    parseIteration buffer dataOut offset =
      .ok (.next (offset + 1)) := by
  have hRemaining :
      sub buffer.length offset =
        .ok (buffer.length - offset) :=
    sub_ok (by omega)
  have hLong : ¬ buffer.length - offset < 5 := by omega
  unfold parseIteration
  simp only [hRemaining, ok_bind, if_neg hLong, hStart,
    hInfo]
  by_cases hStartByte : start = frameStart
  · have hHeader := hJunk.resolve_left
      (not_not.mpr hStartByte)
    rw [if_neg (not_not.mpr hStartByte)]
    by_cases hNibble :
        info >>> 4 ≠ 0x0C ∧ info >>> 4 ≠ 0x0E
    · rw [if_pos hNibble, pure_eq_ok]
    · have hDlc :=
        (nibbles_of_header_none hHeader).resolve_left
          hNibble
      rw [if_neg hNibble, if_pos hDlc, pure_eq_ok]
  · rw [if_pos hStartByte, pure_eq_ok]

/- What an iteration does behind a header. -/
def parseBody
    (buffer : List UInt8)
    (dataOut : FixedArray UInt8 8)
    (offset : Nat)
    (isExtended : Bool)
    (dlc : Fin 9) :
    Exec (Control Nat ParseResult) :=
  if buffer.length - offset <
      frameLength isExtended dlc.val then
    pure (.done ((offset, none), dataOut))
  else do
    let last ←
      sub (offset + frameLength isExtended dlc.val) 1
    let footer ← index buffer last
    if footer ≠ frameFooter then
      pure (.next (offset + 1))
    else do
      let idSource ←
        slice buffer (offset + 2)
          (offset + 2 + idLength isExtended)
      let idBytes ←
        (FixedArray.replicate 4 0).copyFromSlice
          0 (idLength isExtended) idSource
      let payload ←
        slice buffer (offset + 2 + idLength isExtended)
          (offset + 2 + idLength isExtended + dlc.val)
      let dataOut ← dataOut.copyFromSlice 0 dlc.val payload
      pure (.done
        ((offset + frameLength isExtended dlc.val,
            some
              { id := LittleEndian.fromLeBytes idBytes
                dlc := UInt8.ofNat dlc.val
                isExtended := isExtended }),
          dataOut))

/- A header passes the checks of its two bytes. -/
theorem parseIteration_header
    {isExtended : Bool}
    {dlc : Fin 9}
    (hWindow : offset + 5 ≤ buffer.length)
    (hStart : index buffer offset = .ok frameStart)
    (hInfo : index buffer (offset + 1) = .ok info)
    (hHeader : header info = some (isExtended, dlc)) :
    parseIteration buffer dataOut offset =
      parseBody buffer dataOut offset isExtended dlc := by
  have hRemaining :
      sub buffer.length offset =
        .ok (buffer.length - offset) :=
    sub_ok (by omega)
  have hLong : ¬ buffer.length - offset < 5 := by omega
  rcases nibbles_of_header_some hHeader with
    ⟨hNibble, hDlc⟩
  have hData :
      ¬ (info >>> 4 ≠ 0x0C ∧ info >>> 4 ≠ 0x0E) := by
    rw [hNibble]
    cases isExtended <;> decide
  have hExtended : (info >>> 4 == 0x0E) = isExtended := by
    rw [hNibble]
    cases isExtended <;> decide
  have hShortDlc : ¬ dlc.val > 8 := by omega
  unfold parseIteration
  simp only [hRemaining, ok_bind, if_neg hLong, hStart,
    hInfo, ne_eq, not_true_eq_false, if_false]
  rw [if_neg hData]
  simp only [hExtended, hDlc, if_neg hShortDlc]
  rfl

variable {dataOut}
variable {isExtended : Bool} {dlc : Fin 9}

/- Behind a header, too few bytes end the scan. -/
theorem parseBody_pending
    (hShort :
      buffer.length - offset <
        frameLength isExtended dlc.val) :
    parseBody buffer dataOut offset isExtended dlc =
      .ok (.done ((offset, none), dataOut)) := by
  rw [parseBody, if_pos hShort, pure_eq_ok]

/- A frame without its footer is skipped. -/
theorem parseBody_reject
    (hComplete :
      offset + frameLength isExtended dlc.val ≤
        buffer.length)
    (hFooter :
      (buffer.drop offset)[
          frameLength isExtended dlc.val - 1]? ≠
        some frameFooter) :
    parseBody buffer dataOut offset isExtended dlc =
      .ok (.next (offset + 1)) := by
  rcases footer_at isExtended dlc hComplete with
    ⟨footer, hLast, hIndex, hGet⟩
  have hByte : footer ≠ frameFooter := by
    intro hEq
    apply hFooter
    rw [hGet, hEq]
  rw [parseBody, if_neg (by omega)]
  simp only [hLast, hIndex, ok_bind, if_pos hByte,
    pure_eq_ok]

/- A frame with its footer is extracted. -/
theorem parseBody_accept
    (hComplete :
      offset + frameLength isExtended dlc.val ≤
        buffer.length)
    (hFooter :
      (buffer.drop offset)[
          frameLength isExtended dlc.val - 1]? =
        some frameFooter) :
    parseBody buffer dataOut offset isExtended dlc =
      .ok (.done
        (parseOutcome dataOut
          (offset + frameLength isExtended dlc.val,
            some (frameAt isExtended dlc
              (buffer.drop offset))))) := by
  rcases footer_at isExtended dlc hComplete with
    ⟨footer, hLast, hIndex, hGet⟩
  have hByte : footer = frameFooter := by
    rw [hGet] at hFooter
    exact Option.some.inj hFooter
  rcases extract_frame buffer offset dataOut isExtended dlc
      hComplete with
    ⟨idBytes, hIdSlice, hIdCopy, hMeta, hDataSlice,
      hDataCopy⟩
  rw [parseBody, if_neg (by omega)]
  simp only [hLast, hIndex, ok_bind, hByte, ne_eq,
    not_true_eq_false, if_false, hIdSlice, hIdCopy,
    hDataSlice, hDataCopy, parseOutcome, hMeta, pure_eq_ok]

end Iteration

/- One iteration of the scan follows the judgement. -/
theorem parseIteration_judge
    {buffer : List UInt8}
    {offset : Nat}
    (dataOut : FixedArray UInt8 8)
    (hWindow : offset + 5 ≤ buffer.length) :
    parseIteration buffer dataOut offset =
      match judge (buffer.drop offset) with
      | .reject => .ok (.next (offset + 1))
      | .pending =>
          .ok (.done ((offset, none), dataOut))
      | .accept n frame =>
          .ok (.done
            (parseOutcome dataOut
              (offset + n, some frame))) := by
  rcases front_at hWindow with
    ⟨start, info, body, hDrop, hStart, hInfo⟩
  have hLength :
      (start :: info :: body).length =
        buffer.length - offset := by
    rw [← hDrop, List.length_drop]
  rcases judge_cases start info body with
    ⟨hJunk, hReject⟩ |
    ⟨isExtended, dlc, rfl, hHeader, hRest⟩
  · rw [hDrop, hReject]
    exact parseIteration_junk dataOut hWindow hStart hInfo
      hJunk
  · rw [parseIteration_header dataOut hWindow hStart hInfo
      hHeader]
    rw [hLength, ← hDrop] at hRest
    rcases hRest with
      ⟨hShort, hPending⟩ |
      ⟨hComplete, hFooter, hAccept⟩ |
      ⟨hComplete, hFooter, hReject⟩
    · rw [hPending]
      exact parseBody_pending hShort
    · rw [hAccept]
      exact parseBody_accept (by omega) hFooter
    · rw [hReject]
      exact parseBody_reject (by omega) hFooter

/- What is still to be found from an offset on. -/
def scanFrom
    (buffer : List UInt8)
    (dataOut : FixedArray UInt8 8)
    (offset : Nat) :
    ParseResult :=
  parseOutcome dataOut
    (offset + (dataFrames.scan (buffer.drop offset)).1,
      (dataFrames.scan (buffer.drop offset)).2)

/-
  One iteration either ends with what is to be found from
  its offset or leaves it to be found from the next one.
-/
theorem parseIteration_progress
    (buffer : List UInt8)
    (dataOut : FixedArray UInt8 8)
    (offset : Nat)
    (hOffset : offset ≤ buffer.length) :
    (∃ result,
        parseIteration buffer dataOut offset =
            .ok (.done result) ∧
          result = scanFrom buffer dataOut offset) ∨
      ∃ offset',
        parseIteration buffer dataOut offset =
            .ok (.next offset') ∧
          offset' ≤ buffer.length ∧
          buffer.length - offset' < buffer.length - offset ∧
          ∀ result,
            result = scanFrom buffer dataOut offset' →
              result = scanFrom buffer dataOut offset := by
  have hLength :
      (buffer.drop offset).length =
        buffer.length - offset := by
    simp
  rcases dataFrames.scan_cases (buffer.drop offset) with
    ⟨hShort, hScan⟩ | ⟨hWindow, hPending, hScan⟩ |
    ⟨n, frame, hWindow, hAccept, hScan⟩ |
    ⟨byte, rest, hDrop, hWindow, hReject, hScan⟩
  · rw [hLength] at hShort
    refine Or.inl ⟨_,
      parseIteration_short dataOut hOffset hShort, ?_⟩
    rw [scanFrom, hScan]
    rfl
  · rw [hLength] at hWindow
    change 5 ≤ buffer.length - offset at hWindow
    change judge (buffer.drop offset) = .pending at hPending
    refine Or.inl ⟨((offset, none), dataOut), ?_, ?_⟩
    · rw [parseIteration_judge dataOut (by omega), hPending]
    · rw [scanFrom, hScan]
      rfl
  · rw [hLength] at hWindow
    change 5 ≤ buffer.length - offset at hWindow
    change judge (buffer.drop offset) = .accept n frame
      at hAccept
    refine Or.inl
      ⟨parseOutcome dataOut (offset + n, some frame), ?_,
        ?_⟩
    · rw [parseIteration_judge dataOut (by omega), hAccept]
    · rw [scanFrom, hScan]
  · rw [hLength] at hWindow
    change 5 ≤ buffer.length - offset at hWindow
    change judge (buffer.drop offset) = .reject at hReject
    refine Or.inr
      ⟨offset + 1, ?_, by omega, by omega, ?_⟩
    · rw [parseIteration_judge dataOut (by omega), hReject]
    · intro result hResult
      have hNext : buffer.drop (offset + 1) = rest := by
        rw [← List.drop_drop, hDrop, List.drop_one,
          List.tail_cons]
      have hCount :
          offset + 1 + (dataFrames.scan rest).1 =
            offset + ((dataFrames.scan rest).1 + 1) := by
        omega
      rw [hResult, scanFrom, scanFrom, hScan, hNext,
        hCount]

/-
  The parser returns what the scan of the grammar finds.
  The loop keeps its offset inside the buffer; its variant
  is the number of bytes left.
-/
theorem parseNextFrame_scan
    (buffer : List UInt8)
    (dataOut : FixedArray UInt8 8) :
    parseNextFrame buffer dataOut =
      .ok (parseOutcome dataOut
        (dataFrames.scan buffer)) := by
  have hStart :
      scanFrom buffer dataOut 0 =
        parseOutcome dataOut (dataFrames.scan buffer) := by
    rw [scanFrom, List.drop_zero, Nat.zero_add]
  rcases loop_spec
      (fun offset => offset ≤ buffer.length)
      (fun offset => buffer.length - offset)
      (fun offset result =>
        result = scanFrom buffer dataOut offset)
      (parseIteration_progress buffer dataOut)
      (buffer.length + 1) 0 (Nat.zero_le _)
      (by omega) with
    ⟨result, hLoop, hResult⟩
  rw [parseNextFrame, hLoop, hResult, hStart]

instance [EmbeddedCan] :
    ScanningProtocol WaveshareUsbCanA where
  grammar _ := dataFrames
  reach_le _ := dataFrameMaxSize_le
  parse_eq _ := parseNextFrame_scan

end WaveshareUsbCanA

end UsbCan
