import UsbCan.Protocol.Parser

/-
  The wire form and the data-frame grammar are inverse.

  Reading the wire form of a data frame gives its raw
  identifier, width and data back; a frame that was read
  with an identifier of its width has exactly one wire form,
  the bytes it was read from.

  Key definitions include:
    * `UsbCan.WaveshareUsbCanA.parsed`

  Key theorems include:
    * `UsbCan.WaveshareUsbCanA.judge_wire`
    * `UsbCan.WaveshareUsbCanA.take_of_judge_accept`
-/

open Checked Framing

------------------------------------------------------------
-- Headers
------------------------------------------------------------

namespace UsbCan

namespace WaveshareUsbCanA

/- A header is read from exactly one info byte. -/
theorem header_eq_some_iff
    {info : UInt8}
    {isExtended : Bool}
    {dlc : Fin 9} :
    header info = some (isExtended, dlc) ↔
      info = infoByte isExtended dlc.val := by
  have hDlc := dlc.isLt
  have hLegal : dlc.val ≤ 8 := by omega
  have hInfo := toNat_infoByte isExtended hLegal
  constructor
  · intro hHeader
    rcases nibbles_of_header_some hHeader with
      ⟨hType, hLow⟩
    rcases toNat_nibbles info with ⟨hHigh, hMod⟩
    apply UInt8.toNat_inj.mp
    rw [hInfo]
    rw [hMod] at hLow
    have hNibble := congrArg UInt8.toNat hType
    rw [hHigh] at hNibble
    cases isExtended with
    | false =>
        change _ = 0xC at hNibble
        change _ = 0xC * 16 + dlc.val
        omega
    | true =>
        change _ = 0xE at hNibble
        change _ = 0xE * 16 + dlc.val
        omega
  · intro hByte
    subst hByte
    unfold header
    cases isExtended with
    | false =>
        change _ = 0xC * 16 + dlc.val at hInfo
        have hMod :
            (infoByte false dlc.val).toNat % 16 =
              dlc.val := by
          omega
        rw [dif_pos (by omega), if_pos (by omega)]
        simp only [hMod]
    | true =>
        change _ = 0xE * 16 + dlc.val at hInfo
        have hMod :
            (infoByte true dlc.val).toNat % 16 =
              dlc.val := by
          omega
        rw [dif_pos (by omega), if_neg (by omega),
          if_pos (by omega)]
        simp only [hMod]

------------------------------------------------------------
-- Reading the Wire Form
------------------------------------------------------------

variable [EmbeddedCan]

/- A standard identifier has 11 bits. -/
theorem rawId_standard_lt (id : StandardId) :
    (rawId (.standard id)).1.toNat < 65536 := by
  have hRaw := (StandardId.asRaw id).toNat_lt
  simpa [rawId] using hRaw

/- The identifier bytes are the digits of the raw number. -/
theorem value_idBytes (id : Id) :
    LittleEndian.value (idBytes id) =
      (rawId id).1.toNat := by
  have hWord :
      LittleEndian.value
          (LittleEndian.toLeBytes (rawId id).1).toList =
        (rawId id).1.toNat := by
    rw [← LittleEndian.toNat_fromLeBytes,
      LittleEndian.fromLeBytes_toLeBytes]
  cases id with
  | standard id =>
      have hZeros :=
        LittleEndian.toLeBytes_of_lt (rawId_standard_lt id)
      rw [hZeros,
        LittleEndian.value_append_zeros] at hWord
      exact hWord
  | extended id =>
      have hAll :
          idBytes (.extended id) =
            (LittleEndian.toLeBytes
              (rawId (.extended id)).1).toList :=
        List.take_of_length_le (by
          rw [FixedArray.length_toList]
          exact Nat.le_refl 4)
      rw [hAll, hWord]

/- What the parser reads from the wire form. -/
def parsed (frame : DataFrame) : ParsedFrame where
  id := (rawId frame.id).1
  isExtended := (rawId frame.id).2
  payload := frame.data
  payload_le := frame.data_le

theorem frameAt_wire (frame : DataFrame) :
    frameAt (rawId frame.id).2
        ⟨frame.data.length, by
          have hData := frame.data_le
          omega⟩
        (wire frame) =
      parsed frame := by
  have hId :
      idField (rawId frame.id).2 (wire frame) =
        idBytes frame.id := by
    rw [idField, wire, List.append_assoc, List.append_assoc]
    exact List.take_left' (idBytes_length frame.id)
  have hData :
      dataField (rawId frame.id).2 frame.data.length
          (wire frame) =
        frame.data := by
    rw [dataField, wire, List.append_assoc,
      List.drop_left' (by
        simp only [List.length_append, List.length_cons,
          List.length_nil, idBytes_length]),
      List.take_left' rfl]
  ext1
  · simp only [frameAt, hId, value_idBytes, parsed,
      UInt32.ofNat_toNat]
  · rfl
  · simp only [frameAt, hData, parsed]

/- The wire form is read as the frame it was built from. -/
theorem judge_wire
    (frame : DataFrame)
    (rest : List UInt8) :
    judge (wire frame ++ rest) =
      .accept (wire frame).length (parsed frame) := by
  apply judge_append_of_accept
  have hData := frame.data_le
  have hHeader :
      header (infoByte (rawId frame.id).2
          frame.data.length) =
        some ((rawId frame.id).2,
          ⟨frame.data.length, by omega⟩) :=
    header_eq_some_iff.mpr rfl
  have hFooter :
      (wire frame)[
          frameLength (rawId frame.id).2
            frame.data.length - 1]? =
        some frameFooter := by
    rw [← wire_length, wire, List.length_append]
    simp
  have hLong :
      ¬ (wire frame).length <
        frameLength (rawId frame.id).2
          frame.data.length := by
    rw [wire_length]
    omega
  rw [← frameAt_wire, wire_length]
  unfold wire at hFooter hLong ⊢
  simp only [List.cons_append, List.nil_append]
    at hFooter hLong ⊢
  rw [judge, if_pos rfl, hHeader]
  simp only [if_neg hLong, if_pos hFooter]

------------------------------------------------------------
-- Writing What Was Read
------------------------------------------------------------

/- A complete frame is its header, fields and footer. -/
omit [EmbeddedCan] in
theorem take_frame
    {input : List UInt8}
    {isExtended : Bool}
    {dlc : Fin 9}
    (hFooter :
      input[frameLength isExtended dlc.val - 1]? =
        some frameFooter) :
    input.take (frameLength isExtended dlc.val) =
      input.take 2 ++ idField isExtended input ++
        dataField isExtended dlc.val input ++
        [frameFooter] := by
  have hLast :
      (input.drop (2 + idLength isExtended + dlc.val)).take
          1 =
        [frameFooter] := by
    change
      input[2 + idLength isExtended + dlc.val]? =
        some frameFooter at hFooter
    rw [List.take_one, List.head?_drop, hFooter]
    rfl
  rw [frameLength, List.take_add, List.take_add,
    List.take_add, hLast]
  rfl

/- Two identifier bytes hold a 16-bit number. -/
omit [EmbeddedCan] in
theorem judge_accept_id_lt
    {input : List UInt8}
    {n : Nat}
    {frame : ParsedFrame}
    (hJudge : judge input = .accept n frame)
    (hStandard : frame.isExtended = false) :
    frame.id.toNat < 65536 := by
  rcases judge_accept hJudge with
    ⟨_, _, isExtended, dlc, _, _, _, _, _, rfl⟩
  have hWidth : isExtended = false := hStandard
  subst hWidth
  have hLength := List.length_take_le 2 (input.drop 2)
  have hValue :=
    LittleEndian.value_lt (idField false input)
  have hPower :
      256 ^ (idField false input).length ≤ 256 ^ 2 :=
    Nat.pow_le_pow_right (by omega) hLength
  rw [toNat_frameAt_id]
  omega

/-
  The bytes a frame was read from are the wire form of any
  data frame with its raw identifier, width and payload.
-/
theorem take_of_judge_accept
    {input : List UInt8}
    {n : Nat}
    {frame : DataFrame}
    (hJudge : judge input = .accept n (parsed frame)) :
    n = (wire frame).length ∧
      input.take n = wire frame := by
  rcases judge_accept hJudge with
    ⟨info, body, isExtended, dlc, hInput, hHeader, hCount,
      hLength, hFooter, hFrame⟩
  have hBounds := idLength_bounds isExtended
  have hInside :
      frameLength isExtended dlc.val ≤ input.length := by
    rw [← hCount]
    exact hLength
  simp only [frameLength] at hInside
  have hIdLength :
      (idField isExtended input).length =
        idLength isExtended := by
    simp only [idField, List.length_take, List.length_drop]
    omega
  have hWidth : (rawId frame.id).2 = isExtended :=
    congrArg ParsedFrame.isExtended hFrame
  have hRaw :
      (rawId frame.id).1 =
        UInt32.ofNat
          (LittleEndian.value (idField isExtended input)) :=
    congrArg ParsedFrame.id hFrame
  have hData :
      frame.data = dataField isExtended dlc.val input :=
    congrArg ParsedFrame.payload hFrame
  have hDlc : frame.data.length = dlc.val := by
    rw [hData]
    simp only [dataField, List.length_take,
      List.length_drop]
    omega
  have hIdBytes :
      idBytes frame.id = idField isExtended input := by
    have hShort :
        (idField isExtended input).length ≤ 4 := by
      omega
    rw [idBytes, hWidth, hRaw, ← hIdLength]
    exact LittleEndian.take_toLeBytes hShort
  have hInfo :
      info =
        infoByte (rawId frame.id).2 frame.data.length := by
    rw [hWidth, hDlc]
    exact header_eq_some_iff.mp hHeader
  have hFront :
      input.take 2 =
        [frameStart,
          infoByte (rawId frame.id).2
            frame.data.length] := by
    rw [hInput, hInfo]
    rfl
  refine ⟨?_, ?_⟩
  · rw [wire_length, hWidth, hDlc, hCount]
  · rw [hCount] at hFooter ⊢
    rw [take_frame hFooter, hFront, ← hIdBytes, ← hData]
    rfl

end WaveshareUsbCanA

end UsbCan
