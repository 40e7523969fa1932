import UsbCan.Protocol.WaveshareUsbCanA
import UsbCan.Protocol.Lawful

/-
  The wire form of a data frame.

  `wire` lists the bytes of a data frame; the builder fills
  a buffer with exactly these bytes and leaves the rest of
  it alone.

  Key definitions include:
    * `UsbCan.WaveshareUsbCanA.frameLength`
    * `UsbCan.WaveshareUsbCanA.wire`

  Key theorems include:
    * `UsbCan.WaveshareUsbCanA.buildDataFrameInto_wire`
    * `UsbCan.WaveshareUsbCanA.buildDataFrame_wire`
    * `UsbCan.WaveshareUsbCanA.wire_length`
-/

open Checked

------------------------------------------------------------
-- Frame Layout
------------------------------------------------------------

namespace UsbCan

namespace WaveshareUsbCanA

/- Bytes of an identifier on the wire. -/
def idLength (isExtended : Bool) : Nat :=
  if isExtended then 4 else 2

/- Header, identifier, data and footer. -/
def frameLength
    (isExtended : Bool)
    (dlc : Nat) :
    Nat :=
  2 + idLength isExtended + dlc + 1

/- The type nibble in the high half, the length in the low. -/
def infoByte
    (isExtended : Bool)
    (dlc : Nat) :
    UInt8 :=
  UInt8.ofNat
    ((if isExtended then 0xE else 0xC) * 16 + dlc)

theorem idLength_bounds (isExtended : Bool) :
    2 ≤ idLength isExtended ∧ idLength isExtended ≤ 4 := by
  cases isExtended <;> simp [idLength]

theorem toNat_infoByte
    (isExtended : Bool)
    {dlc : Nat}
    (hDlc : dlc ≤ 8) :
    (infoByte isExtended dlc).toNat =
      (if isExtended then 0xE else 0xC) * 16 + dlc := by
  simp only [infoByte, UInt8.toNat_ofNat']
  cases isExtended <;> simp <;> omega

/- The builder's flag operations compute the info byte. -/
theorem infoByte_eq
    (isExtended : Bool)
    {dlc : Nat}
    (hDlc : dlc ≤ 8) :
    (if isExtended then (0xC0 : UInt8) ||| 0x20
        else 0xC0) ||| UInt8.ofNat dlc =
      infoByte isExtended dlc := by
  have hAll :
      ∀ flag : Bool, ∀ n : Fin 9,
        (if flag then (0xC0 : UInt8) ||| 0x20
            else 0xC0) ||| UInt8.ofNat n.val =
          infoByte flag n.val := by
    decide
  exact hAll isExtended ⟨dlc, by omega⟩

variable [EmbeddedCan]

/- Identifier bytes in wire order. -/
def idBytes (id : Id) : List UInt8 :=
  (LittleEndian.toLeBytes (rawId id).1).toList.take
    (idLength (rawId id).2)

@[simp] theorem idBytes_length (id : Id) :
    (idBytes id).length = idLength (rawId id).2 := by
  have hBounds := idLength_bounds (rawId id).2
  simp only [idBytes, List.length_take,
    FixedArray.length_toList]
  omega

/- The bytes of a data frame on the wire. -/
def wire (frame : DataFrame) : List UInt8 :=
  [frameStart,
      infoByte (rawId frame.id).2 frame.data.length] ++
    idBytes frame.id ++ frame.data ++ [frameFooter]

theorem wire_length (frame : DataFrame) :
    (wire frame).length =
      frameLength (rawId frame.id).2
        frame.data.length := by
  simp only [wire, List.length_append, List.length_cons,
    List.length_nil, idBytes_length, frameLength]

theorem wire_length_le (frame : DataFrame) :
    5 ≤ (wire frame).length ∧
      (wire frame).length ≤ dataFrameMaxSize := by
  have hBounds := idLength_bounds (rawId frame.id).2
  have hData := frame.data_le
  rw [wire_length, frameLength, dataFrameMaxSize]
  omega

------------------------------------------------------------
-- Building a Data Frame
------------------------------------------------------------

/- The builder writes the wire form over the array's front. -/
theorem buildDataFrameInto_wire
    (frame : DataFrame)
    (out : FixedArray UInt8 dataFrameMaxSize) :
    ∃ written,
      buildDataFrameInto frame.id frame.data out =
          .ok (.ok (wire frame).length, written) ∧
        FixedArray.Filled written out (wire frame) := by
  have hData := frame.data_le
  have hBounds := idLength_bounds (rawId frame.id).2
  have hInfo := infoByte_eq (rawId frame.id).2 hData
  have hSlice :
      slice
          (LittleEndian.toLeBytes (rawId frame.id).1).toList
          0 (idLength (rawId frame.id).2) =
        .ok (idBytes frame.id) :=
    slice_zero (by simpa using hBounds.2)
  rcases (FixedArray.filled_nil out).set frameStart rfl
      (by decide) with
    ⟨out₁, hOut₁, hFilled₁⟩
  rcases hFilled₁.set
      (infoByte (rawId frame.id).2 frame.data.length) rfl
      (by decide) with
    ⟨out₂, hOut₂, hFilled₂⟩
  rcases hFilled₂.copyFromSlice (idBytes frame.id) rfl rfl
      (by
        simp only [idBytes_length, dataFrameMaxSize,
          List.nil_append, List.length_append,
          List.length_cons, List.length_nil]
        omega) with
    ⟨out₃, hOut₃, hFilled₃⟩
  rcases hFilled₃.copyFromSlice frame.data rfl rfl
      (by
        simp only [idBytes_length, dataFrameMaxSize,
          List.nil_append, List.length_append,
          List.length_cons, List.length_nil]
        omega) with
    ⟨out₄, hOut₄, hFilled₄⟩
  rcases hFilled₄.set frameFooter rfl
      (by
        simp only [idBytes_length, dataFrameMaxSize,
          List.nil_append, List.length_append,
          List.length_cons, List.length_nil]
        omega) with
    ⟨out₅, hOut₅, hFilled₅⟩
  simp only [List.nil_append, List.length_append,
    List.length_cons, List.length_nil, idBytes_length,
    Nat.zero_add] at hOut₁ hOut₂ hOut₃ hOut₄ hOut₅
  refine ⟨out₅, ?_, hFilled₅⟩
  have hLength :
      2 + idLength (rawId frame.id).2 +
          frame.data.length + 1 =
        (wire frame).length :=
    (wire_length frame).symm
  have hIdLen :
      (if (rawId frame.id).2 = true then 4 else 2) =
        idLength (rawId frame.id).2 := rfl
  unfold buildDataFrameInto
  rw [if_neg (by omega)]
  simp only [hOut₁, ok_bind, hInfo, hOut₂, hIdLen, hSlice,
    hOut₃, hOut₄, hOut₅, pure_eq_ok, hLength]

/- More than eight data bytes are refused. -/
theorem buildDataFrameInto_long
    (id : Id)
    {data : List UInt8}
    (out : FixedArray UInt8 dataFrameMaxSize)
    (hLong : 8 < data.length) :
    buildDataFrameInto id data out =
      .ok (.error "Data too long (max 8 bytes)", out) := by
  unfold buildDataFrameInto
  rw [if_pos hLong]
  rfl

/-
  A frame that shows the data of a data frame is built as
  the wire form of that data frame, in any buffer of at
  least the maximum size.
-/
theorem buildDataFrame_wire
    {F : Type} [Frame F]
    {source : F}
    (frame : DataFrame)
    {out : List UInt8}
    (hId : Frame.id source = frame.id)
    (hData : Frame.data source = .ok frame.data)
    (hSize : dataFrameMaxSize ≤ out.length) :
    buildDataFrame source out =
      .ok (.ok (wire frame).length,
        wire frame ++ out.drop (wire frame).length) := by
  have hFront :
      (out.take dataFrameMaxSize).length =
        dataFrameMaxSize := by
    simpa using hSize
  rcases buildDataFrameInto_wire frame
      ⟨out.take dataFrameMaxSize, hFront⟩ with
    ⟨written, hWritten, hFilled⟩
  have hLe := (wire_length_le frame).2
  have hOut :
      written.toList ++ out.drop dataFrameMaxSize =
        wire frame ++ out.drop (wire frame).length := by
    have hInside :
        (wire frame).length ≤
          (out.take dataFrameMaxSize).length := by
      rw [hFront]
      exact hLe
    rw [hFilled, List.append_assoc,
      ← List.drop_append_of_le_length hInside,
      List.take_append_drop]
  unfold buildDataFrame
  rw [dif_neg (by omega), hData, ok_bind, hId]
  simp only [hWritten, ok_bind, pure_eq_ok, hOut]

/- A data frame fits into the transport's frame buffer. -/
omit [EmbeddedCan] in
theorem dataFrameMaxSize_le :
    dataFrameMaxSize ≤ 64 := by
  decide

instance : EncodingProtocol WaveshareUsbCanA where
  encoding _ := wire
  encoding_ne_nil _ _ := List.cons_ne_nil _ _
  dataFrameMaxSize_le := dataFrameMaxSize_le
  build_eq _ := buildDataFrame_wire _

/- A frame with more than eight data bytes is refused. -/
theorem buildDataFrame_long
    {F : Type} [Frame F]
    {source : F}
    {data out : List UInt8}
    (hData : Frame.data source = .ok data)
    (hLong : 8 < data.length)
    (hSize : dataFrameMaxSize ≤ out.length) :
    buildDataFrame source out =
      .ok (.error "Data too long (max 8 bytes)", out) := by
  unfold buildDataFrame
  rw [dif_neg (by omega), hData, ok_bind,
    buildDataFrameInto_long _ _ hLong]
  simp only [ok_bind, pure_eq_ok, List.take_append_drop]

end WaveshareUsbCanA

end UsbCan
