import UsbCan.Protocol.Codec
import UsbCan.Adapters.TransportContract

/-
  Encoding and decoding over whole byte streams.

  Decoding undoes encoding: every frame of a stream of wire
  forms is delivered, whatever junk without start bytes
  stands between them and whatever follows.  Encoding undoes
  decoding: a delivered message is built as the bytes it was
  parsed from.

  Key definitions include:
    * `UsbCan.WaveshareUsbCanA.encode`
    * `UsbCan.WaveshareUsbCanA.Block`
    * `UsbCan.WaveshareUsbCanA.encodeBlocks`

  Main declarations:
    * `drain_encodeBlocks`
    * `parseNextFrame_spelling`
-/

open Checked Framing

------------------------------------------------------------
-- Identifiers
------------------------------------------------------------

namespace UsbCan

namespace WaveshareUsbCanA

variable [EmbeddedCan]

/- The largest identifier of a width. -/
def maxId (isExtended : Bool) : Nat :=
  if isExtended then 0x1FFFFFFF else 0x7FF

/- The identifier of a wire form is received unchanged. -/
theorem receivedId_parsed (frame : DataFrame) :
    receivedId (parsed frame) = some frame.id := by
  rcases frame with ⟨id, data, hData⟩
  cases id with
  | standard id =>
      have hRaw :
          (StandardId.asRaw id).toUInt32.toUInt16 =
            StandardId.asRaw id := by
        simp
      have hNew :
          StandardId.new (StandardId.asRaw id) = some id :=
        EmbeddedCan.standard.new_asRaw id
      simp [receivedId, parsed, rawId, hRaw, hNew]
  | extended id =>
      have hNew :
          ExtendedId.new (ExtendedId.asRaw id) = some id :=
        EmbeddedCan.extended.new_asRaw id
      simp [receivedId, parsed, rawId, hNew]

/- The message of a wire form is that of its data frame. -/
theorem deliver_parsed (frame : DataFrame) :
    deliver (parsed frame) = some frame.message := by
  rw [deliver, receivedId_parsed]
  rfl

/-
  A received identifier determines the parsed one: the cast
  to 16 bits loses nothing of a two-byte identifier.
-/
theorem parsed_of_receivedId
    {frame : ParsedFrame}
    {id : Id}
    (hShort :
      frame.isExtended = false → frame.id.toNat < 65536)
    (hId : receivedId frame = some id) :
    frame =
      parsed ⟨id, frame.payload, frame.payload_le⟩ := by
  unfold receivedId at hId
  cases hWidth : frame.isExtended with
  | true =>
      rw [hWidth, if_pos rfl] at hId
      rcases Option.map_eq_some_iff.mp hId with
        ⟨extended, hNew, rfl⟩
      have hRaw : ExtendedId.asRaw extended = frame.id :=
        EmbeddedCan.extended.asRaw_of_new hNew
      ext1
      · exact hRaw.symm
      · exact hWidth
      · rfl
  | false =>
      rw [hWidth, if_neg (by simp)] at hId
      rcases Option.map_eq_some_iff.mp hId with
        ⟨standard, hNew, rfl⟩
      have hRaw :
          StandardId.asRaw standard = frame.id.toUInt16 :=
        EmbeddedCan.standard.asRaw_of_new hNew
      have hWord : frame.id.toUInt16.toUInt32 = frame.id := by
        apply UInt32.toNat_inj.mp
        have hLt := hShort hWidth
        simp
        omega
      ext1
      · change frame.id = (StandardId.asRaw standard).toUInt32
        rw [hRaw, hWord]
      · exact hWidth
      · rfl

/- An identifier is received exactly when it is in range. -/
theorem receivedId_isSome_iff
    {frame : ParsedFrame}
    (hShort :
      frame.isExtended = false → frame.id.toNat < 65536) :
    (receivedId frame).isSome = true ↔
      frame.id.toNat ≤ maxId frame.isExtended := by
  unfold receivedId maxId
  cases hWidth : frame.isExtended with
  | true =>
      have hNew :
          (ExtendedId.new frame.id).isSome = true ↔
            frame.id ≤ 0x1FFFFFFF :=
        EmbeddedCan.extended.new_isSome frame.id
      rw [if_pos rfl, if_pos rfl, Option.isSome_map, hNew]
      exact UInt32.le_iff_toNat_le
  | false =>
      have hNew :
          (StandardId.new frame.id.toUInt16).isSome = true ↔
            frame.id.toUInt16 ≤ 0x7FF :=
        EmbeddedCan.standard.new_isSome frame.id.toUInt16
      have hLt := hShort hWidth
      have hMod :
          frame.id.toUInt16.toNat = frame.id.toNat := by
        simp
        omega
      rw [if_neg (by simp), if_neg (by simp),
        Option.isSome_map, hNew, UInt16.le_iff_toNat_le, hMod]
      exact Iff.rfl

/- A frame is delivered exactly when its id is in range. -/
theorem deliver_isSome_iff
    {frame : ParsedFrame}
    (hShort :
      frame.isExtended = false → frame.id.toNat < 65536) :
    (deliver frame).isSome = true ↔
      frame.id.toNat ≤ maxId frame.isExtended := by
  rw [deliver, Option.isSome_map]
  exact receivedId_isSome_iff hShort

/- A delivered frame is parsed from the data frame it shows. -/
theorem parsed_of_deliver
    {frame : ParsedFrame}
    {message : CanMessage}
    (hShort :
      frame.isExtended = false → frame.id.toNat < 65536)
    (hDeliver : deliver frame = some message) :
    ∃ source : DataFrame,
      frame = parsed source ∧ source.message = message := by
  rcases Option.map_eq_some_iff.mp hDeliver with
    ⟨id, hId, hMessage⟩
  exact
    ⟨⟨id, frame.payload, frame.payload_le⟩,
      parsed_of_receivedId hShort hId, hMessage⟩

end WaveshareUsbCanA

end UsbCan

------------------------------------------------------------
-- Streams of Wire Forms
------------------------------------------------------------

namespace UsbCan

namespace WaveshareUsbCanA

variable [EmbeddedCan]

/- The prefix that the builder writes over `scratch`. -/
def encode
    (scratch : FixedArray UInt8 dataFrameMaxSize)
    (frame : DataFrame) :
    Exec (Except String (List UInt8)) := do
  let (result, out) ←
    buildDataFrameInto frame.id frame.data scratch
  pure (result.map (fun n => out.toList.take n))

/- Junk without a start byte, and a data frame behind it. -/
structure Block where
  gap : List UInt8
  gap_clean : frameStart ∉ gap
  frame : DataFrame

/- The byte stream of a list of blocks. -/
def encodeBlocks
    (scratch : FixedArray UInt8 dataFrameMaxSize) :
    List Block → Exec (Except String (List UInt8))
| [] => pure (.ok [])
| block :: blocks => do
    let bytes ← encode scratch block.frame
    let rest ← encodeBlocks scratch blocks
    pure (do
      let bytes ← bytes
      let rest ← rest
      pure (block.gap ++ bytes ++ rest))

/- A message with exactly the content of a data frame. -/
structure Carries
    (message : CanMessage)
    (frame : DataFrame) :
    Prop where
  id : message.id = frame.id
  rtr : message.rtr = false
  dlc : message.dlc.toNat = frame.data.length
  data : message.shownData = .ok frame.data

/- The wire forms of a list of blocks with their gaps. -/
def stream (blocks : List Block) : List UInt8 :=
  blocks.flatMap (fun block =>
    block.gap ++ wire block.frame)

/- The messages of a list of blocks. -/
def messages (blocks : List Block) : List CanMessage :=
  blocks.map (fun block => block.frame.message)

theorem carries_message (frame : DataFrame) :
    Carries frame.message frame :=
  ⟨frame.message_id, frame.message_rtr,
    frame.message_dlc, frame.message_shownData⟩

theorem messages_carry
    (blocks : List Block) :
    List.Forall₂ Carries (messages blocks)
      (blocks.map Block.frame) := by
  induction blocks with
  | nil => exact .nil
  | cons block blocks ih =>
      exact .cons (carries_message block.frame) ih

/- Whatever the buffer held, the prefix is the wire form. -/
theorem encode_eq
    (scratch : FixedArray UInt8 dataFrameMaxSize)
    (frame : DataFrame) :
    encode scratch frame = .ok (.ok (wire frame)) := by
  rcases buildDataFrameInto_wire frame scratch with
    ⟨written, hWritten, hFilled⟩
  have hPrefix :
      written.toList.take (wire frame).length =
        wire frame := by
    rw [hFilled]
    exact List.take_left' rfl
  rw [encode, hWritten, ok_bind]
  change
    Except.ok
        (Except.ok
          (written.toList.take (wire frame).length)) =
      _
  rw [hPrefix]

theorem encodeBlocks_eq
    (scratch : FixedArray UInt8 dataFrameMaxSize)
    (blocks : List Block) :
    encodeBlocks scratch blocks =
      .ok (.ok (stream blocks)) := by
  induction blocks with
  | nil => rfl
  | cons block blocks ih =>
      rw [encodeBlocks, encode_eq, ih]
      rfl

/- A block is found in one scan that takes all of it. -/
theorem scan_block
    (block : Block)
    (rest : List UInt8) :
    dataFrames.scan
        (block.gap ++ wire block.frame ++ rest) =
      ((block.gap ++ wire block.frame).length,
        some (parsed block.frame)) := by
  have hBounds := wire_length_le block.frame
  have hJunk :
      dataFrames.JunkBefore
        (block.gap ++ wire block.frame ++ rest)
        block.gap.length := by
    intro p hp
    refine ⟨?_, ?_⟩
    · change p + 5 ≤ _
      simp only [List.length_append]
      omega
    · have hByte : block.gap[p] ≠ frameStart := by
        intro hStart
        exact block.gap_clean
          (hStart ▸ List.getElem_mem hp)
      rw [List.append_assoc,
        List.drop_append_of_le_length (by omega),
        List.drop_eq_getElem_cons hp]
      exact judge_of_ne_start hByte _
  have hAccept :
      dataFrames.judge
          ((block.gap ++ wire block.frame ++ rest).drop
            block.gap.length) =
        .accept (wire block.frame).length
          (parsed block.frame) := by
    rw [List.append_assoc, List.drop_left' rfl]
    exact judge_wire block.frame rest
  rw [dataFrames.scan_of_leftmost_accept hJunk
    (by
      change _ + 5 ≤ _
      simp only [List.length_append]
      omega)
    hAccept, List.length_append]

/- Draining a stream delivers its frames one by one. -/
theorem drain_stream
    (blocks : List Block)
    (rest : List UInt8) :
    dataFrames.drain deliver (stream blocks ++ rest) =
      messages blocks ++ dataFrames.drain deliver rest := by
  induction blocks with
  | nil => rfl
  | cons block blocks ih =>
      have hSplit :
          stream (block :: blocks) ++ rest =
            block.gap ++ wire block.frame ++
              (stream blocks ++ rest) := by
        simp [stream]
      rw [hSplit,
        dataFrames.drain_of_some deliver
          (scan_block block (stream blocks ++ rest)),
        List.drop_left' rfl, deliver_parsed, ih]
      rfl

/- One parser call for each frame takes the whole stream. -/
theorem drainCalls_stream
    (blocks : List Block)
    (rest : List UInt8) :
    drainCalls protocol blocks.length
        (stream blocks ++ rest) =
      .ok (some (messages blocks, rest)) := by
  induction blocks with
  | nil => rfl
  | cons block blocks ih =>
      have hSplit :
          stream (block :: blocks) ++ rest =
            block.gap ++ wire block.frame ++
              (stream blocks ++ rest) := by
        simp [stream]
      rw [List.length_cons, hSplit,
        drainCalls_succ protocol blocks.length
          (scan_block block (stream blocks ++ rest)),
        List.drop_left' rfl, ih, deliver_parsed]
      rfl

/-
  Decoding undoes encoding.  The parser calls for the
  frames of a stream deliver them in order and leave exactly
  what follows; a drain goes on with what that yields alone.
-/
theorem drain_encodeBlocks
    (scratch : FixedArray UInt8 dataFrameMaxSize)
    (blocks : List Block)
    (tail : List UInt8) :
    ∃ bytes delivered rest,
      encodeBlocks scratch blocks = .ok (.ok bytes) ∧
        List.Forall₂ Carries delivered
          (blocks.map Block.frame) ∧
        drainCalls protocol blocks.length
            (bytes ++ tail) =
          .ok (some (delivered, tail)) ∧
        drain protocol tail = .ok rest ∧
        drain protocol (bytes ++ tail) =
          .ok (delivered ++ rest) := by
  refine
    ⟨stream blocks, messages blocks,
      dataFrames.drain deliver tail,
      encodeBlocks_eq scratch blocks,
      messages_carry blocks,
      drainCalls_stream blocks tail,
      drain_eq protocol tail, ?_⟩
  rw [drain_eq]
  exact congrArg Except.ok (drain_stream blocks tail)

------------------------------------------------------------
-- One Spelling for Each Message
------------------------------------------------------------

/-
  Encoding undoes decoding.  A parsed frame becomes a
  message exactly when its identifier is in range, and the
  message is then built as the last bytes that were
  consumed, in every buffer of the maximum size or more.
-/
theorem parseNextFrame_spelling
    (buffer : List UInt8)
    (dataOut dataOut' : FixedArray UInt8 8)
    (c : Nat)
    (frameMeta : ParsedFrameMeta)
    (hParse :
      parseNextFrame buffer dataOut =
        .ok ((c, some frameMeta), dataOut')) :
    ((∃ message,
        Transport.parsedToMessage frameMeta dataOut' =
          .ok (some message)) ↔
        frameMeta.id.toNat ≤
          maxId frameMeta.isExtended) ∧
      ∀ message,
        Transport.parsedToMessage frameMeta dataOut' =
            .ok (some message) →
          message.rtr = false ∧
            ∃ bytes,
              bytes.length =
                  frameLength frameMeta.isExtended
                    frameMeta.dlc.toNat ∧
                bytes.length ≤ c ∧
                (buffer.take c).drop (c - bytes.length) =
                  bytes ∧
                ∀ out : List UInt8,
                  dataFrameMaxSize ≤ out.length →
                    buildDataFrame message out =
                      .ok (.ok bytes.length,
                        bytes ++ out.drop bytes.length) := by
  rw [parseNextFrame_scan, Except.ok.injEq] at hParse
  rcases parseOutcome_eq_some hParse with
    ⟨frame, hScan, rfl, rfl⟩
  rcases dataFrames.exists_accept_of_scan hScan with
    ⟨o, n, rfl, hJudge⟩
  have hShort :
      frame.isExtended = false → frame.id.toNat < 65536 :=
    judge_accept_id_lt hJudge
  rw [parsedToMessage_deliver]
  refine ⟨?_, ?_⟩
  · have hRange := deliver_isSome_iff hShort
    rw [Option.isSome_iff_exists] at hRange
    simp only [Except.ok.injEq]
    exact hRange
  · intro message hMessage
    rcases parsed_of_deliver hShort
        (Except.ok.inj hMessage) with
      ⟨source, hParsed, rfl⟩
    have hAccept :
        judge (buffer.drop o) = .accept n (parsed source) :=
      hParsed ▸ hJudge
    rcases take_of_judge_accept hAccept with
      ⟨hCount, hTake⟩
    have hWidth : (rawId source.id).2 = frame.isExtended :=
      (congrArg ParsedFrame.isExtended hParsed).symm
    have hPayload : source.data = frame.payload :=
      (congrArg ParsedFrame.payload hParsed).symm
    refine ⟨rfl, wire source, ?_, ?_, ?_, ?_⟩
    · rw [wire_length, hWidth, hPayload, frame.toNat_dlc]
      rfl
    · omega
    · have hPlace : o + n - (wire source).length = o := by
        omega
      rw [hPlace, List.drop_take, Nat.add_sub_cancel_left]
      exact hTake
    · intro out hSize
      exact buildDataFrame_wire source rfl
        (DataFrame.message_shownData source) hSize

end WaveshareUsbCanA

end UsbCan

namespace UsbCan

namespace WaveshareUsbCanA

/- A standard frame behind one junk byte. -/
theorem parseNextFrame_spelling_on_example :
    letI := rangedIds
    ∃ message out,
      Transport.parsedToMessage ⟨0x123, 1, false⟩
            ⟨[0x11, 0, 0, 0, 0, 0, 0, 0], rfl⟩ =
          .ok (some message) ∧
        buildDataFrame message (List.replicate 64 0) =
          .ok (.ok 6,
            [0xAA, 0xC1, 0x23, 0x01, 0x11, 0x55] ++ out) := by
  let _ : EmbeddedCan := rangedIds
  have hParse :
      parseNextFrame
          [0x00, 0xAA, 0xC1, 0x23, 0x01, 0x11, 0x55]
          (FixedArray.replicate 8 0) =
        .ok ((7, some ⟨0x123, 1, false⟩),
          ⟨[0x11, 0, 0, 0, 0, 0, 0, 0], rfl⟩) := by
    decide
  rcases parseNextFrame_spelling _ _ _ _ _ hParse with
    ⟨hRange, hSpelling⟩
  rcases hRange.mpr (by decide) with ⟨message, hMessage⟩
  rcases hSpelling message hMessage with
    ⟨_, bytes, hLength, _, hBytes, hBuild⟩
  have hSix : bytes.length = 6 := hLength
  have hWire :
      bytes = [0xAA, 0xC1, 0x23, 0x01, 0x11, 0x55] := by
    rw [← hBytes, hSix]
    decide
  have hBuffer := hBuild (List.replicate 64 0) (by decide)
  rw [hSix, hWire] at hBuffer
  exact ⟨message, _, hMessage, hBuffer⟩

end WaveshareUsbCanA

end UsbCan
