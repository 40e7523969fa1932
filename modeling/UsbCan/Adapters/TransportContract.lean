import UsbCan.Adapters.Transport
import UsbCan.Protocol.Lawful

/-
  What the transport operations do, for every protocol whose
  parser is a leftmost-first scan.

  Main declarations:
    * `deliver`
    * `drain_eq`
    * `Transport.tryReadFrame_next`
    * `Transport.receive_append`
-/

open Checked Framing

------------------------------------------------------------
-- The Receive Buffer
------------------------------------------------------------

namespace UsbCan

namespace Transport

variable {P : Type}

/- The received bytes lie inside the receive buffer. -/
def Sized (transport : Transport P) : Prop :=
  transport.rxLength ≤ rxSize

theorem Sized.length_buffered
    {transport : Transport P}
    (hSized : transport.Sized) :
    transport.buffered.length = transport.rxLength := by
  unfold Sized at hSized
  simpa [buffered] using hSized

/- Consumed bytes disappear from the front. -/
theorem dropConsumed_buffered
    {transport : Transport P}
    {consumed : Nat}
    (hSized : transport.Sized)
    (hConsumed : consumed ≤ transport.rxLength) :
    ∃ transport' : Transport P,
      transport.dropConsumed consumed = .ok transport' ∧
        transport'.Sized ∧
        transport'.buffered =
          transport.buffered.drop consumed ∧
        transport'.rxLength =
          transport.rxLength - consumed ∧
        transport'.protocol = transport.protocol := by
  unfold Sized at hSized
  by_cases hPos : consumed > 0
  · rcases transport.rxBuffer.copyWithin_front hConsumed
        hSized with
      ⟨moved, hMoved, hFront⟩
    refine
      ⟨{ transport with
          rxBuffer := moved
          rxLength := transport.rxLength - consumed },
        ?_, ?_, hFront, rfl, rfl⟩
    · unfold dropConsumed
      rw [if_pos hPos]
      simp only [hMoved, ok_bind, sub_ok hConsumed,
        pure_eq_ok]
    · change transport.rxLength - consumed ≤ rxSize
      omega
  · have hZero : consumed = 0 := by omega
    subst hZero
    refine ⟨transport, ?_, hSized, by simp, by simp, rfl⟩
    unfold dropConsumed
    rw [if_neg hPos]
    rfl

/- A read that fits is appended to the buffered bytes. -/
theorem receive_append
    {transport : Transport P}
    (chunk : Chunk)
    (hFits :
      transport.rxLength + chunk.bytes.length ≤ rxSize) :
    ∃ transport' : Transport P,
      transport.receive chunk = .ok transport' ∧
        transport'.buffered =
          transport.buffered ++ chunk.bytes ∧
        transport'.rxLength =
          transport.rxLength + chunk.bytes.length ∧
        transport'.protocol = transport.protocol := by
  have hChunk := chunk.length_le
  have hNoReset :
      ¬ transport.rxLength + chunk.bytes.length > rxSize := by
    omega
  rcases transport.temp.copyFromSlice_ok 0
      chunk.bytes.length chunk.bytes hChunk (by omega) with
    ⟨temp, hTemp, hTempList⟩
  have hSource :
      slice temp.toList 0 chunk.bytes.length =
        .ok chunk.bytes := by
    rw [slice_zero (by simpa using hChunk), hTempList,
      List.take_zero, List.nil_append, List.take_left]
  rcases transport.rxBuffer.copyFromSlice_ok
      transport.rxLength
      (transport.rxLength + chunk.bytes.length) chunk.bytes
      hFits rfl with
    ⟨rxBuffer, hBuffer, hBufferList⟩
  refine
    ⟨{ transport with
        rxBuffer := rxBuffer
        rxLength :=
          transport.rxLength + chunk.bytes.length
        temp := temp },
      ?_, ?_, rfl, rfl⟩
  · unfold receive
    simp only [hTemp, ok_bind, if_neg hNoReset, hSource,
      hBuffer, pure_eq_ok]
  · have hFront :
        (transport.rxBuffer.toList.take
            transport.rxLength).length =
          transport.rxLength := by
      simp
      omega
    change
      rxBuffer.toList.take
          (transport.rxLength + chunk.bytes.length) =
        transport.rxBuffer.toList.take
            transport.rxLength ++ chunk.bytes
    rw [hBufferList,
      List.take_left' (by
        rw [List.length_append, hFront])]

end Transport

end UsbCan

------------------------------------------------------------
-- Delivered Messages
------------------------------------------------------------

namespace UsbCan

variable [EmbeddedCan]

/- The identifier of a parsed frame, if it is in range. -/
def receivedId (frame : ParsedFrame) : Option Id :=
  if frame.isExtended then
    (ExtendedId.new frame.id).map Id.extended
  else
    (StandardId.new frame.id.toUInt16).map Id.standard

/- The message of a parsed frame, if its id is in range. -/
def deliver (frame : ParsedFrame) : Option CanMessage :=
  (receivedId frame).map (fun id =>
    DataFrame.message ⟨id, frame.payload, frame.payload_le⟩)

/- Conversion reads the payload the parser has written. -/
theorem parsedToMessage_deliver
    (frame : ParsedFrame)
    (dataOut : FixedArray UInt8 8) :
    Transport.parsedToMessage frame.frameMeta
        (frame.writtenTo dataOut) =
      .ok (deliver frame) := by
  have hPayload := frame.take_writtenTo dataOut
  have hDlc := frame.toNat_dlc
  have hLe := frame.payload_le
  have hSlice :
      slice (frame.writtenTo dataOut).toList 0
          frame.frameMeta.dlc.toNat =
        .ok frame.payload := by
    rw [slice_zero (by
      rw [FixedArray.length_toList]
      omega), hPayload]
  have hCanId :
      (if frame.frameMeta.isExtended then
          (ExtendedId.new frame.frameMeta.id).map Id.extended
        else
          (StandardId.new frame.frameMeta.id.toUInt16).map
            Id.standard) =
        receivedId frame := rfl
  simp only [Transport.parsedToMessage, hCanId]
  cases hId : receivedId frame with
  | none => simp [deliver, hId]
  | some id =>
      simp only [hSlice, ok_bind, deliver, hId,
        Option.map_some]
      exact CanMessage.new_eq_message
        ⟨id, frame.payload, hLe⟩

section Draining

variable {P : Type} [Protocol P] [ScanningProtocol P]

open ScanningProtocol

/- Draining a byte string never faults. -/
theorem drainLoop_eq
    (protocol : P) :
    ∀ fuel bytes, bytes.length < fuel →
      drainLoop protocol fuel bytes =
        .ok ((grammar protocol).drain deliver bytes)
| 0, _, hFuel => absurd hFuel (Nat.not_lt_zero _)
| fuel + 1, bytes, hFuel => by
    have hParse :=
      parse_eq protocol bytes (FixedArray.replicate 8 0)
    rw [drainLoop, hParse, ok_bind]
    cases hScan : (grammar protocol).scan bytes with
    | mk consumed found =>
        cases found with
        | none =>
            rw [(grammar protocol).drain_of_none deliver
              hScan]
            rfl
        | some frame =>
            have hSmaller :=
              (grammar protocol).scan_some_lt hScan
            have hRest :=
              drainLoop_eq protocol fuel
                (bytes.drop consumed) (by omega)
            rw [(grammar protocol).drain_of_some deliver
              hScan]
            simp only [parseOutcome,
              parsedToMessage_deliver, ok_bind, hRest,
              pure_eq_ok]

theorem drain_eq
    (protocol : P)
    (bytes : List UInt8) :
    drain protocol bytes =
      .ok ((grammar protocol).drain deliver bytes) :=
  drainLoop_eq protocol _ bytes (Nat.lt_succ_self _)

/- One parser call that finds a frame at once. -/
theorem drainCalls_succ
    (protocol : P)
    {bytes : List UInt8}
    {consumed : Nat}
    {frame : ParsedFrame}
    (calls : Nat)
    (hScan :
      (grammar protocol).scan bytes =
        (consumed, some frame)) :
    drainCalls protocol (calls + 1) bytes =
      (drainCalls protocol calls (bytes.drop consumed)).map
        (fun rest => rest.map (fun (messages, left) =>
          ((deliver frame).toList ++ messages, left))) := by
  have hParse :=
    parse_eq protocol bytes (FixedArray.replicate 8 0)
  rw [drainCalls, hParse, ok_bind, hScan]
  simp only [parseOutcome, parsedToMessage_deliver, ok_bind]
  cases drainCalls protocol calls (bytes.drop consumed) with
  | error fault => rfl
  | ok rest => rfl

end Draining

------------------------------------------------------------
-- Writing a Frame
------------------------------------------------------------

/- The bytes a protocol encodes a message as. -/
def Encodes
    {P : Type} [Protocol P]
    (protocol : P)
    (message : CanMessage)
    (bytes : List UInt8) :
    Prop :=
  ∃ n out,
    Protocol.buildDataFrame protocol message
        (List.replicate 64 0) =
      .ok (.ok n, out) ∧
      out.take n = bytes

namespace Transport

/- The bytes for the port are the encoding of the frame. -/
theorem frameBytes_encoding
    {P : Type} [Protocol P] [EncodingProtocol P]
    {F : Type} [Frame F]
    {source : F}
    {frame : DataFrame}
    (transport : Transport P)
    (hId : Frame.id source = frame.id)
    (hData : Frame.data source = .ok frame.data) :
    transport.frameBytes source =
      .ok (.ok
        (EncodingProtocol.encoding transport.protocol
          frame)) := by
  have hSize :
      Protocol.dataFrameMaxSize P ≤
        (List.replicate 64 (0 : UInt8)).length := by
    simpa using EncodingProtocol.dataFrameMaxSize_le
  have hBuild :=
    EncodingProtocol.build_eq transport.protocol hId hData
      hSize
  have hSlice :
      ∀ rest : List UInt8,
        slice
            (EncodingProtocol.encoding transport.protocol
              frame ++ rest)
            0
            (EncodingProtocol.encoding transport.protocol
              frame).length =
          .ok
            (EncodingProtocol.encoding transport.protocol
              frame) := by
    intro rest
    rw [slice_zero (by simp), List.take_left]
  unfold frameBytes
  simp only [hBuild, ok_bind, hSlice, pure_eq_ok]

/- A constructed message is never refused. -/
theorem frameBytes_built
    {P : Type} [Protocol P] [EncodingProtocol P]
    {message : CanMessage}
    (transport : Transport P)
    (hBuilt : message.Built) :
    ∃ bytes, bytes ≠ [] ∧
      transport.frameBytes message = .ok (.ok bytes) := by
  rcases hBuilt.exists_shownData with
    ⟨data, hShown, hLe⟩
  let frame : DataFrame := ⟨message.id, data, hLe⟩
  exact
    ⟨EncodingProtocol.encoding transport.protocol frame,
      EncodingProtocol.encoding_ne_nil _ _,
      transport.frameBytes_encoding rfl hShown⟩

/- The bytes for the port are what the message encodes as. -/
theorem encodes_of_frameBytes
    {P : Type} [Protocol P]
    {transport : Transport P}
    {message : CanMessage}
    {bytes : List UInt8}
    (hBytes :
      transport.frameBytes message = .ok (.ok bytes)) :
    Encodes transport.protocol message bytes := by
  rcases bind_eq_ok_iff.mp hBytes with
    ⟨⟨result, out⟩, hBuild, hRest⟩
  cases result with
  | error error => cases hRest
  | ok n =>
      rcases bind_eq_ok_iff.mp hRest with
        ⟨front, hSlice, hDone⟩
      cases hDone
      refine ⟨n, out, hBuild, ?_⟩
      unfold slice at hSlice
      split at hSlice
      · simpa using hSlice
      · cases hSlice

end Transport

------------------------------------------------------------
-- Reading from the Buffer
------------------------------------------------------------

namespace Transport

variable {P : Type} [Protocol P] [ScanningProtocol P]

open ScanningProtocol

/- The grammar of the transport's protocol. -/
def rxGrammar
    (transport : Transport P) :
    Grammar UInt8 ParsedFrame :=
  grammar transport.protocol

/- What `try_read_frame` promises about its result. -/
def NextRead
    (transport : Transport P)
    (result : Option CanMessage × Transport P) :
    Prop :=
  transport.rxGrammar.next deliver transport.buffered =
      (result.1, result.2.buffered) ∧
    result.2.Sized ∧
    result.2.rxLength ≤ transport.rxLength ∧
    result.2.protocol = transport.protocol

/- One iteration consumes what one scan has found. -/
theorem tryReadIteration_progress
    (transport : Transport P)
    (hSized : transport.Sized) :
    (∃ result,
        transport.tryReadIteration = .ok (.done result) ∧
          transport.NextRead result) ∨
      ∃ transport',
        transport.tryReadIteration =
            .ok (.next transport') ∧
          transport'.Sized ∧
          transport'.rxLength < transport.rxLength ∧
          ∀ result, transport'.NextRead result →
            transport.NextRead result := by
  have hLength := hSized.length_buffered
  have hFront :
      slice transport.rxBuffer.toList 0
          transport.rxLength =
        .ok transport.buffered :=
    slice_zero (by
      rw [FixedArray.length_toList]
      exact hSized)
  have hParse :=
    parse_eq transport.protocol transport.buffered
      (FixedArray.replicate 8 0)
  have hConsumed :
      (transport.rxGrammar.scan transport.buffered).1 ≤
        transport.rxLength := by
    rw [← hLength]
    exact transport.rxGrammar.scan_le transport.buffered
  rcases dropConsumed_buffered hSized hConsumed with
    ⟨transport', hDrop, hSized', hBuffered, hCount, hSame⟩
  have hCases :=
    transport.rxGrammar.next_cases deliver
      transport.buffered
  unfold tryReadIteration
  simp only [hFront, ok_bind, hParse]
  unfold rxGrammar at hCases hDrop hBuffered hCount
  rcases hCases with
    ⟨c, hScan, hNext⟩ |
    ⟨c, frame, message, hScan, hKeep, hNext⟩ |
    ⟨c, frame, hScan, hKeep, _, hNext⟩
  · rw [hScan] at hDrop hBuffered hCount
    refine Or.inl ⟨(none, transport'), ?_, ?_⟩
    · simp only [hScan, parseOutcome, hDrop, ok_bind,
        pure_eq_ok]
    · refine ⟨?_, hSized', by simp only; omega, hSame⟩
      rw [rxGrammar, hNext, hBuffered]
  · rw [hScan] at hDrop hBuffered hCount
    refine Or.inl ⟨(some message, transport'), ?_, ?_⟩
    · simp only [hScan, parseOutcome, hDrop, ok_bind,
        parsedToMessage_deliver, hKeep, pure_eq_ok]
    · refine ⟨?_, hSized', by simp only; omega, hSame⟩
      rw [rxGrammar, hNext, hBuffered]
  · have hPos :=
      (grammar transport.protocol).scan_pos hScan
    unfold rxGrammar at hConsumed
    rw [hScan] at hDrop hBuffered hCount hConsumed
    simp only at hConsumed
    refine Or.inr ⟨transport', ?_, hSized', by omega, ?_⟩
    · simp only [hScan, parseOutcome, hDrop, ok_bind,
        parsedToMessage_deliver, hKeep, pure_eq_ok]
    · rintro result ⟨hRest, hRestSized, hRestLe, hRestSame⟩
      refine ⟨?_, hRestSized, by omega,
        hRestSame.trans hSame⟩
      rw [rxGrammar, hSame] at hRest
      rw [rxGrammar, hNext, ← hBuffered]
      exact hRest

/-
  `try_read_frame` returns the next deliverable message and
  keeps what follows it.  The variant of its loop is the
  number of buffered bytes: a dropped frame takes some.
-/
theorem tryReadFrame_next
    {transport : Transport P}
    (hSized : transport.Sized) :
    ∃ result,
      transport.tryReadFrame = .ok result ∧
        transport.NextRead result :=
  loop_spec Sized rxLength NextRead
    tryReadIteration_progress _ transport hSized
    (Nat.lt_succ_self _)

end Transport

end UsbCan
