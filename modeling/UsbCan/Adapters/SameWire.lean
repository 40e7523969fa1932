import UsbCan.Adapters.SplitSending

/-
  The same bytes on the wire from both modes.

  The exclusive client encodes the caller's frame itself;
  split mode copies the frame into a message first, and the
  write task encodes the copy.  Copying refuses the frames
  that encoding refuses, and the copy is encoded as the same
  bytes, so the write task never meets a frame it cannot
  encode.

  Main declarations:
    * `Sendable`
    * `toMessage_of_short`, `toMessage_of_long`
    * `build_copy_of_short`, `build_refused_of_long`
    * `SendInvariant.writeTask_ok`
    * `sent_as_written`
-/

open Checked

------------------------------------------------------------
-- Copying and Encoding
------------------------------------------------------------

namespace UsbCan

variable [EmbeddedCan]

/-
  A frame that shows `data`: a data frame of any length, or
  a remote frame of a legal length that shows nothing.
-/
structure Sendable
    {F : Type} [Frame F]
    (frame : F)
    (data : List UInt8) :
    Prop where
  shown : Frame.data frame = .ok data
  remote :
    Frame.isRemoteFrame frame = true →
      Frame.dlc frame ≤ 8 ∧ data = []

namespace CanUsbSender

variable {F : Type} [Frame F]
variable {frame : F} {data : List UInt8}

/- A frame of at most eight bytes is copied. -/
theorem toMessage_of_short
    (hFrame : Sendable frame data)
    (hShort : data.length ≤ 8) :
    ∃ message,
      toMessage frame = .ok (some message) ∧
        message.id = Frame.id frame ∧
        message.shownData = .ok data := by
  cases hRemote : Frame.isRemoteFrame frame with
  | true =>
      rcases hFrame.remote hRemote with ⟨hDlc, rfl⟩
      let copy : CanMessage :=
        { id := Frame.id frame
          data := FixedArray.replicate 8 0
          dlc := UInt8.ofNat (Frame.dlc frame)
          rtr := true }
      have hNew :
          CanMessage.newRemote (Frame.id frame)
              (Frame.dlc frame) =
            some copy :=
        if_neg (by omega)
      refine
        ⟨copy, ?_, rfl, copy.shownData_of_rtr rfl⟩
      unfold toMessage
      rw [if_pos hRemote, hNew]
      rfl
  | false =>
      let carried : DataFrame :=
        ⟨Frame.id frame, data, hShort⟩
      have hNew :
          CanMessage.new (Frame.id frame) data =
            .ok (some carried.message) :=
        CanMessage.new_eq_message carried
      refine
        ⟨carried.message, ?_, rfl,
          carried.message_shownData⟩
      unfold toMessage
      rw [if_neg (by simp [hRemote]), hFrame.shown, ok_bind,
        hNew]

/- A frame of more than eight bytes is not copied. -/
theorem toMessage_of_long
    (hFrame : Sendable frame data)
    (hLong : 8 < data.length) :
    toMessage frame = .ok none := by
  cases hRemote : Frame.isRemoteFrame frame with
  | true =>
      rcases hFrame.remote hRemote with ⟨_, rfl⟩
      simp only [List.length_nil] at hLong
      omega
  | false =>
      unfold toMessage
      rw [if_neg (by simp [hRemote]), hFrame.shown, ok_bind,
        CanMessage.new_of_long _ hLong]

/- A frame that is not copied is not enqueued. -/
theorem send_of_none
    (hNone : toMessage frame = .ok none)
    (frameTx : Channel CanMessage) :
    send frame frameTx =
        .ok (some
          (.error (.protocol "Invalid CAN frame"),
            frameTx)) ∧
      trySend frame frameTx =
        .ok (.error (.protocol "Invalid CAN frame"),
          frameTx) := by
  unfold send trySend
  rw [hNone]
  exact ⟨rfl, rfl⟩

end CanUsbSender

namespace Transport

variable {P : Type} [Protocol P]
variable {F : Type} [Frame F]
variable {frame : F}

/- A frame the protocol refuses reaches the port with no byte. -/
theorem writeFrame_of_refused
    {transport : Transport P}
    {error : String}
    {out : List UInt8}
    (hBuild :
      Protocol.buildDataFrame transport.protocol frame
          (List.replicate 64 0) =
        .ok (.error error, out))
    (port : SerialWrite) :
    transport.writeFrame frame port =
      .ok (.error (.protocol error), []) := by
  unfold writeFrame frameBytes
  simp only [hBuild, ok_bind, pure_eq_ok]

/- Frames that are built alike are written alike. -/
theorem writeFrame_congr
    {G : Type} [Frame G]
    {copy : G}
    (transport : Transport P)
    (hBuild :
      Protocol.buildDataFrame transport.protocol copy
          (List.replicate 64 0) =
        Protocol.buildDataFrame transport.protocol frame
          (List.replicate 64 0))
    (port : SerialWrite) :
    transport.writeFrame copy port =
      transport.writeFrame frame port := by
  unfold writeFrame frameBytes
  simp only [hBuild]

end Transport

end UsbCan

------------------------------------------------------------
-- The Write Task Goes On
------------------------------------------------------------

namespace UsbCan

namespace SplitMode

variable [EmbeddedCan]
variable {P : Type} [Protocol P] [EncodingProtocol P]
variable {protocol : P} {settings : List UInt8}
variable {state : SplitMode P}

/- No step of the write task faults. -/
theorem SendInvariant.writeTask_ok
    (hState : SendInvariant protocol settings state)
    (action : WriteAction) :
    ∃ next, state.writeTask action = .ok next := by
  cases action with
  | recv =>
      simp only [writeTask]
      split
      · split <;> exact ⟨_, rfl⟩
      · exact ⟨_, rfl⟩
  | lock =>
      simp only [writeTask]
      split
      · rename_i message hWriter hLock
        have hCurrent : message ∈ state.writer.current := by
          rw [hWriter]
          exact List.mem_singleton_self message
        rcases state.transport.frameBytes_built
            (hState.current_built hCurrent) with
          ⟨bytes, _, hBytes⟩
        rw [hBytes]
        exact ⟨_, rfl⟩
      · exact ⟨_, rfl⟩
  | lockTimeout =>
      simp only [writeTask]
      split <;> exact ⟨_, rfl⟩
  | write count =>
      simp only [writeTask]
      split
      · split <;> exact ⟨_, rfl⟩
      · exact ⟨_, rfl⟩
  | writeError =>
      simp only [writeTask]
      split <;> exact ⟨_, rfl⟩
  | flush =>
      simp only [writeTask]
      split <;> exact ⟨_, rfl⟩
  | flushError =>
      simp only [writeTask]
      split <;> exact ⟨_, rfl⟩

/- Writing an accepted message fails only with the port. -/
theorem SendInvariant.writeFrame_accepted
    {message : CanMessage}
    (hState : SendInvariant protocol settings state)
    (hAccepted : message ∈ state.accepted)
    (port : SerialWrite) :
    ∃ bytes,
      state.transport.writeFrame message port =
        .ok (port.result, port.sent bytes) := by
  rcases state.transport.frameBytes_built
      (hState.built message hAccepted) with
    ⟨bytes, _, hBytes⟩
  refine ⟨bytes, ?_⟩
  unfold Transport.writeFrame
  rw [hBytes]
  rfl

/- Why a write task can have ended. -/
omit [EncodingProtocol P] in
theorem SendInvariant.ended_cases
    {cause : WriteEnd}
    (hState : SendInvariant protocol settings state)
    (hEnded : state.writer = .ended cause) :
    cause = .channelClosed ∨
      (∃ message sent, cause = .writeError message sent) ∨
      cause = .flushError := by
  cases cause with
  | channelClosed => exact Or.inl rfl
  | protocolError message =>
      exact absurd hEnded (hState.encodable message)
  | writeError message sent =>
      exact Or.inr (Or.inl ⟨message, sent, rfl⟩)
  | flushError => exact Or.inr (Or.inr rfl)

end SplitMode

end UsbCan

------------------------------------------------------------
-- Both Modes Compared
------------------------------------------------------------

namespace UsbCan

namespace WaveshareUsbCanA

open CanUsbSender

variable [EmbeddedCan]
variable {F : Type} [Frame F]
variable {frame : F} {data : List UInt8}

/- A short frame and its copy are built as the same bytes. -/
theorem build_copy_of_short
    (hFrame : Sendable frame data)
    (hShort : data.length ≤ 8) :
    ∃ (copy : CanMessage) (bytes : List UInt8),
      toMessage frame = .ok (some copy) ∧
        bytes.length ≤ 15 ∧
        ∀ out : List UInt8, out.length = 64 →
          buildDataFrame frame out =
              .ok (.ok bytes.length,
                bytes ++ out.drop bytes.length) ∧
            buildDataFrame copy out =
              buildDataFrame frame out := by
  let carried : DataFrame := ⟨Frame.id frame, data, hShort⟩
  rcases toMessage_of_short hFrame hShort with
    ⟨copy, hCopy, hId, hShown⟩
  refine
    ⟨copy, wire carried, hCopy, (wire_length_le carried).2,
      ?_⟩
  intro out hOut
  have hFits : dataFrameMaxSize ≤ out.length := by
    rw [hOut]
    exact dataFrameMaxSize_le
  have hSameId : Frame.id frame = carried.id := rfl
  have hSameShown : Frame.data copy = .ok carried.data :=
    hShown
  have hOriginal :=
    buildDataFrame_wire carried hSameId hFrame.shown hFits
  have hCopied :=
    buildDataFrame_wire carried hId hSameShown hFits
  exact ⟨hOriginal, hCopied.trans hOriginal.symm⟩

/- A long frame is refused in both modes. -/
theorem build_refused_of_long
    (hFrame : Sendable frame data)
    (hLong : 8 < data.length) :
    toMessage frame = .ok none ∧
      ∀ out : List UInt8, out.length = 64 →
        buildDataFrame frame out =
          .ok (.error "Data too long (max 8 bytes)",
            out) := by
  refine ⟨toMessage_of_long hFrame hLong, ?_⟩
  intro out hOut
  exact buildDataFrame_long hFrame.shown hLong
    (by
      rw [hOut]
      exact dataFrameMaxSize_le)

end WaveshareUsbCanA

namespace SplitMode

open CanUsbSender WaveshareUsbCanA

variable [EmbeddedCan]

/-
  Copying refuses a frame exactly when building it is an
  error; otherwise the copy is built as the same bytes, at
  most 15, in any 64-byte buffer.  A refused frame is not
  enqueued and nothing of it is written.  In every run of
  split mode the write task can encode what it has accepted,
  never faults, and ends only with the last sender or with
  an error of the port.
-/
theorem sent_as_written
    {F : Type} [Frame F]
    (frame : F)
    (data : List UInt8)
    (hFrame : Sendable frame data)
    (config : Config)
    (port : SerialWrite)
    (settings : List UInt8)
    (start state : SplitMode WaveshareUsbCanA)
    (hSplit :
      split protocol config port =
        .ok (.ok start, settings))
    (hReaches : Reaches step start state) :
    (∃ copied, toMessage frame = .ok copied) ∧
      (∀ out : List UInt8, out.length = 64 →
        (toMessage frame = .ok none ↔
          ∃ error,
            buildDataFrame frame out =
              .ok (.error error, out))) ∧
      (∀ message, toMessage frame = .ok (some message) →
        (∃ bytes : List UInt8, bytes.length ≤ 15 ∧
          ∀ out : List UInt8, out.length = 64 →
            buildDataFrame frame out =
                .ok (.ok bytes.length,
                  bytes ++ out.drop bytes.length) ∧
              buildDataFrame message out =
                buildDataFrame frame out) ∧
          ∀ (transport : Transport WaveshareUsbCanA) port,
            transport.writeFrame message port =
              transport.writeFrame frame port) ∧
      (toMessage frame = .ok none →
        (∀ (transport : Transport WaveshareUsbCanA) port,
          ∃ error,
            transport.writeFrame frame port =
              .ok (.error (.protocol error), [])) ∧
          ∀ frameTx,
            CanUsbSender.send frame frameTx =
                .ok (some
                  (.error (.protocol "Invalid CAN frame"),
                    frameTx)) ∧
              CanUsbSender.trySend frame frameTx =
                .ok
                  (.error (.protocol "Invalid CAN frame"),
                    frameTx)) ∧
      (∀ message ∈ state.accepted, ∀ port, ∃ bytes,
        state.transport.writeFrame message port =
          .ok (port.result, port.sent bytes)) ∧
      (∀ action, ∃ next,
        state.writeTask action = .ok next) ∧
      ∀ cause, state.writer = .ended cause →
        cause = .channelClosed ∨
          (∃ message sent,
            cause = .writeError message sent) ∨
          cause = .flushError := by
  have hState := reaches_sendInvariant hSplit hReaches
  have hRuns :
      (∀ message ∈ state.accepted, ∀ port, ∃ bytes,
          state.transport.writeFrame message port =
            .ok (port.result, port.sent bytes)) ∧
        (∀ action, ∃ next,
          state.writeTask action = .ok next) ∧
        ∀ cause, state.writer = .ended cause →
          cause = .channelClosed ∨
            (∃ message sent,
              cause = .writeError message sent) ∨
            cause = .flushError :=
    ⟨fun _ hAccepted => hState.writeFrame_accepted hAccepted,
      hState.writeTask_ok, fun _ => hState.ended_cases⟩
  by_cases hShort : data.length ≤ 8
  · rcases build_copy_of_short hFrame hShort with
      ⟨copy, bytes, hCopy, hLe, hBuilds⟩
    refine ⟨⟨_, hCopy⟩, ?_, ?_, ?_, hRuns⟩
    · intro out hOut
      rw [hCopy, (hBuilds out hOut).1]
      simp
    · intro message hMessage
      rw [hCopy] at hMessage
      cases hMessage
      refine ⟨⟨bytes, hLe, hBuilds⟩, ?_⟩
      intro transport port
      exact transport.writeFrame_congr
        (hBuilds _ List.length_replicate).2 port
    · intro hNone
      rw [hCopy] at hNone
      cases hNone
  · rcases build_refused_of_long hFrame (by omega) with
      ⟨hNone, hRefused⟩
    refine ⟨⟨_, hNone⟩, ?_, ?_, ?_, hRuns⟩
    · intro out hOut
      exact iff_of_true hNone ⟨_, hRefused out hOut⟩
    · intro message hMessage
      rw [hNone] at hMessage
      cases hMessage
    · intro _
      refine ⟨?_, send_of_none hNone⟩
      intro transport port
      exact
        ⟨_, Transport.writeFrame_of_refused
          (hRefused _ List.length_replicate) port⟩

end SplitMode

end UsbCan

namespace UsbCan

namespace SplitMode

open CanUsbSender WaveshareUsbCanA

/- A remote frame in both modes, and a failing port. -/
theorem sent_as_written_on_example :
    letI := rangedIds
    ∃ (frame : CanMessage)
      (state : SplitMode WaveshareUsbCanA),
      frame.rtr = true ∧
        toMessage frame = .ok (some frame) ∧
        (∃ bytes : List UInt8, bytes.length ≤ 15 ∧
          ∀ out : List UInt8, out.length = 64 →
            buildDataFrame frame out =
              .ok (.ok bytes.length,
                bytes ++ out.drop bytes.length)) ∧
        state.accepted = [frame] ∧
        ∃ cause, state.writer = .ended cause ∧
          (cause = .channelClosed ∨
            (∃ message sent,
              cause = .writeError message sent) ∨
            cause = .flushError) := by
  let _ : EmbeddedCan := rangedIds
  let frame : CanMessage :=
    ⟨.standard ⟨0x123, by decide⟩,
      FixedArray.replicate 8 0, 4, true⟩
  have hFrame : Sendable frame [] :=
    ⟨rfl, fun _ => ⟨by decide, rfl⟩⟩
  have hRun :
      ∃ start settings state cause,
        split protocol ({} : Config) .complete =
          .ok (.ok start, settings) ∧
        runActions step
            [.user (.send frame), .writer .recv,
              .writer .lock, .writer (.write 3),
              .writer .writeError]
            start =
          .ok (some state) ∧
        state.accepted = [frame] ∧
        state.writer = .ended cause :=
    ⟨_, _, _, _, rfl, rfl, rfl, rfl⟩
  rcases hRun with
    ⟨start, settings, state, cause, hSplit, hRun, hAccepted,
      hEnded⟩
  rcases sent_as_written frame [] hFrame {} .complete
      settings start state hSplit
      (reaches_of_runActions hRun) with
    ⟨_, _, hCopied, _, _, _, hCauses⟩
  rcases hCopied frame rfl with
    ⟨⟨bytes, hLe, hBuilt⟩, _⟩
  exact
    ⟨frame, state, rfl, rfl,
      ⟨bytes, hLe, fun out hOut => (hBuilt out hOut).1⟩,
      hAccepted, cause, hEnded, hCauses cause hEnded⟩

end SplitMode

end UsbCan
