import UsbCan.Adapters.SameWire
import UsbCan.Adapters.SplitLocking

/-
  What senders are told in split mode.

  In every reachable state the result of a call follows from
  the frame, from whether the write task has returned and
  from how many accepted messages it has not taken yet.  A
  call that fails leaves everything as it was.

  Main declarations:
    * `SendFlow.pending`
    * `Refuses`, `Blocks`, `Accepts`
    * `sender_told`
    * `closed_for_good`
-/

open Checked

------------------------------------------------------------
-- Channel Room
------------------------------------------------------------

namespace UsbCan

namespace SplitMode

variable [EmbeddedCan]
variable {P : Type}
variable {F : Type} [Frame F]

/- Both calls fail, with these errors, and change nothing. -/
structure Refuses
    (state : SplitMode P)
    (frame : F)
    (sendError trySendError : ClientError) :
    Prop where
  send :
    state.send frame = .ok (some (.error sendError, state))
  trySend :
    state.trySend frame =
      .ok (some (.error trySendError, state))

/- `send` waits; `try_send` fails and changes nothing. -/
structure Blocks
    (state : SplitMode P)
    (frame : F) :
    Prop where
  send : state.send frame = .ok none
  trySend :
    state.trySend frame =
      .ok (some
        (.error (.protocol "Send channel full"), state))

/- Both calls succeed and enqueue the message. -/
structure Accepts
    (state : SplitMode P)
    (frame : F)
    (message : CanMessage)
    (state' : SplitMode P) :
    Prop where
  send : state.send frame = .ok (some (.ok (), state'))
  trySend :
    state.trySend frame = .ok (some (.ok (), state'))
  accepted :
    state'.accepted = state.accepted ++ [message]
  queue :
    state'.frames.queue = state.frames.queue ++ [message]

variable {state : SplitMode P}
variable {frame : F} {message : CanMessage}

/- A call that leaves the channel alone changes nothing. -/
theorem enqueued_self (state : SplitMode P) :
    state.enqueued state.frames = state := by
  simp [enqueued]

/- A frame that cannot be copied is refused by both calls. -/
theorem refuses_invalid
    (hSender : state.frames.senders ≠ 0)
    (hCopied : CanUsbSender.toMessage frame = .ok none) :
    Refuses state frame (.protocol "Invalid CAN frame")
      (.protocol "Invalid CAN frame") := by
  rcases CanUsbSender.send_of_none hCopied state.frames with
    ⟨hSend, hTry⟩
  refine ⟨?_, ?_⟩
  · rw [send, if_neg hSender, hSend]
    simp only [ok_bind, enqueued_self]
    rfl
  · rw [trySend, if_neg hSender, hTry]
    simp only [ok_bind, enqueued_self]
    rfl

/- Without a receiver both calls fail. -/
theorem refuses_closed
    (hSender : state.frames.senders ≠ 0)
    (hCopied :
      CanUsbSender.toMessage frame = .ok (some message))
    (hClosed : state.frames.receiverAlive = false) :
    Refuses state frame (.sendError message)
      .channelClosed := by
  refine ⟨?_, ?_⟩
  · simp only [send, if_neg hSender, CanUsbSender.send,
      hCopied, ok_bind, Channel.send, hClosed]
    simp [enqueued_self]
  · simp only [trySend, if_neg hSender,
      CanUsbSender.trySend, hCopied, ok_bind,
      Channel.trySend, hClosed]
    simp [enqueued_self]

/- Without a free place `send` waits. -/
theorem blocks_full
    (hSender : state.frames.senders ≠ 0)
    (hCopied :
      CanUsbSender.toMessage frame = .ok (some message))
    (hOpen : state.frames.receiverAlive = true)
    (hFull :
      ¬ state.frames.queue.length < state.frames.capacity) :
    Blocks state frame := by
  refine ⟨?_, ?_⟩
  · simp only [send, if_neg hSender, CanUsbSender.send,
      hCopied, ok_bind, Channel.send, hOpen]
    simp [hFull]
  · simp only [trySend, if_neg hSender,
      CanUsbSender.trySend, hCopied, ok_bind,
      Channel.trySend, hOpen]
    simp [hFull, enqueued_self]

/- With a free place both calls enqueue the message. -/
theorem accepts_free
    (hSender : state.frames.senders ≠ 0)
    (hCopied :
      CanUsbSender.toMessage frame = .ok (some message))
    (hOpen : state.frames.receiverAlive = true)
    (hFree :
      state.frames.queue.length < state.frames.capacity) :
    ∃ state', Accepts state frame message state' := by
  refine
    ⟨state.enqueued (state.frames.push message hFree), ?_⟩
  refine
    { send := ?_
      trySend := ?_
      accepted := ?_
      queue := rfl }
  · simp only [send, if_neg hSender, CanUsbSender.send,
      hCopied, ok_bind, Channel.send, hOpen, if_true,
      dif_pos hFree]
    rfl
  · simp only [trySend, if_neg hSender,
      CanUsbSender.trySend, hCopied, ok_bind,
      Channel.trySend, hOpen, if_true, dif_pos hFree]
    rfl
  · simp [enqueued]

/- What the write task has not taken is in the channel. -/
theorem SendFlow.pending
    [Protocol P]
    {protocol : P}
    {settings : List UInt8}
    (hFlow : SendFlow protocol settings state)
    (hOpen : state.frames.receiverAlive = true) :
    state.accepted.length =
      state.dequeued.length + state.frames.queue.length := by
  have hOrder := congrArg List.length hFlow.order
  rw [hFlow.kept hOpen, List.append_nil,
    List.length_append] at hOrder
  exact hOrder

/-
  A closed channel stays closed: no later message is
  accepted, nothing more is written and no fate changes.
-/
theorem closed_for_good
    [Protocol P]
    {later : SplitMode P}
    (hEnded : state.writer.Ended)
    (hClosed : state.frames.receiverAlive = false)
    (hReaches : Reaches step state later) :
    later.frames.receiverAlive = false ∧
      later.writer = state.writer ∧
      later.wire = state.wire ∧
      later.accepted = state.accepted ∧
      later.handled = state.handled := by
  refine hReaches.invariant
    (fun now =>
      now.frames.receiverAlive = false ∧
        now.writer = state.writer ∧
        now.wire = state.wire ∧
        now.accepted = state.accepted ∧
        now.handled = state.handled)
    ?_ ⟨hClosed, rfl, rfl, rfl, rfl⟩
  rintro before action after ⟨hGone, hSame⟩ hStep
  cases step_cases hStep with
  | reader hStep =>
      have hSide := hStep.sameSendSide
      rw [hSide.frames, hSide.writer, hSide.wire,
        hSide.accepted, hSide.handled]
      exact ⟨hGone, hSame⟩
  | writer hStep =>
      rcases hEnded with ⟨cause, hEnded⟩
      exact absurd (hSame.1.trans hEnded)
        (hStep.running cause)
  | user hStep =>
      cases hStep with
      | accepted hFree _ hAlive =>
          exact absurd (hGone.symm.trans hAlive)
            Bool.false_ne_true
      | _ => exact ⟨hGone, hSame⟩

/- What a sender of a message is told, by what is pending. -/
theorem SendFlow.told
    [Protocol P]
    {protocol : P}
    {settings : List UInt8}
    (hFlow : SendFlow protocol settings state)
    (hChannel : ChannelInvariant state)
    (hSender : state.frames.senders ≠ 0)
    (hCopied :
      CanUsbSender.toMessage frame = .ok (some message)) :
    (state.writer.Ended →
        Refuses state frame (.sendError message)
          .channelClosed) ∧
      (¬ state.writer.Ended →
        state.accepted.length =
            state.dequeued.length + 100 →
          Blocks state frame) ∧
      (¬ state.writer.Ended →
        state.accepted.length <
            state.dequeued.length + 100 →
          ∃ state', Accepts state frame message state') := by
  have hOpen := hChannel.open_iff
  have hRoom := state.frames.queue_le
  have hCapacity := hChannel.frames_capacity
  unfold channelSize at hCapacity
  refine ⟨?_, ?_, ?_⟩
  · intro hEnded
    refine refuses_closed hSender hCopied ?_
    rw [← Bool.not_eq_true, hOpen, not_not]
    exact hEnded
  · intro hRunning hFull
    have hAlive := hOpen.mpr hRunning
    have hPending := hFlow.pending hAlive
    exact blocks_full hSender hCopied hAlive (by omega)
  · intro hRunning hLess
    have hAlive := hOpen.mpr hRunning
    have hPending := hFlow.pending hAlive
    exact accepts_free hSender hCopied hAlive (by omega)

/-
  In every reachable state the channel is closed just when
  the write task has returned.  A call is refused for a
  frame that cannot be copied and, by other errors, when the
  channel is closed; otherwise `send` waits, and `try_send`
  fails, just when a hundred accepted messages have not been
  taken by the write task yet, and it is never more: a freed
  place is open to every sender.  No failed call changes the
  state, and a closed channel stays closed.
-/
theorem sender_told
    (config : WaveshareUsbCanA.Config)
    (port : SerialWrite)
    (settings : List UInt8)
    (start state : SplitMode WaveshareUsbCanA)
    (frame : F)
    (copied : Option CanMessage)
    (hSplit :
      split WaveshareUsbCanA.protocol config port =
        .ok (.ok start, settings))
    (hReaches : Reaches step start state)
    (hSender : state.frames.senders ≠ 0)
    (hCopied : CanUsbSender.toMessage frame = .ok copied) :
    (CanUsbSender.isClosed state.frames = true ↔
        state.writer.Ended) ∧
      (state.writer.Ended →
        ∀ later, Reaches step state later →
          CanUsbSender.isClosed later.frames = true ∧
            later.wire = state.wire ∧
            later.accepted = state.accepted) ∧
      (¬ state.writer.Ended →
        state.accepted.length ≤
          state.dequeued.length + 100) ∧
      (copied = none →
        Refuses state frame (.protocol "Invalid CAN frame")
          (.protocol "Invalid CAN frame")) ∧
      ∀ message, copied = some message →
        (state.writer.Ended →
          Refuses state frame (.sendError message)
            .channelClosed) ∧
        (¬ state.writer.Ended →
          state.accepted.length =
              state.dequeued.length + 100 →
            Blocks state frame) ∧
        (¬ state.writer.Ended →
          state.accepted.length <
              state.dequeued.length + 100 →
            ∃ state', Accepts state frame message state') := by
  have hChannel := reaches_channelInvariant hSplit hReaches
  have hSend := reaches_sendInvariant hSplit hReaches
  have hOpen := hChannel.open_iff
  have hRoom := state.frames.queue_le
  have hCapacity := hChannel.frames_capacity
  unfold channelSize at hCapacity
  have hClosed :
      state.writer.Ended →
        state.frames.receiverAlive = false := by
    intro hEnded
    rw [← Bool.not_eq_true, hOpen, not_not]
    exact hEnded
  refine ⟨?_, ?_, ?_, ?_, ?_⟩
  · rw [CanUsbSender.isClosed, Bool.not_eq_true',
      ← Bool.not_eq_true, hOpen, not_not]
  · intro hEnded later hLater
    rcases closed_for_good hEnded (hClosed hEnded) hLater with
      ⟨hGone, _, hWire, hAccepted, _⟩
    refine ⟨?_, hWire, hAccepted⟩
    rw [CanUsbSender.isClosed, hGone]
    rfl
  · intro hRunning
    have hPending := hSend.pending (hOpen.mpr hRunning)
    omega
  · rintro rfl
    exact refuses_invalid hSender hCopied
  · rintro message rfl
    exact hSend.told hChannel hSender hCopied

end SplitMode

end UsbCan

namespace UsbCan

namespace SplitMode

open WaveshareUsbCanA

/- The port has failed, so that a later message is refused. -/
theorem sender_told_on_example :
    letI := rangedIds
    ∃ (message : CanMessage)
      (state : SplitMode WaveshareUsbCanA),
      state.wire.length = 20 + 3 ∧
        CanUsbSender.isClosed state.frames = true ∧
        Refuses state message (.sendError message)
          .channelClosed := by
  have hRun :
      letI := rangedIds
      ∃ (message : CanMessage)
        (state : SplitMode WaveshareUsbCanA),
        Reaches step fresh state ∧
          CanUsbSender.toMessage message =
            .ok (some message) ∧
          state.frames.senders ≠ 0 ∧
          state.wire.length = 20 + 3 ∧
          CanUsbSender.isClosed state.frames = true :=
    letI := rangedIds
    let message : CanMessage :=
      ⟨.standard ⟨0x123, by decide⟩,
        ⟨[0x11, 0, 0, 0, 0, 0, 0, 0], rfl⟩, 1, false⟩
    ⟨message, exists_run step
      [.user (.send message), .writer .recv, .writer .lock,
        .writer (.write 3), .writer .writeError]
      (fun state : SplitMode WaveshareUsbCanA =>
        CanUsbSender.toMessage message =
            .ok (some message) ∧
          state.frames.senders ≠ 0 ∧
          state.wire.length = 20 + 3 ∧
          CanUsbSender.isClosed state.frames = true)
      (by decide +kernel)⟩
  let _ : EmbeddedCan := rangedIds
  rcases hRun with
    ⟨message, state, hReaches, hCopied, hSender, hLength,
      hClosed⟩
  rcases sender_told {} .complete _ fresh state message _
      split_fresh hReaches hSender hCopied with
    ⟨hEnded, _, _, _, hTold⟩
  exact ⟨message, state, hLength, hClosed,
    (hTold message rfl).1 (hEnded.mp hClosed)⟩

end SplitMode

end UsbCan
