import UsbCan.Adapters.SplitReceiving
import UsbCan.Protocol.Encoder
import UsbCan.Protocol.Settings

/-
  Sent messages in split mode.

  The write task takes messages in the order in which they
  were accepted and is done with one before it takes the
  next.  Behind the settings frame the wire holds the whole
  encodings of the messages that were written, and the part
  of the current message that has been written so far.

  Main declarations:
    * `WriteTask.current`, `WriteTask.sent`
    * `SendInvariant`
    * `sent_in_order`
    * `fresh`
-/

open Checked

------------------------------------------------------------
-- The Send Invariant
------------------------------------------------------------

namespace UsbCan

variable [EmbeddedCan]

/- The message the write task has taken and is not done with. -/
def WriteTask.current : WriteTask → List CanMessage
| .locking message => [message]
| .writing message _ _ => [message]
| .ended (.protocolError message) => [message]
| .ended (.writeError message _) => [message]
| _ => []

/- The bytes of the current message that are on the wire. -/
def WriteTask.sent : WriteTask → List UInt8
| .writing _ sent _ => sent
| .ended (.writeError _ sent) => sent
| _ => []

namespace SplitMode

variable {P : Type}

/- The messages the write task has taken, in order. -/
def dequeued (state : SplitMode P) : List CanMessage :=
  state.handled.map Prod.fst ++ state.writer.current

/- The messages that have been written, in order. -/
def completed (state : SplitMode P) : List CanMessage :=
  (state.handled.filter
    (fun entry => entry.2 == .written)).map Prod.fst

variable [Protocol P]

/-
  Every accepted message is handled, current, queued or
  discarded, in this order, and the wire holds what has been
  written.  The channel is open, and nothing is discarded,
  until the write task has ended; every accepted message has
  an encoding.
-/
structure SendFlow
    (protocol : P)
    (settings : List UInt8)
    (state : SplitMode P) :
    Prop where
  order :
    state.accepted =
      state.dequeued ++ state.frames.queue ++
        state.discarded
  built : ∀ message ∈ state.accepted, message.Built
  wire :
    ∃ whole,
      List.Forall₂ (Encodes protocol) state.completed
          whole ∧
        state.wire =
          settings ++ whole.flatten ++ state.writer.sent
  writing :
    ∀ message sent rest,
      state.writer = .writing message sent rest →
        Encodes protocol message (sent ++ rest)
  failed :
    ∀ message sent,
      state.writer = .ended (.writeError message sent) →
        ∃ rest, rest ≠ [] ∧
          Encodes protocol message (sent ++ rest)
  encodable :
    ∀ message,
      state.writer ≠ .ended (.protocolError message)
  alive :
    (∀ cause, state.writer ≠ .ended cause) →
      state.frames.receiverAlive = true
  kept :
    state.frames.receiverAlive = true →
      state.discarded = []

/- While a message is being written, something is left. -/
structure SendInvariant
    (protocol : P)
    (settings : List UInt8)
    (state : SplitMode P) :
    Prop extends SendFlow protocol settings state where
  unfinished :
    ∀ message sent rest,
      state.writer = .writing message sent rest →
        rest ≠ []

variable {protocol : P} {settings : List UInt8}
variable {state state' : SplitMode P}

/- The current message has been accepted from a sender. -/
theorem SendFlow.current_built
    {message : CanMessage}
    (hFlow : SendFlow protocol settings state)
    (hCurrent : message ∈ state.writer.current) :
    message.Built := by
  apply hFlow.built
  rw [hFlow.order, dequeued]
  simp [hCurrent]

------------------------------------------------------------
-- Establishing the Invariant
------------------------------------------------------------

/- A write task between two writes owes only the order. -/
theorem SendInvariant.of_idle
    (hOrder :
      state.accepted =
        state.dequeued ++ state.frames.queue ++
          state.discarded)
    (hBuilt : ∀ message ∈ state.accepted, message.Built)
    (hWire :
      ∃ whole,
        List.Forall₂ (Encodes protocol) state.completed
            whole ∧
          state.wire =
            settings ++ whole.flatten ++ state.writer.sent)
    (hAlive : state.frames.receiverAlive = true)
    (hKept :
      state.frames.receiverAlive = true →
        state.discarded = [])
    (hWriting :
      ∀ message sent rest,
        state.writer ≠ .writing message sent rest)
    (hRunning : ∀ cause, state.writer ≠ .ended cause) :
    SendInvariant protocol settings state := by
  refine ⟨⟨hOrder, hBuilt, hWire, ?_, ?_, ?_, ?_, hKept⟩,
    ?_⟩
  · intro message sent rest hWriter
    exact absurd hWriter (hWriting message sent rest)
  · intro message sent hWriter
    exact absurd hWriter (hRunning _)
  · intro message
    exact hRunning _
  · intro _
    exact hAlive
  · intro message sent rest hWriter
    exact absurd hWriter (hWriting message sent rest)

/- A write task inside a message owes its encoding as well. -/
theorem SendFlow.of_writing
    {message : CanMessage}
    {sent rest : List UInt8}
    (hWriter : state.writer = .writing message sent rest)
    (hOrder :
      state.accepted =
        state.dequeued ++ state.frames.queue ++
          state.discarded)
    (hBuilt : ∀ message ∈ state.accepted, message.Built)
    (hWire :
      ∃ whole,
        List.Forall₂ (Encodes protocol) state.completed
            whole ∧
          state.wire =
            settings ++ whole.flatten ++ state.writer.sent)
    (hEncodes : Encodes protocol message (sent ++ rest))
    (hAlive : state.frames.receiverAlive = true)
    (hKept :
      state.frames.receiverAlive = true →
        state.discarded = []) :
    SendFlow protocol settings state := by
  refine ⟨hOrder, hBuilt, hWire, ?_, ?_, ?_, ?_, hKept⟩
  · intro _ _ _ hSame
    rw [hWriter] at hSame
    cases hSame
    exact hEncodes
  · intro _ _ hEnded
    rw [hWriter] at hEnded
    cases hEnded
  · intro _ hEnded
    rw [hWriter] at hEnded
    cases hEnded
  · intro _
    exact hAlive

------------------------------------------------------------
-- Going On and Ending
------------------------------------------------------------

/- When nothing is left, the message has been written. -/
theorem SendFlow.continueWriting
    {message : CanMessage}
    {sent rest : List UInt8}
    (hFlow :
      SendFlow protocol settings
        { state with
          writer := .writing message sent rest }) :
    SendInvariant protocol settings
      (state.continueWriting message sent rest) := by
  unfold SplitMode.continueWriting
  by_cases hRest : rest = []
  · subst hRest
    rw [if_pos rfl]
    have hEncodes := hFlow.writing message sent [] rfl
    rw [List.append_nil] at hEncodes
    rcases hFlow.wire with ⟨whole, hWhole, hWire⟩
    have hCompleted :
        completed
            { state with
              writer := .flushing
              handled :=
                state.handled ++ [(message, .written)] } =
          state.completed ++ [message] := by
      simp [completed]
    apply SendInvariant.of_idle
    · have hOrder := hFlow.order
      simpa [dequeued, WriteTask.current] using hOrder
    · exact hFlow.built
    · refine ⟨whole ++ [sent], ?_, ?_⟩
      · rw [hCompleted]
        exact List.rel_append hWhole (.cons hEncodes .nil)
      · simpa [WriteTask.sent] using hWire
    · exact hFlow.alive (by simp)
    · exact hFlow.kept
    · simp
    · simp
  · rw [if_neg hRest]
    refine { hFlow with unfinished := ?_ }
    rintro _ _ _ hWriting
    cases hWriting
    exact hRest

/- The task ends with its current message, if it has one. -/
theorem SendInvariant.endWriter
    {cause : WriteEnd}
    (hState : SendInvariant protocol settings state)
    (hRunning : ∀ before, state.writer ≠ .ended before)
    (hCurrent :
      (WriteTask.ended cause).current =
        state.writer.current)
    (hSent :
      (WriteTask.ended cause).sent = state.writer.sent)
    (hCause :
      (∀ message, cause ≠ .protocolError message) ∧
        ∀ message sent, cause = .writeError message sent →
          ∃ rest,
            state.writer = .writing message sent rest) :
    SendInvariant protocol settings
      (state.endWriter cause) := by
  have hNone := hState.kept (hState.alive hRunning)
  refine ⟨⟨?_, hState.built, ?_, ?_, ?_, ?_, ?_, ?_⟩, ?_⟩
  · have hOrder := hState.order
    rw [hNone, List.append_nil] at hOrder
    simpa [dequeued, SplitMode.endWriter, hCurrent,
      Channel.dropReceiver] using hOrder
  · rcases hState.wire with ⟨whole, hWhole, hWire⟩
    refine ⟨whole, hWhole, ?_⟩
    rw [← hSent] at hWire
    exact hWire
  · intro message sent rest hWriting
    cases hWriting
  · intro message sent hEnded
    cases hEnded
    rcases hCause.2 message sent rfl with ⟨rest, hWriting⟩
    exact ⟨rest,
      hState.unfinished message sent rest hWriting,
      hState.writing message sent rest hWriting⟩
  · intro message hEnded
    cases hEnded
    exact hCause.1 message rfl
  · intro hOpen
    exact absurd rfl (hOpen cause)
  · intro hAlive
    cases hAlive
  · intro message sent rest hWriting
    cases hWriting

------------------------------------------------------------
-- Steps
------------------------------------------------------------

/- A step of the write task keeps the invariant. -/
theorem WriteStep.sendInvariant
    [EncodingProtocol P]
    (hStep : WriteStep state state')
    (hProtocol : state.transport.protocol = protocol)
    (hState : SendInvariant protocol settings state) :
    SendInvariant protocol settings state' := by
  have hOrder := hState.order
  have hRunning := hStep.running
  have hAlive := hState.alive hRunning
  rcases hState.wire with ⟨whole, hWhole, hWire⟩
  cases hStep with
  | @received message frames hWriter hRecv =>
      rcases Channel.recv_eq_some hRecv with
        ⟨hQueue, hSame⟩
      rw [dequeued, hWriter, hQueue] at hOrder
      rw [hWriter] at hWire
      apply SendInvariant.of_idle
      · simpa [dequeued, WriteTask.current] using hOrder
      · exact hState.built
      · exact ⟨whole, hWhole, hWire⟩
      · exact hSame.trans hAlive
      · intro _
        exact hState.kept hAlive
      · simp
      · simp
  | @finished frames hWriter hRecv =>
      exact hState.endWriter hRunning
        (by rw [hWriter]; rfl)
        (by rw [hWriter]; rfl)
        (by simp)
  | @began message bytes hWriter hLock hBytes =>
      have hEncodes := Transport.encodes_of_frameBytes hBytes
      rw [hProtocol] at hEncodes
      rw [dequeued, hWriter] at hOrder
      rw [hWriter] at hWire
      apply SendFlow.continueWriting
      exact SendFlow.of_writing rfl hOrder hState.built
        ⟨whole, hWhole, hWire⟩ hEncodes hAlive hState.kept
  | @refused message error hWriter hLock hBytes =>
      have hCurrent : message ∈ state.writer.current := by
        rw [hWriter]
        exact List.mem_singleton_self message
      rcases state.transport.frameBytes_built
          (hState.current_built hCurrent) with
        ⟨bytes, _, hBuilt⟩
      rw [hBytes] at hBuilt
      cases hBuilt
  | @timedOut message hWriter =>
      rw [dequeued, hWriter] at hOrder
      rw [hWriter] at hWire
      have hCompleted :
          completed
              { state with
                writer := .receiving
                handled :=
                  state.handled ++ [(message, .timedOut)] } =
            state.completed := by
        simp [completed]
      apply SendInvariant.of_idle
      · simpa [dequeued, WriteTask.current] using hOrder
      · exact hState.built
      · refine ⟨whole, ?_, hWire⟩
        rw [hCompleted]
        exact hWhole
      · exact hAlive
      · exact hState.kept
      · simp
      · simp
  | @wrote message sent rest count hWriter hPos hCount =>
      have hEncodes :=
        hState.writing message sent rest hWriter
      rw [dequeued, hWriter] at hOrder
      rw [hWriter] at hWire
      apply SendFlow.continueWriting
      refine SendFlow.of_writing rfl hOrder hState.built
        ?_ ?_ hAlive hState.kept
      · refine ⟨whole, hWhole, ?_⟩
        change
          state.wire ++ rest.take count =
            settings ++ whole.flatten ++
              (sent ++ rest.take count)
        rw [hWire]
        simp [WriteTask.sent]
      · rw [List.append_assoc, List.take_append_drop]
        exact hEncodes
  | @failed message sent rest hWriter =>
      refine hState.endWriter hRunning
        (by rw [hWriter]; rfl)
        (by rw [hWriter]; rfl)
        ⟨by simp, ?_⟩
      rintro _ _ hCause
      cases hCause
      exact ⟨rest, hWriter⟩
  | flushed hWriter =>
      rw [dequeued, hWriter] at hOrder
      rw [hWriter] at hWire
      apply SendInvariant.of_idle
      · exact hOrder
      · exact hState.built
      · exact ⟨whole, hWhole, hWire⟩
      · exact hAlive
      · exact hState.kept
      · simp
      · simp
  | notFlushed hWriter =>
      exact hState.endWriter hRunning
        (by rw [hWriter]; rfl)
        (by rw [hWriter]; rfl)
        (by simp)

/-
  Two states that agree on the send side: the write task,
  its channel, the wire and the fate of the messages.
-/
structure SameSendSide
    (state state' : SplitMode P) :
    Prop where
  writer : state'.writer = state.writer
  frames : state'.frames = state.frames
  wire : state'.wire = state.wire
  accepted : state'.accepted = state.accepted
  handled : state'.handled = state.handled
  discarded : state'.discarded = state.discarded

theorem SameSendSide.sendInvariant
    (hSame : SameSendSide state state')
    (hState : SendInvariant protocol settings state) :
    SendInvariant protocol settings state' := by
  rcases hSame with
    ⟨hWriter, hFrames, hWire, hAccepted, hHandled,
      hDiscarded⟩
  have hDequeued : state'.dequeued = state.dequeued := by
    rw [dequeued, dequeued, hHandled, hWriter]
  have hCompleted : state'.completed = state.completed := by
    rw [completed, completed, hHandled]
  exact
    { order := by
        rw [hAccepted, hDequeued, hFrames, hDiscarded]
        exact hState.order
      built := by
        rw [hAccepted]
        exact hState.built
      wire := by
        rw [hCompleted, hWire, hWriter]
        exact hState.wire
      writing := by
        rw [hWriter]
        exact hState.writing
      failed := by
        rw [hWriter]
        exact hState.failed
      encodable := by
        rw [hWriter]
        exact hState.encodable
      alive := by
        rw [hWriter, hFrames]
        exact hState.alive
      kept := by
        rw [hFrames, hDiscarded]
        exact hState.kept
      unfinished := by
        rw [hWriter]
        exact hState.unfinished }

/- The read task leaves the send side alone. -/
theorem ReadStep.sameSendSide
    (hStep : ReadStep state state') :
    SameSendSide state state' := by
  cases hStep <;> exact ⟨rfl, rfl, rfl, rfl, rfl, rfl⟩

/- An accepted message goes to the end of the order. -/
theorem UserStep.sendInvariant
    (hStep : UserStep state state')
    (hState : SendInvariant protocol settings state) :
    SendInvariant protocol settings state' := by
  cases hStep with
  | @accepted message hFree hBuilt hAlive =>
      have hOrder := hState.order
      have hNone := hState.kept hAlive
      exact
        { order := by
            rw [hNone, List.append_nil] at hOrder
            change
              state.accepted ++ [message] =
                state.dequeued ++
                  (state.frames.queue ++ [message]) ++
                  state.discarded
            rw [hOrder, hNone, List.append_nil,
              List.append_assoc]
          built := by
            intro other hOther
            rcases List.mem_append.mp hOther with hOld | hNew
            · exact hState.built other hOld
            · rw [List.mem_singleton.mp hNew]
              exact hBuilt
          wire := hState.wire
          writing := hState.writing
          failed := hState.failed
          encodable := hState.encodable
          alive := hState.alive
          kept := hState.kept
          unfinished := hState.unfinished }
  | cloned =>
      exact ⟨⟨hState.order, hState.built, hState.wire,
        hState.writing, hState.failed, hState.encodable,
        hState.alive, hState.kept⟩, hState.unfinished⟩
  | dropped =>
      exact ⟨⟨hState.order, hState.built, hState.wire,
        hState.writing, hState.failed, hState.encodable,
        hState.alive, hState.kept⟩, hState.unfinished⟩
  | unchanged => exact hState
  | @took message messages _ =>
      have hSame :
          SameSendSide state
            { state with
              messages := messages
              consumed := state.consumed ++ [message] } :=
        ⟨rfl, rfl, rfl, rfl, rfl, rfl⟩
      exact hSame.sendInvariant hState
  | left =>
      have hSame :
          SameSendSide state
            { state with
              messages := state.messages.dropReceiver } :=
        ⟨rfl, rfl, rfl, rfl, rfl, rfl⟩
      exact hSame.sendInvariant hState

theorem SplitStep.sendInvariant
    [EncodingProtocol P]
    (hStep : SplitStep state state')
    (hProtocol : state.transport.protocol = protocol)
    (hState : SendInvariant protocol settings state) :
    SendInvariant protocol settings state' := by
  cases hStep with
  | reader hStep =>
      exact hStep.sameSendSide.sendInvariant hState
  | writer hStep =>
      exact hStep.sendInvariant hProtocol hState
  | user hStep => exact hStep.sendInvariant hState

/- Once the write task has ended it stays so, and silent. -/
theorem SplitStep.ended
    {cause : WriteEnd}
    (hStep : SplitStep state state')
    (hEnded : state.writer = .ended cause) :
    state'.writer = .ended cause ∧
      state'.wire = state.wire := by
  cases hStep with
  | reader hStep =>
      have hSame := hStep.sameSendSide
      exact ⟨hSame.writer.trans hEnded, hSame.wire⟩
  | writer hStep => exact absurd hEnded (hStep.running cause)
  | user hStep =>
      cases hStep <;> exact ⟨hEnded, rfl⟩

------------------------------------------------------------
-- Runs
------------------------------------------------------------

/- A new split mode has written the settings frame. -/
theorem split_sendInvariant
    {config : Protocol.Config P}
    {port : SerialWrite}
    (hSplit :
      split protocol config port =
        .ok (.ok state, settings)) :
    SendInvariant protocol settings state := by
  rcases bind_eq_ok_iff.mp hSplit with
    ⟨⟨result, bytes⟩, _, hRest⟩
  cases result with
  | error error => cases hRest
  | ok transport =>
      cases hRest
      apply SendInvariant.of_idle
      · rfl
      · simp
      · exact ⟨[], .nil, by simp [WriteTask.sent]⟩
      · rfl
      · intro _
        rfl
      · simp
      · simp

/- The invariant holds in every state of a run. -/
theorem reaches_sendInvariant
    [ScanningProtocol P] [EncodingProtocol P]
    {config : Protocol.Config P}
    {port : SerialWrite}
    {start : SplitMode P}
    (hSplit :
      split protocol config port = .ok (.ok start, settings))
    (hReaches : Reaches step start state) :
    SendInvariant protocol settings state := by
  have hStart :
      (∃ delivered,
          ReceiveInvariant protocol delivered start) ∧
        SendInvariant protocol settings start :=
    ⟨⟨[], split_receiveInvariant hSplit⟩,
      split_sendInvariant hSplit⟩
  refine (hReaches.invariant
    (fun now =>
      (∃ delivered,
          ReceiveInvariant protocol delivered now) ∧
        SendInvariant protocol settings now)
    ?_ hStart).2
  rintro before action after
    ⟨⟨delivered, hReceive⟩, hSend⟩ hStep
  have hSplitStep := step_cases hStep
  exact
    ⟨hSplitStep.receiveInvariant hReceive,
      hSplitStep.sendInvariant
        hReceive.receives.protocol_eq hSend⟩

/- What an ended write task has left on the wire stays. -/
theorem reaches_ended
    {cause : WriteEnd}
    (hEnded : state.writer = .ended cause)
    (hReaches : Reaches step state state') :
    state'.writer = .ended cause ∧
      state'.wire = state.wire := by
  refine hReaches.invariant
    (fun now =>
      now.writer = .ended cause ∧ now.wire = state.wire)
    ?_ ⟨hEnded, rfl⟩
  rintro before action after ⟨hBefore, hWire⟩ hStep
  rcases (step_cases hStep).ended hBefore with
    ⟨hAfter, hSame⟩
  exact ⟨hAfter, hSame.trans hWire⟩

------------------------------------------------------------
-- Accepted Messages on the Wire
------------------------------------------------------------

/-
  What is on the wire of the current message is a proper
  prefix of its encoding.
-/
theorem SendInvariant.sent_cases
    (hState : SendInvariant protocol settings state) :
    state.writer.sent = [] ∨
      ∃ message rest,
        state.writer.current = [message] ∧ rest ≠ [] ∧
          Encodes protocol message
            (state.writer.sent ++ rest) := by
  cases hWriter : state.writer with
  | writing message sent rest =>
      exact Or.inr
        ⟨message, rest, rfl,
          hState.unfinished message sent rest hWriter,
          hState.writing message sent rest hWriter⟩
  | ended cause =>
      cases cause with
      | writeError message sent =>
          rcases hState.failed message sent hWriter with
            ⟨rest, hRest, hEncodes⟩
          exact Or.inr
            ⟨message, rest, rfl, hRest, hEncodes⟩
      | channelClosed => exact Or.inl rfl
      | protocolError message => exact Or.inl rfl
      | flushError => exact Or.inl rfl
  | receiving => exact Or.inl rfl
  | locking message => exact Or.inl rfl
  | flushing => exact Or.inl rfl

/-
  Messages are taken in the order in which they were
  accepted.  Behind the settings frame the wire holds the
  whole encodings of all messages taken so far but those
  whose lock wait timed out and the current one, followed by
  a proper prefix of the encoding of the current one.
  Messages are discarded only when the write task ends,
  which it never does for want of an encoding and after
  which it writes nothing; a refused call changes nothing.
-/
theorem sent_in_order
    (config : WaveshareUsbCanA.Config)
    (port : SerialWrite)
    (settings : List UInt8)
    (start state : SplitMode WaveshareUsbCanA)
    (hSplit :
      split WaveshareUsbCanA.protocol config port =
        .ok (.ok start, settings))
    (hReaches : Reaches step start state) :
    state.accepted =
        state.dequeued ++ state.frames.queue ++
          state.discarded ∧
      (∃ whole,
        List.Forall₂ (Encodes WaveshareUsbCanA.protocol)
            state.completed whole ∧
          state.wire =
            settings ++ whole.flatten ++
              state.writer.sent) ∧
      (state.writer.sent = [] ∨
        ∃ message rest,
          state.writer.current = [message] ∧ rest ≠ [] ∧
            Encodes WaveshareUsbCanA.protocol message
              (state.writer.sent ++ rest)) ∧
      (state.discarded ≠ [] →
        ∃ cause, state.writer = .ended cause) ∧
      (∀ message,
        state.writer ≠ .ended (.protocolError message)) ∧
      (∀ cause, state.writer = .ended cause →
        ∀ later, Reaches step state later →
          later.wire = state.wire) ∧
      ∀ {F : Type} [Frame F] (frame : F) error after,
        (state.send frame =
              .ok (some (.error error, after)) ∨
            state.trySend frame =
              .ok (some (.error error, after))) →
          after = state := by
  have hState := reaches_sendInvariant hSplit hReaches
  refine ⟨hState.order, hState.wire, hState.sent_cases, ?_,
    hState.encodable, ?_, ?_⟩
  · intro hDiscarded
    by_contra hRunning
    rw [not_exists] at hRunning
    exact hDiscarded (hState.kept (hState.alive hRunning))
  · intro cause hEnded later hLater
    exact (reaches_ended hEnded hLater).2
  · rintro F _ frame error after (hSend | hSend)
    · rcases send_cases hSend with
        ⟨_, hSame⟩ | ⟨hOk, _⟩
      · exact hSame
      · cases hOk
    · rcases trySend_cases hSend with
        ⟨_, hSame⟩ | ⟨hOk, _⟩
      · exact hSame
      · cases hOk

end SplitMode

end UsbCan

namespace UsbCan

namespace SplitMode

/- Two accepted messages, one lock timeout, one failed write. -/
theorem sent_in_order_on_example :
    letI := rangedIds
    ∃ state : SplitMode WaveshareUsbCanA,
      state.accepted.length = 2 ∧
        state.completed = [] ∧
        state.writer.sent.length = 3 ∧
        ∃ message rest,
          state.writer.current = [message] ∧ rest ≠ [] ∧
            Encodes WaveshareUsbCanA.protocol message
              (state.writer.sent ++ rest) := by
  let _ : EmbeddedCan := rangedIds
  let frame : DataFrame :=
    ⟨.standard ⟨0x123, by decide⟩, [0x11], by decide⟩
  have hRun :
      ∃ start settings state,
        split WaveshareUsbCanA.protocol
            ({} : WaveshareUsbCanA.Config) .complete =
          .ok (.ok start, settings) ∧
        runActions step
            [.user (.send frame.message),
              .user (.trySend frame.message),
              .writer .recv, .writer .lockTimeout,
              .writer .recv, .writer .lock,
              .writer (.write 3), .writer .writeError]
            start =
          .ok (some state) ∧
        state.accepted.length = 2 ∧
        state.completed = [] ∧
        state.writer.sent.length = 3 :=
    ⟨_, _, _, rfl, rfl, rfl, rfl, rfl⟩
  rcases hRun with
    ⟨start, settings, state, hSplit, hRun, hAccepted,
      hCompleted, hSent⟩
  have hOrder :=
    sent_in_order {} .complete settings start state hSplit
      (reaches_of_runActions hRun)
  refine ⟨state, hAccepted, hCompleted, hSent, ?_⟩
  rcases hOrder.2.2.1 with hNothing | hCut
  · rw [hNothing] at hSent
    cases hSent
  · exact hCut

end SplitMode

end UsbCan

------------------------------------------------------------
-- A New Split Mode
------------------------------------------------------------

namespace UsbCan

namespace SplitMode

open WaveshareUsbCanA

/- A new split mode over the default configuration. -/
def fresh [EmbeddedCan] : SplitMode WaveshareUsbCanA where
  lock := .free
  transport :=
    ⟨.protocol, FixedArray.replicate rxSize 0, 0,
      FixedArray.replicate tempSize 0⟩
  reader := .acquiring
  writer := .receiving
  frames := Channel.bounded channelSize
  messages := Channel.bounded channelSize
  taken := []
  wire := settingsFrame {}
  accepted := []
  handled := []
  discarded := []
  consumed := []

theorem split_fresh [EmbeddedCan] :
    split WaveshareUsbCanA.protocol ({} : Config)
        .complete =
      .ok (.ok fresh, settingsFrame {}) := rfl

end SplitMode

end UsbCan
