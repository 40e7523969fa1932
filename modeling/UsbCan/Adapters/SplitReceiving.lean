import UsbCan.Adapters.SplitSteps
import UsbCan.Adapters.Receiving
import UsbCan.Protocol.Parser

/-
  Received messages in split mode.

  A received frame moves from the byte buffer to the read
  task, into the message channel and to the consumer.  While
  the receiver is alive, these four places together hold
  exactly what the received bytes yield, in order.

  Main declarations:
    * `ReadTask.held`
    * `ReceiveInvariant`
    * `received_conserved`
-/

open Checked Framing

------------------------------------------------------------
-- The Receive Invariant
------------------------------------------------------------

namespace UsbCan

variable [EmbeddedCan]

/- The message the read task holds while it pushes it. -/
def ReadTask.held : ReadTask → List CanMessage
| .pushing message => [message]
| _ => []

namespace SplitMode

variable {P : Type} [Protocol P] [ScanningProtocol P]

/-
  The transport has delivered `delivered`.  Where the read
  task waits for the port or has seen it fail, the buffer is
  exhausted.  While the receiver is alive, what was
  delivered is with the consumer, in the channel or with the
  read task.
-/
structure ReceiveInvariant
    (protocol : P)
    (delivered : List CanMessage)
    (state : SplitMode P) :
    Prop where
  receives :
    state.transport.Receives protocol state.taken delivered
  waiting :
    state.reader = .waiting →
      state.transport.Exhausted protocol
  ended :
    state.reader = .ended .serialError →
      state.transport.Exhausted protocol
  accounted :
    state.messages.receiverAlive = true →
      delivered =
        state.consumed ++ state.messages.queue ++
          state.reader.held

variable {protocol : P} {delivered : List CanMessage}
variable {state state' : SplitMode P}

/-
  A read task that neither waits for the port nor has seen
  it fail owes nothing about the buffer.
-/
theorem ReceiveInvariant.of_busy
    (hReceives :
      state.transport.Receives protocol state.taken delivered)
    (hWaiting : state.reader ≠ .waiting)
    (hEnded : state.reader ≠ .ended .serialError)
    (hAccounted :
      state.messages.receiverAlive = true →
        delivered =
          state.consumed ++ state.messages.queue ++
            state.reader.held) :
    ReceiveInvariant protocol delivered state := by
  constructor
  · exact hReceives
  · intro hReader
    exact absurd hReader hWaiting
  · intro hReader
    exact absurd hReader hEnded
  · exact hAccounted

/- A step of the read task keeps the invariant. -/
theorem ReadStep.receiveInvariant
    (hStep : ReadStep state state')
    (hState : ReceiveInvariant protocol delivered state) :
    ∃ delivered',
      ReceiveInvariant protocol delivered' state' := by
  have hReceives := hState.receives
  have hAccounted := hState.accounted
  cases hStep with
  | locked hReader hLock =>
      rw [hReader] at hAccounted
      exact ⟨delivered,
        .of_busy hReceives (by simp) (by simp) hAccounted⟩
  | retried hReader =>
      exact ⟨delivered, hState⟩
  | @found message transport hReader hScan =>
      rw [hReader] at hAccounted
      rcases hReceives.tryReadFrame with
        ⟨message', transport', hFound, hNext, _⟩
      rw [hScan] at hFound
      cases hFound
      refine ⟨delivered ++ [message],
        .of_busy hNext (by simp) (by simp) ?_⟩
      intro hAlive
      simp only [hAccounted hAlive, ReadTask.held,
        List.append_nil]
  | @nothing transport hReader hScan =>
      rw [hReader] at hAccounted
      rcases hReceives.tryReadFrame with
        ⟨message', transport', hFound, hNext, hExhausted⟩
      rw [hScan] at hFound
      cases hFound
      rw [Option.toList_none, List.append_nil] at hNext
      refine ⟨delivered, hNext, ?_, ?_, hAccounted⟩
      · intro _
        exact hExhausted rfl
      · intro hReader
        cases hReader
  | @arrived event transport hReader hAwait =>
      rw [hReader] at hAccounted
      rcases hReceives.awaitSerial (hState.waiting hReader)
          event with
        ⟨error, hDone, _⟩ | ⟨transport', hNext, hMore⟩
      · rw [hAwait] at hDone
        cases hDone
      · rw [hAwait] at hNext
        cases hNext
        exact ⟨delivered,
          .of_busy hMore (by simp) (by simp) hAccounted⟩
  | @timedOut event hReader hAwait =>
      rw [hReader] at hAccounted
      rcases hReceives.awaitSerial (hState.waiting hReader)
          event with
        ⟨error, hDone, hBytes⟩ | ⟨transport', hNext, _⟩
      · refine ⟨delivered,
          .of_busy ?_ (by simp) (by simp) hAccounted⟩
        simpa only [hBytes, List.append_nil] using hReceives
      · rw [hAwait] at hNext
        cases hNext
  | @failed event error hReader hAwait =>
      have hExhausted := hState.waiting hReader
      rw [hReader] at hAccounted
      rcases hReceives.awaitSerial hExhausted event with
        ⟨error', hDone, hBytes⟩ | ⟨transport', hNext, _⟩
      · refine ⟨delivered, ?_, ?_, ?_, hAccounted⟩
        · simpa only [hBytes, List.append_nil] using
            hReceives
        · intro hWaiting
          cases hWaiting
        · intro _
          exact hExhausted
      · rw [hAwait] at hNext
        cases hNext
  | @pushed message messages hReader hSend =>
      rw [hReader] at hAccounted
      rcases Channel.send_eq_ok hSend with
        ⟨hAlive, hFree, rfl⟩
      refine ⟨delivered,
        .of_busy hReceives (by simp) (by simp) ?_⟩
      intro _
      rw [hAccounted hAlive]
      simp [ReadTask.held]
  | @closed message back hReader hSend =>
      have hGone := Channel.send_eq_error hSend
      refine ⟨delivered,
        .of_busy hReceives (by simp) (by simp) ?_⟩
      intro hAlive
      exact absurd (hGone.symm.trans hAlive) Bool.false_ne_true

/-
  Two states that agree on the receive side: the transport,
  the read task, its channel and the received bytes and
  messages.
-/
structure SameReceiveSide
    (state state' : SplitMode P) :
    Prop where
  transport : state'.transport = state.transport
  reader : state'.reader = state.reader
  messages : state'.messages = state.messages
  taken : state'.taken = state.taken
  consumed : state'.consumed = state.consumed

theorem SameReceiveSide.receiveInvariant
    (hSame : SameReceiveSide state state')
    (hState : ReceiveInvariant protocol delivered state) :
    ReceiveInvariant protocol delivered state' := by
  rcases hState with
    ⟨hReceives, hWaiting, hEnded, hAccounted⟩
  constructor
  · rw [hSame.transport, hSame.taken]
    exact hReceives
  · rw [hSame.transport, hSame.reader]
    exact hWaiting
  · rw [hSame.transport, hSame.reader]
    exact hEnded
  · rw [hSame.messages, hSame.consumed, hSame.reader]
    exact hAccounted

/- The write task leaves the receive side alone. -/
omit [ScanningProtocol P] in
theorem WriteStep.sameReceiveSide
    (hStep : WriteStep state state') :
    SameReceiveSide state state' := by
  cases hStep with
  | began _ _ _ =>
      unfold continueWriting
      split <;> exact ⟨rfl, rfl, rfl, rfl, rfl⟩
  | wrote _ _ _ =>
      unfold continueWriting
      split <;> exact ⟨rfl, rfl, rfl, rfl, rfl⟩
  | _ => exact ⟨rfl, rfl, rfl, rfl, rfl⟩

/- A step of a sender or the consumer keeps the invariant. -/
theorem UserStep.receiveInvariant
    (hStep : UserStep state state')
    (hState : ReceiveInvariant protocol delivered state) :
    ReceiveInvariant protocol delivered state' := by
  have hAccounted := hState.accounted
  cases hStep with
  | @took message messages hRecv =>
      rcases Channel.recv_eq_some hRecv with
        ⟨hQueue, hAlive⟩
      refine ⟨hState.receives, hState.waiting, hState.ended,
        ?_⟩
      intro hStill
      rw [hAlive] at hStill
      rw [hAccounted hStill, hQueue]
      simp
  | left =>
      refine ⟨hState.receives, hState.waiting, hState.ended,
        ?_⟩
      intro hAlive
      exact absurd hAlive Bool.false_ne_true
  | _ =>
      exact ⟨hState.receives, hState.waiting, hState.ended,
        hAccounted⟩

/- Every step of any process keeps the invariant. -/
theorem SplitStep.receiveInvariant
    (hStep : SplitStep state state')
    (hState : ReceiveInvariant protocol delivered state) :
    ∃ delivered',
      ReceiveInvariant protocol delivered' state' := by
  cases hStep with
  | reader hStep => exact hStep.receiveInvariant hState
  | writer hStep =>
      exact ⟨delivered,
        hStep.sameReceiveSide.receiveInvariant hState⟩
  | user hStep =>
      exact ⟨delivered, hStep.receiveInvariant hState⟩

/- A new split mode has received nothing. -/
theorem split_receiveInvariant
    {config : Protocol.Config P}
    {port : SerialWrite}
    {settings : List UInt8}
    (hSplit :
      split protocol config port = .ok (.ok state, settings)) :
    ReceiveInvariant protocol [] state := by
  rcases bind_eq_ok_iff.mp hSplit with
    ⟨⟨result, bytes⟩, hTransport, hRest⟩
  cases result with
  | error error => cases hRest
  | ok transport =>
      cases hRest
      rcases bind_eq_ok_iff.mp hTransport with
        ⟨⟨told, sent⟩, _, hDone⟩
      cases told with
      | error error => cases hDone
      | ok done =>
          cases hDone
          apply ReceiveInvariant.of_busy
          · exact Transport.Receives.start rfl rfl
          · simp
          · simp
          · intro _
            rfl

/- Every state of a run of split mode. -/
theorem reaches_receiveInvariant
    {config : Protocol.Config P}
    {port : SerialWrite}
    {settings : List UInt8}
    {start : SplitMode P}
    (hSplit :
      split protocol config port = .ok (.ok start, settings))
    (hReaches : Reaches step start state) :
    ∃ delivered,
      ReceiveInvariant protocol delivered state := by
  have hStart :
      ∃ delivered,
        ReceiveInvariant protocol delivered start :=
    ⟨[], split_receiveInvariant hSplit⟩
  refine hReaches.invariant
    (fun now =>
      ∃ delivered,
        ReceiveInvariant protocol delivered now)
    ?_ hStart
  rintro before action after ⟨delivered, hBefore⟩ hStep
  exact (step_cases hStep).receiveInvariant hBefore

------------------------------------------------------------
-- Conservation of Received Messages
------------------------------------------------------------

/-
  No received message is lost, duplicated or reordered while
  the receiver is alive, and when the read task has ended on
  a serial error no deliverable message is left behind.
-/
theorem received_conserved
    (config : WaveshareUsbCanA.Config)
    (port : SerialWrite)
    (settings : List UInt8)
    (start state : SplitMode WaveshareUsbCanA)
    (hSplit :
      split WaveshareUsbCanA.protocol config port =
        .ok (.ok start, settings))
    (hReaches : Reaches step start state)
    (hAlive : state.messages.receiverAlive = true) :
    (∃ kept,
        drain WaveshareUsbCanA.protocol
            state.transport.buffered =
          .ok kept ∧
        drain WaveshareUsbCanA.protocol state.taken =
          .ok (state.consumed ++ state.messages.queue ++
            state.reader.held ++ kept)) ∧
      (state.reader = .ended .serialError →
        drain WaveshareUsbCanA.protocol state.taken =
          .ok (state.consumed ++ state.messages.queue)) := by
  rcases reaches_receiveInvariant hSplit hReaches with
    ⟨delivered, hState⟩
  have hAccounted := hState.accounted hAlive
  refine ⟨?_, ?_⟩
  · rw [← hAccounted]
    exact hState.receives.drain
  · intro hEnded
    have hNothing : state.reader.held = [] := by
      rw [hEnded]
      rfl
    rw [hNothing, List.append_nil] at hAccounted
    rw [← hAccounted]
    exact hState.receives.drain_exhausted
      (hState.ended hEnded)

end SplitMode

end UsbCan

namespace UsbCan

namespace SplitMode

/- A frame on its way, and a read task that has failed. -/
theorem received_conserved_on_example :
    letI := rangedIds
    ∃ state : SplitMode WaveshareUsbCanA,
      state.consumed.length = 1 ∧
        state.reader = .ended .serialError ∧
        drain WaveshareUsbCanA.protocol state.taken =
          .ok (state.consumed ++ state.messages.queue) := by
  let _ : EmbeddedCan := rangedIds
  have hRun :
      ∃ start settings state,
        split WaveshareUsbCanA.protocol
            ({} : WaveshareUsbCanA.Config) .complete =
          .ok (.ok start, settings) ∧
        runActions step
            [.reader .lock, .reader .scan,
              .reader (.wait (.data
                ⟨[0xAA, 0xC1, 0x23, 0x01, 0x11, 0x55],
                  by decide⟩)),
              .reader .scan, .reader .push,
              .user .receive, .reader .lock,
              .reader .scan, .reader (.wait .failed)]
            start =
          .ok (some state) ∧
        state.consumed.length = 1 ∧
        state.reader = .ended .serialError ∧
        state.messages.receiverAlive = true :=
    ⟨_, _, _, rfl, rfl, rfl, rfl, rfl⟩
  rcases hRun with
    ⟨start, settings, state, hSplit, hRun, hConsumed,
      hEnded, hAlive⟩
  have hConserved :=
    received_conserved {} .complete settings start state
      hSplit (reaches_of_runActions hRun) hAlive
  exact ⟨state, hConsumed, hEnded, hConserved.2 hEnded⟩

end SplitMode

end UsbCan
