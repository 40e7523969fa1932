import UsbCan.Adapters.Split

/-
  What one step of split mode can do.

  `ReadStep`, `WriteStep` and `UserStep` list the outcomes
  of a step with the conditions under which they occur;
  every step of the tasks and users is one of them.

  Main declarations:
    * `ReadStep`, `readTask_step`
    * `WriteStep`, `writeTask_step`
    * `UserStep`, `user_step`
-/

open Checked

------------------------------------------------------------
-- Steps of the Read Task
------------------------------------------------------------

namespace UsbCan

namespace SplitMode

variable [EmbeddedCan]
variable {P : Type} [Protocol P]

/-
  The read task gets the lock or tries again, finds a
  message or nothing, receives bytes, times out or fails,
  and pushes its message or finds the channel closed.
-/
inductive ReadStep
    (state : SplitMode P) :
    SplitMode P → Prop where
| locked :
    state.reader = .acquiring → state.lock = .free →
      ReadStep state
        { state with
          lock := .readTask
          reader := .scanning }
| retried :
    state.reader = .acquiring → ReadStep state state
| found {message : CanMessage} {transport : Transport P} :
    state.reader = .scanning →
      state.transport.tryReadFrame =
          .ok (some message, transport) →
        ReadStep state
          { state with
            lock := .free
            transport := transport
            reader := .pushing message }
| nothing {transport : Transport P} :
    state.reader = .scanning →
      state.transport.tryReadFrame =
          .ok (none, transport) →
        ReadStep state
          { state with
            transport := transport
            reader := .waiting }
| arrived {event : ReadEvent} {transport : Transport P} :
    state.reader = .waiting →
      state.transport.awaitSerial event =
          .ok (.next transport) →
        ReadStep state
          { state with
            transport := transport
            reader := .scanning
            taken := state.taken ++ event.bytes }
| timedOut {event : ReadEvent} :
    state.reader = .waiting →
      state.transport.awaitSerial event =
          .ok (.done .readTimeout) →
        ReadStep state
          { state with
            lock := .free
            reader := .acquiring
            taken := state.taken ++ event.bytes }
| failed {event : ReadEvent} {error : ClientError} :
    state.reader = .waiting →
      state.transport.awaitSerial event =
          .ok (.done error) →
        ReadStep state
          { state with
            lock := .free
            reader := .ended .serialError
            messages := state.messages.dropSender
            taken := state.taken ++ event.bytes }
| pushed {message : CanMessage}
    {messages : Channel CanMessage} :
    state.reader = .pushing message →
      state.messages.send message = some (.ok messages) →
        ReadStep state
          { state with
            reader := .acquiring
            messages := messages }
| closed {message back : CanMessage} :
    state.reader = .pushing message →
      state.messages.send message = some (.error back) →
        ReadStep state
          { state with
            reader := .ended .channelClosed
            messages := state.messages.dropSender }

/- Only a running read task makes a step. -/
theorem ReadStep.running
    {state state' : SplitMode P}
    (hStep : ReadStep state state')
    (cause : ReadEnd) :
    state.reader ≠ .ended cause := by
  intro hEnded
  cases hStep with
  | locked hReader _ => cases hReader.symm.trans hEnded
  | retried hReader => cases hReader.symm.trans hEnded
  | found hReader _ => cases hReader.symm.trans hEnded
  | nothing hReader _ => cases hReader.symm.trans hEnded
  | arrived hReader _ => cases hReader.symm.trans hEnded
  | timedOut hReader _ => cases hReader.symm.trans hEnded
  | failed hReader _ => cases hReader.symm.trans hEnded
  | pushed hReader _ => cases hReader.symm.trans hEnded
  | closed hReader _ => cases hReader.symm.trans hEnded

theorem readTask_step
    {state state' : SplitMode P}
    {action : ReadAction}
    (hStep :
      state.readTask action = .ok (some state')) :
    ReadStep state state' := by
  cases action with
  | lock =>
      cases hReader : state.reader <;>
        cases hLock : state.lock <;>
        simp only [readTask, hReader, hLock, pure_eq_ok,
          Except.ok.injEq, Option.some.injEq,
          reduceCtorEq] at hStep
      subst hStep
      exact .locked hReader hLock
  | lockTimeout =>
      cases hReader : state.reader <;>
        simp only [readTask, hReader, pure_eq_ok,
          Except.ok.injEq, Option.some.injEq,
          reduceCtorEq] at hStep
      subst hStep
      exact .retried hReader
  | scan =>
      cases hReader : state.reader <;>
        simp only [readTask, hReader, pure_eq_ok,
          Except.ok.injEq, reduceCtorEq] at hStep
      rcases bind_eq_ok_iff.mp hStep with
        ⟨⟨message, transport⟩, hScan, hRest⟩
      cases message with
      | some message =>
          cases hRest
          exact .found hReader hScan
      | none =>
          cases hRest
          exact .nothing hReader hScan
  | wait event =>
      cases hReader : state.reader <;>
        simp only [readTask, hReader, pure_eq_ok,
          Except.ok.injEq, reduceCtorEq] at hStep
      rcases bind_eq_ok_iff.mp hStep with
        ⟨control, hAwait, hRest⟩
      cases control with
      | next transport =>
          cases hRest
          exact .arrived hReader hAwait
      | done error =>
          cases error with
          | readTimeout =>
              cases hRest
              exact .timedOut hReader hAwait
          | _ =>
              cases hRest
              exact .failed hReader hAwait
  | push =>
      cases hReader : state.reader <;>
        simp only [readTask, hReader, pure_eq_ok,
          Except.ok.injEq, reduceCtorEq] at hStep
      rename_i message
      cases hSend : state.messages.send message with
      | none =>
          simp [hSend] at hStep
      | some sent =>
          cases sent with
          | error back =>
              simp only [hSend, Except.ok.injEq,
                Option.some.injEq] at hStep
              subst hStep
              exact .closed hReader hSend
          | ok messages =>
              simp only [hSend, Except.ok.injEq,
                Option.some.injEq] at hStep
              subst hStep
              exact .pushed hReader hSend

------------------------------------------------------------
-- Steps of the Write Task
------------------------------------------------------------

/-
  The write task receives a message or learns that there are
  no more, begins to write, finds no encoding or times out,
  writes some bytes or fails, and flushes or fails.
-/
inductive WriteStep
    (state : SplitMode P) :
    SplitMode P → Prop where
| received {message : CanMessage}
    {frames : Channel CanMessage} :
    state.writer = .receiving →
      state.frames.recv = some (some message, frames) →
        WriteStep state
          { state with
            writer := .locking message
            frames := frames }
| finished {frames : Channel CanMessage} :
    state.writer = .receiving →
      state.frames.recv = some (none, frames) →
        WriteStep state (state.endWriter .channelClosed)
| began {message : CanMessage} {bytes : List UInt8} :
    state.writer = .locking message → state.lock = .free →
      state.transport.frameBytes message =
          .ok (.ok bytes) →
        WriteStep state
          ({ state with
            lock := .writeTask }.continueWriting
              message [] bytes)
| refused {message : CanMessage} {error : ClientError} :
    state.writer = .locking message → state.lock = .free →
      state.transport.frameBytes message =
          .ok (.error error) →
        WriteStep state
          (state.endWriter (.protocolError message))
| timedOut {message : CanMessage} :
    state.writer = .locking message →
      WriteStep state
        { state with
          writer := .receiving
          handled :=
            state.handled ++ [(message, .timedOut)] }
| wrote {message : CanMessage} {sent rest : List UInt8}
    {count : Nat} :
    state.writer = .writing message sent rest →
      0 < count → count ≤ rest.length →
        WriteStep state
          ({ state with
            wire := state.wire ++ rest.take count
          }.continueWriting message
              (sent ++ rest.take count)
              (rest.drop count))
| failed {message : CanMessage} {sent rest : List UInt8} :
    state.writer = .writing message sent rest →
      WriteStep state
        (state.endWriter (.writeError message sent))
| flushed :
    state.writer = .flushing →
      WriteStep state
        { state with
          lock := .free
          writer := .receiving }
| notFlushed :
    state.writer = .flushing →
      WriteStep state (state.endWriter .flushError)

/- Only a running write task makes a step. -/
theorem WriteStep.running
    {state state' : SplitMode P}
    (hStep : WriteStep state state')
    (cause : WriteEnd) :
    state.writer ≠ .ended cause := by
  intro hEnded
  cases hStep with
  | received hWriter _ => cases hWriter.symm.trans hEnded
  | finished hWriter _ => cases hWriter.symm.trans hEnded
  | began hWriter _ _ => cases hWriter.symm.trans hEnded
  | refused hWriter _ _ => cases hWriter.symm.trans hEnded
  | timedOut hWriter => cases hWriter.symm.trans hEnded
  | wrote hWriter _ _ => cases hWriter.symm.trans hEnded
  | failed hWriter => cases hWriter.symm.trans hEnded
  | flushed hWriter => cases hWriter.symm.trans hEnded
  | notFlushed hWriter => cases hWriter.symm.trans hEnded

theorem writeTask_step
    {state state' : SplitMode P}
    {action : WriteAction}
    (hStep :
      state.writeTask action = .ok (some state')) :
    WriteStep state state' := by
  cases action with
  | recv =>
      cases hWriter : state.writer <;>
        simp only [writeTask, hWriter, pure_eq_ok,
          Except.ok.injEq, reduceCtorEq] at hStep
      cases hRecv : state.frames.recv with
      | none =>
          simp [hRecv] at hStep
      | some received =>
          rcases received with ⟨_ | message, frames⟩
          · simp only [hRecv, Except.ok.injEq,
              Option.some.injEq] at hStep
            subst hStep
            exact .finished hWriter hRecv
          · simp only [hRecv, Except.ok.injEq,
              Option.some.injEq] at hStep
            subst hStep
            exact .received hWriter hRecv
  | lock =>
      cases hWriter : state.writer <;>
        cases hLock : state.lock <;>
        simp only [writeTask, hWriter, hLock, pure_eq_ok,
          Except.ok.injEq, reduceCtorEq] at hStep
      rcases bind_eq_ok_iff.mp hStep with
        ⟨built, hBuilt, hRest⟩
      cases built with
      | error error =>
          cases hRest
          exact .refused hWriter hLock hBuilt
      | ok bytes =>
          cases hRest
          exact .began hWriter hLock hBuilt
  | lockTimeout =>
      cases hWriter : state.writer <;>
        simp only [writeTask, hWriter, pure_eq_ok,
          Except.ok.injEq, Option.some.injEq,
          reduceCtorEq] at hStep
      subst hStep
      exact .timedOut hWriter
  | write count =>
      cases hWriter : state.writer <;>
        simp only [writeTask, hWriter, pure_eq_ok,
          Except.ok.injEq, reduceCtorEq] at hStep
      rename_i message sent rest
      by_cases hCount : 0 < count ∧ count ≤ rest.length
      · rw [if_pos hCount] at hStep
        cases hStep
        exact .wrote hWriter hCount.1 hCount.2
      · rw [if_neg hCount] at hStep
        cases hStep
  | writeError =>
      cases hWriter : state.writer <;>
        simp only [writeTask, hWriter, pure_eq_ok,
          Except.ok.injEq, Option.some.injEq,
          reduceCtorEq] at hStep
      subst hStep
      exact .failed hWriter
  | flush =>
      cases hWriter : state.writer <;>
        simp only [writeTask, hWriter, pure_eq_ok,
          Except.ok.injEq, Option.some.injEq,
          reduceCtorEq] at hStep
      subst hStep
      exact .flushed hWriter
  | flushError =>
      cases hWriter : state.writer <;>
        simp only [writeTask, hWriter, pure_eq_ok,
          Except.ok.injEq, Option.some.injEq,
          reduceCtorEq] at hStep
      subst hStep
      exact .notFlushed hWriter

end SplitMode

end UsbCan

------------------------------------------------------------
-- Steps of the Users
------------------------------------------------------------

namespace UsbCan

namespace SplitMode

variable [EmbeddedCan]
variable {P : Type}

/-
  A sender's call enqueues a message, a sender comes or
  goes, and the consumer takes a message or drops its
  receiver.  A refused call and the end of the messages
  change nothing.
-/
inductive UserStep
    (state : SplitMode P) :
    SplitMode P → Prop where
| unchanged : UserStep state state
| accepted {message : CanMessage}
    (hFree :
      state.frames.queue.length < state.frames.capacity) :
    message.Built → state.frames.receiverAlive = true →
      UserStep state
        { state with
          frames := state.frames.push message hFree
          accepted := state.accepted ++ [message] }
| cloned :
    UserStep state
      { state with frames := state.frames.addSender }
| dropped :
    UserStep state
      { state with frames := state.frames.dropSender }
| took {message : CanMessage}
    {messages : Channel CanMessage} :
    state.messages.recv = some (some message, messages) →
      UserStep state
        { state with
          messages := messages
          consumed := state.consumed ++ [message] }
| left :
    UserStep state
      { state with messages := state.messages.dropReceiver }

/- A sender's call that is refused leaves all as it was. -/
theorem enqueued_cases
    {state : SplitMode P}
    {result : Except ClientError Unit}
    {frames : Channel CanMessage}
    (hSent : CanUsbSender.Sent state.frames result frames) :
    ((∃ error, result = .error error) ∧
        state.enqueued frames = state) ∨
      (result = .ok () ∧
        UserStep state (state.enqueued frames)) := by
  rcases hSent with
    ⟨error, hResult, rfl⟩ |
    ⟨message, hFree, hResult, hBuilt, hAlive, rfl⟩
  · refine Or.inl ⟨⟨error, hResult⟩, ?_⟩
    simp [enqueued]
  · refine Or.inr ⟨hResult, ?_⟩
    have hGained :
        (state.frames.push message hFree).queue.drop
            state.frames.queue.length =
          [message] := by
      simp
    unfold enqueued
    rw [hGained]
    exact .accepted hFree hBuilt hAlive

theorem send_cases
    {F : Type} [Frame F]
    {state state' : SplitMode P}
    {frame : F}
    {result : Except ClientError Unit}
    (hSend :
      state.send frame = .ok (some (result, state'))) :
    ((∃ error, result = .error error) ∧ state' = state) ∨
      (result = .ok () ∧ UserStep state state') := by
  unfold send at hSend
  split at hSend
  · cases hSend
  · rcases bind_eq_ok_iff.mp hSend with
      ⟨outcome, hChannel, hRest⟩
    cases outcome with
    | none => cases hRest
    | some sent =>
        rcases sent with ⟨told, frames⟩
        cases hRest
        exact enqueued_cases
          (CanUsbSender.send_cases hChannel)

theorem trySend_cases
    {F : Type} [Frame F]
    {state state' : SplitMode P}
    {frame : F}
    {result : Except ClientError Unit}
    (hSend :
      state.trySend frame = .ok (some (result, state'))) :
    ((∃ error, result = .error error) ∧ state' = state) ∨
      (result = .ok () ∧ UserStep state state') := by
  unfold trySend at hSend
  split at hSend
  · cases hSend
  · rcases bind_eq_ok_iff.mp hSend with
      ⟨⟨told, frames⟩, hChannel, hRest⟩
    cases hRest
    exact enqueued_cases
      (CanUsbSender.trySend_cases hChannel)

theorem user_step
    {state state' : SplitMode P}
    {action : UserAction}
    (hStep : state.user action = .ok (some state')) :
    UserStep state state' := by
  cases action with
  | send frame =>
      rcases bind_eq_ok_iff.mp hStep with
        ⟨outcome, hSend, hRest⟩
      cases outcome with
      | none => cases hRest
      | some sent =>
          rcases sent with ⟨told, after⟩
          cases hRest
          rcases send_cases hSend with
            ⟨_, rfl⟩ | ⟨_, hAccepted⟩
          · exact .unchanged
          · exact hAccepted
  | trySend frame =>
      rcases bind_eq_ok_iff.mp hStep with
        ⟨outcome, hSend, hRest⟩
      cases outcome with
      | none => cases hRest
      | some sent =>
          rcases sent with ⟨told, after⟩
          cases hRest
          rcases trySend_cases hSend with
            ⟨_, rfl⟩ | ⟨_, hAccepted⟩
          · exact .unchanged
          · exact hAccepted
  | cloneSender =>
      rw [user] at hStep
      split at hStep
      · cases hStep
      · cases hStep
        exact .cloned
  | dropSender =>
      rw [user] at hStep
      split at hStep
      · cases hStep
      · cases hStep
        exact .dropped
  | receive =>
      rw [user] at hStep
      split at hStep
      · cases hRecv : state.messages.recv with
        | none =>
            simp [hRecv] at hStep
        | some received =>
            rcases received with ⟨_ | message, messages⟩
            · simp only [hRecv] at hStep
              cases hStep
              exact .unchanged
            · simp only [hRecv] at hStep
              cases hStep
              exact .took hRecv
      · cases hStep
  | dropReceiver =>
      rw [user] at hStep
      split at hStep
      · cases hStep
        exact .left
      · cases hStep

------------------------------------------------------------
-- Steps of Split Mode
------------------------------------------------------------

variable [Protocol P]

/- A step of one of the two tasks or of a user. -/
inductive SplitStep
    (state state' : SplitMode P) :
    Prop where
| reader : ReadStep state state' → SplitStep state state'
| writer : WriteStep state state' → SplitStep state state'
| user : UserStep state state' → SplitStep state state'

theorem step_cases
    {state state' : SplitMode P}
    {action : Action}
    (hStep : step state action = .ok (some state')) :
    SplitStep state state' := by
  cases action with
  | reader action => exact .reader (readTask_step hStep)
  | writer action => exact .writer (writeTask_step hStep)
  | user action => exact .user (user_step hStep)

end SplitMode

end UsbCan
