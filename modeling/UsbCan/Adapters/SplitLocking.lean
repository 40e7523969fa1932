import UsbCan.Adapters.SplitSending

/-
  The lock and the channel ends of split mode.

  The lock is held by the task that is inside its critical
  section and by no other; the read task is never inside
  while it waits for a place in the message channel.  A
  channel loses its end when the task that owns it returns,
  and its capacity never changes.

  Key definitions include:
    * `ReadTask.Inside`, `WriteTask.Inside`
    * `ReadTask.Ended`, `WriteTask.Ended`
    * `LockInvariant`
    * `ChannelInvariant`

  Main declarations:
    * `reaches_lockInvariant`
    * `reaches_channelInvariant`
    * `lock_discipline`
-/

open Checked

------------------------------------------------------------
-- Critical Sections
------------------------------------------------------------

namespace UsbCan

variable [EmbeddedCan]

/- The read task looks into the buffer or waits for bytes. -/
def ReadTask.Inside : ReadTask → Prop
| .scanning => True
| .waiting => True
| _ => False

/- The write task writes or flushes. -/
def WriteTask.Inside : WriteTask → Prop
| .writing _ _ _ => True
| .flushing => True
| _ => False

def ReadTask.Ended (task : ReadTask) : Prop :=
  ∃ cause, task = .ended cause

def WriteTask.Ended (task : WriteTask) : Prop :=
  ∃ cause, task = .ended cause

namespace SplitMode

variable {P : Type}

/- Each task holds the lock exactly inside its section. -/
structure LockInvariant (state : SplitMode P) : Prop where
  reader : state.lock = .readTask ↔ state.reader.Inside
  writer : state.lock = .writeTask ↔ state.writer.Inside

variable {state state' : SplitMode P}

/- A free lock means that no task is inside. -/
theorem LockInvariant.of_free
    (hLock : state.lock = .free)
    (hReader : ¬ state.reader.Inside)
    (hWriter : ¬ state.writer.Inside) :
    LockInvariant state where
  reader := by
    rw [hLock]
    exact iff_of_false (by simp) hReader
  writer := by
    rw [hLock]
    exact iff_of_false (by simp) hWriter

/- The lock of the read task keeps the write task out. -/
theorem LockInvariant.of_readTask
    (hLock : state.lock = .readTask)
    (hReader : state.reader.Inside)
    (hWriter : ¬ state.writer.Inside) :
    LockInvariant state where
  reader := iff_of_true hLock hReader
  writer := by
    rw [hLock]
    exact iff_of_false (by simp) hWriter

/- The lock of the write task keeps the read task out. -/
theorem LockInvariant.of_writeTask
    (hLock : state.lock = .writeTask)
    (hReader : ¬ state.reader.Inside)
    (hWriter : state.writer.Inside) :
    LockInvariant state where
  reader := by
    rw [hLock]
    exact iff_of_false (by simp) hReader
  writer := iff_of_true hLock hWriter

/- With one task inside the other one is not. -/
theorem LockInvariant.exclusive
    (hState : LockInvariant state)
    (hReader : state.reader.Inside) :
    ¬ state.writer.Inside := by
  intro hWriter
  have hRead := hState.reader.mpr hReader
  have hWrite := hState.writer.mpr hWriter
  rw [hRead] at hWrite
  cases hWrite

variable [Protocol P]

/- A step of the read task keeps the invariant. -/
theorem ReadStep.lockInvariant
    (hStep : ReadStep state state')
    (hState : LockInvariant state) :
    LockInvariant state' := by
  cases hStep with
  | locked hReader hLock =>
      have hWriter : ¬ state.writer.Inside := by
        rw [← hState.writer, hLock]
        simp
      exact .of_readTask rfl trivial hWriter
  | retried hReader => exact hState
  | found hReader hScan =>
      have hInside : state.reader.Inside := by
        rw [hReader]
        trivial
      exact .of_free rfl id (hState.exclusive hInside)
  | nothing hReader hScan =>
      have hInside : state.reader.Inside := by
        rw [hReader]
        trivial
      exact .of_readTask (hState.reader.mpr hInside) trivial
        (hState.exclusive hInside)
  | arrived hReader hAwait =>
      have hInside : state.reader.Inside := by
        rw [hReader]
        trivial
      exact .of_readTask (hState.reader.mpr hInside) trivial
        (hState.exclusive hInside)
  | timedOut hReader hAwait =>
      have hInside : state.reader.Inside := by
        rw [hReader]
        trivial
      exact .of_free rfl id (hState.exclusive hInside)
  | failed hReader hAwait =>
      have hInside : state.reader.Inside := by
        rw [hReader]
        trivial
      exact .of_free rfl id (hState.exclusive hInside)
  | pushed hReader hSend =>
      refine ⟨?_, hState.writer⟩
      rw [hState.reader, hReader]
      exact Iff.rfl
  | closed hReader hSend =>
      refine ⟨?_, hState.writer⟩
      rw [hState.reader, hReader]
      exact Iff.rfl

/- The write task gives the lock back when it returns. -/
omit [Protocol P] in
theorem LockInvariant.endWriter
    (hState : LockInvariant state)
    (cause : WriteEnd) :
    LockInvariant (state.endWriter cause) := by
  by_cases hLock : state.lock = .writeTask
  · have hReader : ¬ state.reader.Inside := by
      rw [← hState.reader, hLock]
      simp
    exact .of_free (if_pos hLock) hReader id
  · have hSame : (state.endWriter cause).lock = state.lock :=
      if_neg hLock
    refine ⟨?_, ?_⟩
    · rw [hSame]
      exact hState.reader
    · rw [hSame]
      exact iff_of_false hLock id

/- Whether or not bytes are left, the task stays inside. -/
omit [Protocol P] in
theorem LockInvariant.continueWriting
    {message : CanMessage}
    {sent rest : List UInt8}
    (hLock : state.lock = .writeTask)
    (hReader : ¬ state.reader.Inside) :
    LockInvariant
      (state.continueWriting message sent rest) := by
  unfold SplitMode.continueWriting
  split
  · exact .of_writeTask hLock hReader trivial
  · exact .of_writeTask hLock hReader trivial

/- A step of the write task keeps the invariant. -/
theorem WriteStep.lockInvariant
    (hStep : WriteStep state state')
    (hState : LockInvariant state) :
    LockInvariant state' := by
  cases hStep with
  | received hWriter hRecv =>
      refine ⟨hState.reader, ?_⟩
      rw [hState.writer, hWriter]
      exact Iff.rfl
  | finished hWriter hRecv => exact hState.endWriter _
  | began hWriter hLock hBytes =>
      have hReader : ¬ state.reader.Inside := by
        rw [← hState.reader, hLock]
        simp
      exact .continueWriting rfl hReader
  | refused hWriter hLock hBytes => exact hState.endWriter _
  | timedOut hWriter =>
      refine ⟨hState.reader, ?_⟩
      rw [hState.writer, hWriter]
      exact Iff.rfl
  | wrote hWriter hPos hCount =>
      have hInside : state.writer.Inside := by
        rw [hWriter]
        trivial
      exact .continueWriting (hState.writer.mpr hInside)
        (fun hReader => hState.exclusive hReader hInside)
  | failed hWriter => exact hState.endWriter _
  | flushed hWriter =>
      have hInside : state.writer.Inside := by
        rw [hWriter]
        trivial
      exact .of_free rfl
        (fun hReader => hState.exclusive hReader hInside) id
  | notFlushed hWriter => exact hState.endWriter _

/- Senders and the consumer do not touch the lock. -/
omit [Protocol P] in
theorem UserStep.lockInvariant
    (hStep : UserStep state state')
    (hState : LockInvariant state) :
    LockInvariant state' := by
  cases hStep <;> exact ⟨hState.reader, hState.writer⟩

/- The lock is free at the start and well used ever after. -/
theorem reaches_lockInvariant
    {protocol : P}
    {config : Protocol.Config P}
    {port : SerialWrite}
    {settings : List UInt8}
    {start : SplitMode P}
    (hSplit :
      split protocol config port = .ok (.ok start, settings))
    (hReaches : Reaches step start state) :
    LockInvariant state := by
  refine hReaches.invariant LockInvariant ?_ ?_
  · intro before action after hBefore hStep
    cases step_cases hStep with
    | reader hStep => exact hStep.lockInvariant hBefore
    | writer hStep => exact hStep.lockInvariant hBefore
    | user hStep => exact hStep.lockInvariant hBefore
  · rcases bind_eq_ok_iff.mp hSplit with
      ⟨⟨result, bytes⟩, _, hRest⟩
    cases result with
    | error error => cases hRest
    | ok transport =>
        cases hRest
        exact .of_free rfl id id

------------------------------------------------------------
-- Channel Ends
------------------------------------------------------------

/-
  Both channels keep their capacity.  The write task's end
  is open until the task has returned, and the read task is
  the only sender of its channel until it has returned.
-/
structure ChannelInvariant (state : SplitMode P) : Prop where
  frames_capacity : state.frames.capacity = channelSize
  messages_capacity : state.messages.capacity = channelSize
  open_iff :
    state.frames.receiverAlive = true ↔
      ¬ state.writer.Ended
  running : ¬ state.reader.Ended → state.messages.senders = 1
  ended : state.reader.Ended → state.messages.senders = 0

/-
  A read task that runs on, with the messages of its channel
  changed at most.
-/
omit [Protocol P] in
theorem ChannelInvariant.of_running
    (hState : ChannelInvariant state)
    (hFrames : state'.frames = state.frames)
    (hWriter : state'.writer = state.writer)
    (hBefore : ¬ state.reader.Ended)
    (hAfter : ¬ state'.reader.Ended)
    (hCapacity :
      state'.messages.capacity = state.messages.capacity)
    (hSenders :
      state'.messages.senders = state.messages.senders) :
    ChannelInvariant state' where
  frames_capacity := by
    rw [hFrames]
    exact hState.frames_capacity
  messages_capacity := by
    rw [hCapacity]
    exact hState.messages_capacity
  open_iff := by
    rw [hFrames, hWriter]
    exact hState.open_iff
  running := by
    intro _
    rw [hSenders]
    exact hState.running hBefore
  ended := fun hEnded => absurd hEnded hAfter

/- The read task returns and drops its channel end. -/
omit [Protocol P] in
theorem ChannelInvariant.endReader
    (hState : ChannelInvariant state)
    (hFrames : state'.frames = state.frames)
    (hWriter : state'.writer = state.writer)
    (hBefore : ¬ state.reader.Ended)
    (hAfter : state'.reader.Ended)
    (hMessages :
      state'.messages = state.messages.dropSender) :
    ChannelInvariant state' where
  frames_capacity := by
    rw [hFrames]
    exact hState.frames_capacity
  messages_capacity := by
    rw [hMessages]
    exact hState.messages_capacity
  open_iff := by
    rw [hFrames, hWriter]
    exact hState.open_iff
  running := fun hRunning => absurd hAfter hRunning
  ended := by
    intro _
    rw [hMessages, Channel.dropSender,
      hState.running hBefore]

/- A step of the read task keeps the invariant. -/
theorem ReadStep.channelInvariant
    (hStep : ReadStep state state')
    (hState : ChannelInvariant state) :
    ChannelInvariant state' := by
  have hRunning : ¬ state.reader.Ended := by
    rintro ⟨cause, hEnded⟩
    exact hStep.running cause hEnded
  cases hStep with
  | retried _ => exact hState
  | failed _ _ =>
      exact hState.endReader rfl rfl hRunning ⟨_, rfl⟩ rfl
  | closed _ _ =>
      exact hState.endReader rfl rfl hRunning ⟨_, rfl⟩ rfl
  | pushed _ hSend =>
      rcases Channel.send_eq_ok hSend with ⟨_, hFree, rfl⟩
      exact hState.of_running rfl rfl hRunning
        (by rintro ⟨cause, hEnded⟩; cases hEnded) rfl rfl
  | _ =>
      exact hState.of_running rfl rfl hRunning
        (by rintro ⟨cause, hEnded⟩; cases hEnded) rfl rfl

/-
  A write task that runs on, with the messages of its
  channel changed at most.
-/
omit [Protocol P] in
theorem ChannelInvariant.of_writing
    (hState : ChannelInvariant state)
    (hMessages : state'.messages = state.messages)
    (hReader : state'.reader = state.reader)
    (hBefore : ¬ state.writer.Ended)
    (hAfter : ¬ state'.writer.Ended)
    (hCapacity :
      state'.frames.capacity = state.frames.capacity)
    (hAlive :
      state'.frames.receiverAlive =
        state.frames.receiverAlive) :
    ChannelInvariant state' where
  frames_capacity := by
    rw [hCapacity]
    exact hState.frames_capacity
  messages_capacity := by
    rw [hMessages]
    exact hState.messages_capacity
  open_iff := by
    rw [hAlive]
    exact iff_of_true (hState.open_iff.mpr hBefore) hAfter
  running := by
    rw [hMessages, hReader]
    exact hState.running
  ended := by
    rw [hMessages, hReader]
    exact hState.ended

/- The write task returns and closes its channel. -/
omit [Protocol P] in
theorem ChannelInvariant.endWriter
    (hState : ChannelInvariant state)
    (cause : WriteEnd) :
    ChannelInvariant (state.endWriter cause) where
  frames_capacity := hState.frames_capacity
  messages_capacity := hState.messages_capacity
  open_iff := by
    refine iff_of_false Bool.false_ne_true ?_
    intro hRunning
    exact hRunning ⟨cause, rfl⟩
  running := hState.running
  ended := hState.ended

/- The write task goes on, whether or not bytes are left. -/
omit [Protocol P] in
theorem ChannelInvariant.continueWriting
    {message : CanMessage}
    {sent rest : List UInt8}
    (hState : ChannelInvariant state)
    (hBefore : ¬ state.writer.Ended)
    (hMessages : state'.messages = state.messages)
    (hReader : state'.reader = state.reader)
    (hFrames : state'.frames = state.frames) :
    ChannelInvariant
      (state'.continueWriting message sent rest) := by
  unfold SplitMode.continueWriting
  split
  · exact hState.of_writing hMessages hReader hBefore
      (by rintro ⟨cause, hEnded⟩; cases hEnded)
      (congrArg Channel.capacity hFrames)
      (congrArg Channel.receiverAlive hFrames)
  · exact hState.of_writing hMessages hReader hBefore
      (by rintro ⟨cause, hEnded⟩; cases hEnded)
      (congrArg Channel.capacity hFrames)
      (congrArg Channel.receiverAlive hFrames)

/- A step of the write task keeps the invariant. -/
theorem WriteStep.channelInvariant
    (hStep : WriteStep state state')
    (hState : ChannelInvariant state) :
    ChannelInvariant state' := by
  have hRunning : ¬ state.writer.Ended := by
    rintro ⟨cause, hEnded⟩
    exact hStep.running cause hEnded
  cases hStep with
  | received _ hRecv =>
      exact hState.of_writing rfl rfl hRunning
        (by rintro ⟨cause, hEnded⟩; cases hEnded)
        (Channel.recv_capacity hRecv)
        (Channel.recv_eq_some hRecv).2
  | began _ _ _ =>
      exact hState.continueWriting hRunning rfl rfl rfl
  | wrote _ _ _ =>
      exact hState.continueWriting hRunning rfl rfl rfl
  | timedOut _ =>
      exact hState.of_writing rfl rfl hRunning
        (by rintro ⟨cause, hEnded⟩; cases hEnded) rfl rfl
  | flushed _ =>
      exact hState.of_writing rfl rfl hRunning
        (by rintro ⟨cause, hEnded⟩; cases hEnded) rfl rfl
  | finished _ _ => exact hState.endWriter _
  | refused _ _ _ => exact hState.endWriter _
  | failed _ => exact hState.endWriter _
  | notFlushed _ => exact hState.endWriter _

/- A step of a sender or the consumer keeps the invariant. -/
omit [Protocol P] in
theorem UserStep.channelInvariant
    (hStep : UserStep state state')
    (hState : ChannelInvariant state) :
    ChannelInvariant state' := by
  rcases hState with
    ⟨hFrames, hMessages, hOpen, hRunning, hEnded⟩
  cases hStep with
  | took hRecv =>
      have hSenders := Channel.recv_senders hRecv
      refine ⟨hFrames, ?_, hOpen, ?_, ?_⟩
      · rw [Channel.recv_capacity hRecv]
        exact hMessages
      · rw [hSenders]
        exact hRunning
      · rw [hSenders]
        exact hEnded
  | _ => exact ⟨hFrames, hMessages, hOpen, hRunning, hEnded⟩

/- The channel ends tell which tasks are running. -/
theorem reaches_channelInvariant
    {protocol : P}
    {config : Protocol.Config P}
    {port : SerialWrite}
    {settings : List UInt8}
    {start : SplitMode P}
    (hSplit :
      split protocol config port = .ok (.ok start, settings))
    (hReaches : Reaches step start state) :
    ChannelInvariant state := by
  refine hReaches.invariant ChannelInvariant ?_ ?_
  · intro before action after hBefore hStep
    cases step_cases hStep with
    | reader hStep => exact hStep.channelInvariant hBefore
    | writer hStep => exact hStep.channelInvariant hBefore
    | user hStep => exact hStep.channelInvariant hBefore
  · rcases bind_eq_ok_iff.mp hSplit with
      ⟨⟨result, bytes⟩, _, hRest⟩
    cases result with
    | error error => cases hRest
    | ok transport =>
        cases hRest
        refine
          ⟨rfl, rfl, iff_of_true rfl ?_, fun _ => rfl, ?_⟩
        · rintro ⟨cause, hEnded⟩
          cases hEnded
        · rintro ⟨cause, hEnded⟩
          cases hEnded

------------------------------------------------------------
-- Giving the Lock Back
------------------------------------------------------------

section Releasing

variable [ScanningProtocol P]
variable {protocol : P} {delivered : List CanMessage}
variable {settings : List UInt8}

/-
  A read task whose port is silent gives the lock back and
  touches neither the send side nor the consumer's channel.
-/
theorem ReceiveInvariant.releases
    (hState : ReceiveInvariant protocol delivered state)
    (hInside : state.reader.Inside) :
    ∃ actions : List ReadAction,
      actions.length ≤ 2 ∧
        ∃ released,
          runActions readTask actions state =
              .ok (some released) ∧
            released.lock = .free ∧
            SameSendSide state released ∧
            released.messages = state.messages ∧
            released.consumed = state.consumed := by
  cases hReader : state.reader with
  | waiting =>
      refine ⟨[.wait .elapsed], by simp, ?_⟩
      constructor
      constructor
      · simp only [runActions, readTask, hReader]
        rfl
      · exact
          ⟨rfl, ⟨rfl, rfl, rfl, rfl, rfl, rfl⟩, rfl, rfl⟩
  | scanning =>
      rcases hState.receives.tryReadFrame with
        ⟨message, transport, hScan, _, _⟩
      cases message with
      | some message =>
          refine ⟨[.scan], by simp, ?_⟩
          constructor
          constructor
          · simp only [runActions, readTask, hReader, hScan]
            rfl
          · exact
              ⟨rfl, ⟨rfl, rfl, rfl, rfl, rfl, rfl⟩, rfl, rfl⟩
      | none =>
          refine ⟨[.scan, .wait .elapsed], by simp, ?_⟩
          constructor
          constructor
          · simp only [runActions, readTask, hReader, hScan]
            rfl
          · exact
              ⟨rfl, ⟨rfl, rfl, rfl, rfl, rfl, rfl⟩, rfl, rfl⟩
  | acquiring =>
      rw [hReader] at hInside
      exact hInside.elim
  | pushing message =>
      rw [hReader] at hInside
      exact hInside.elim
  | ended cause =>
      rw [hReader] at hInside
      exact hInside.elim

/- A write task whose port accepts gives the lock back. -/
omit [ScanningProtocol P] in
theorem SendInvariant.releases
    (hState : SendInvariant protocol settings state)
    (hInside : state.writer.Inside) :
    ∃ actions : List WriteAction,
      actions.length ≤ 2 ∧
        ∃ released,
          runActions writeTask actions state =
              .ok (some released) ∧
            released.lock = .free := by
  cases hWriter : state.writer with
  | flushing =>
      refine ⟨[.flush], by simp, ?_⟩
      constructor
      constructor
      · simp only [runActions, writeTask, hWriter]
        rfl
      · rfl
  | writing message sent rest =>
      have hRest := hState.unfinished _ _ _ hWriter
      have hCount :
          0 < rest.length ∧ rest.length ≤ rest.length :=
        ⟨List.length_pos_iff.mpr hRest, le_rfl⟩
      refine ⟨[.write rest.length, .flush], by simp, ?_⟩
      constructor
      constructor
      · simp only [runActions, writeTask, hWriter,
          if_pos hCount, List.drop_length,
          SplitMode.continueWriting]
        rfl
      · rfl
  | receiving =>
      rw [hWriter] at hInside
      exact hInside.elim
  | locking message =>
      rw [hWriter] at hInside
      exact hInside.elim
  | ended cause =>
      rw [hWriter] at hInside
      exact hInside.elim

end Releasing

/-
  In every run of split mode the lock is held by exactly the
  task that is inside its critical section, so that the two
  are never inside together, the read task does not hold it
  while it waits for a place in the message channel, and no
  task has taken it along when it returned.  The holder can
  always give it back by at most two steps of its own.
-/
theorem lock_discipline
    (config : WaveshareUsbCanA.Config)
    (port : SerialWrite)
    (settings : List UInt8)
    (start state : SplitMode WaveshareUsbCanA)
    (hSplit :
      split WaveshareUsbCanA.protocol config port =
        .ok (.ok start, settings))
    (hReaches : Reaches step start state) :
    (state.lock = .readTask ↔ state.reader.Inside) ∧
      (state.lock = .writeTask ↔ state.writer.Inside) ∧
      ¬ (state.reader.Inside ∧ state.writer.Inside) ∧
      (state.lock = .readTask →
        ∃ actions : List ReadAction,
          actions.length ≤ 2 ∧
            ∃ released,
              runActions readTask actions state =
                  .ok (some released) ∧
                released.lock = .free) ∧
      (state.lock = .writeTask →
        ∃ actions : List WriteAction,
          actions.length ≤ 2 ∧
            ∃ released,
              runActions writeTask actions state =
                  .ok (some released) ∧
                released.lock = .free) := by
  have hLock := reaches_lockInvariant hSplit hReaches
  have hSend := reaches_sendInvariant hSplit hReaches
  rcases reaches_receiveInvariant hSplit hReaches with
    ⟨delivered, hReceive⟩
  refine
    ⟨hLock.reader, hLock.writer, ?_, ?_, ?_⟩
  · rintro ⟨hReader, hWriter⟩
    exact hLock.exclusive hReader hWriter
  · intro hHeld
    rcases hReceive.releases (hLock.reader.mp hHeld) with
      ⟨actions, hLength, released, hRun, hFree, _⟩
    exact ⟨actions, hLength, released, hRun, hFree⟩
  · intro hHeld
    exact hSend.releases (hLock.writer.mp hHeld)

end SplitMode

end UsbCan

namespace UsbCan

namespace SplitMode

open WaveshareUsbCanA

/- The write task has put half of a frame on the wire. -/
theorem lock_discipline_on_example :
    letI := rangedIds
    ∃ state : SplitMode WaveshareUsbCanA,
      state.wire.length = 20 + 3 ∧
        state.lock = .writeTask ∧
        ¬ state.reader.Inside ∧
        ∃ actions : List WriteAction,
          actions.length ≤ 2 ∧
            ∃ released,
              runActions writeTask actions state =
                  .ok (some released) ∧
                released.lock = .free := by
  have hRun :
      letI := rangedIds
      ∃ state : SplitMode WaveshareUsbCanA,
        Reaches step fresh state ∧
          state.wire.length = 20 + 3 ∧
          state.lock = .writeTask :=
    letI := rangedIds
    let message : CanMessage :=
      ⟨.standard ⟨0x123, by decide⟩,
        ⟨[0x11, 0, 0, 0, 0, 0, 0, 0], rfl⟩, 1, false⟩
    exists_run step
      [.user (.send message), .reader .lock, .reader .scan,
        .reader (.wait .elapsed), .writer .recv,
        .writer .lock, .writer (.write 3)]
      (fun state : SplitMode WaveshareUsbCanA =>
        state.wire.length = 20 + 3 ∧
          state.lock = .writeTask)
      (by decide +kernel)
  let _ : EmbeddedCan := rangedIds
  rcases hRun with ⟨state, hReaches, hLength, hLock⟩
  rcases lock_discipline {} .complete _ fresh state
      split_fresh hReaches with
    ⟨_, hWriter, hExclusive, _, hRelease⟩
  refine ⟨state, hLength, hLock, ?_, hRelease hLock⟩
  intro hReader
  exact hExclusive ⟨hReader, hWriter.mp hLock⟩

end SplitMode

end UsbCan
