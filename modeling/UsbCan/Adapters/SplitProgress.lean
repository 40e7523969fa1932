import UsbCan.Adapters.EndToEnd
import UsbCan.Adapters.SplitLocking

/-
  Progress of the write task in split mode.

  A message costs the write task at most eighteen steps, so
  it comes to rest after finitely many of them.  At rest it
  waits for a sender, or for a read task that is about to
  give the lock back.  Neither a full message channel nor an
  idle consumer keeps it from writing all that is queued.

  Key definitions include:
    * `WriteTask.remaining`
    * `SplitMode.work`
    * `SplitMode.tasks`

  Main declarations:
    * `WriteStep.work_lt`
    * `bounded_work`
    * `drains`
-/

open Checked

------------------------------------------------------------
-- Work of the Write Task
------------------------------------------------------------

namespace UsbCan

variable [EmbeddedCan]

/- Steps a message takes, from its receipt to its flush. -/
def stepsPerMessage : Nat := 18

/- Steps the write task can make with what it has in hand. -/
def WriteTask.remaining : WriteTask → Nat
| .receiving => 1
| .locking _ => stepsPerMessage
| .writing _ _ rest => rest.length + 2
| .flushing => 2
| .ended _ => 0

namespace SplitMode

variable {P : Type}

/- Steps the write task can make without more messages. -/
def work (state : SplitMode P) : Nat :=
  stepsPerMessage * state.frames.queue.length +
    state.writer.remaining

/- Whether a step is one of the write task. -/
def Action.ofWriter : Action → Bool
| .writer _ => true
| _ => false

/- A wait that times out or a port that fails. -/
def WriteAction.Adverse : WriteAction → Prop
| .lockTimeout => True
| .writeError => True
| .flushError => True
| _ => False

variable {state state' : SplitMode P}

/- A write task that has returned has no work left. -/
theorem work_endWriter
    (state : SplitMode P)
    (cause : WriteEnd) :
    (state.endWriter cause).work = 0 := rfl

/- Whether or not bytes are left, two steps come after. -/
theorem work_continueWriting
    (state : SplitMode P)
    (message : CanMessage)
    (sent rest : List UInt8) :
    (state.continueWriting message sent rest).work =
      stepsPerMessage * state.frames.queue.length +
        (rest.length + 2) := by
  unfold SplitMode.continueWriting
  split
  · rename_i hRest
    rw [hRest]
    rfl
  · rfl

/- The encoding of a message has at most fifteen bytes. -/
theorem encoding_length_le
    {message : CanMessage}
    {bytes : List UInt8}
    (hBuilt : message.Built)
    (hEncodes :
      Encodes WaveshareUsbCanA.protocol message bytes) :
    bytes.length ≤ 15 := by
  rcases WaveshareUsbCanA.exists_wire hBuilt with
    ⟨frame, _, hWire⟩
  rw [(hWire bytes).mp hEncodes]
  exact (WaveshareUsbCanA.wire_length_le frame).2

/- Every step of the write task uses up some work. -/
theorem WriteStep.work_lt
    {settings : List UInt8}
    {state state' : SplitMode WaveshareUsbCanA}
    (hStep : WriteStep state state')
    (hState :
      SendInvariant WaveshareUsbCanA.protocol settings
        state) :
    state'.work < state.work := by
  cases hStep with
  | received hWriter hRecv =>
      have hQueue := (Channel.recv_eq_some hRecv).1
      simp only [work, hWriter, hQueue, List.length_cons,
        WriteTask.remaining, stepsPerMessage]
      omega
  | finished hWriter _ =>
      rw [work_endWriter, work, hWriter]
      exact Nat.succ_pos _
  | @began message bytes hWriter _ hBytes =>
      have hBuilt : message.Built :=
        hState.current_built (by simp [hWriter,
          WriteTask.current])
      have hLength :=
        encoding_length_le hBuilt
          (Transport.encodes_of_frameBytes hBytes)
      rw [work_continueWriting, work, hWriter]
      simp only [WriteTask.remaining, stepsPerMessage]
      omega
  | refused hWriter _ _ =>
      rw [work_endWriter, work, hWriter]
      exact Nat.succ_pos _
  | timedOut hWriter =>
      simp only [work, hWriter, WriteTask.remaining,
        stepsPerMessage]
      omega
  | @wrote message sent rest count hWriter hPos hCount =>
      rw [work_continueWriting, work, hWriter,
        List.length_drop]
      simp only [WriteTask.remaining]
      omega
  | failed hWriter =>
      rw [work_endWriter, work, hWriter]
      exact Nat.succ_pos _
  | flushed hWriter =>
      simp only [work, hWriter, WriteTask.remaining]
      omega
  | notFlushed hWriter =>
      rw [work_endWriter, work, hWriter]
      exact Nat.succ_pos _

/- The write task accepts no messages. -/
theorem WriteStep.accepted_eq
    [Protocol P]
    (hStep : WriteStep state state') :
    state'.accepted = state.accepted := by
  cases hStep with
  | began _ _ _ =>
      unfold SplitMode.continueWriting
      split <;> rfl
  | wrote _ _ _ =>
      unfold SplitMode.continueWriting
      split <;> rfl
  | _ => rfl

/- The read task adds no work. -/
theorem SameSendSide.work_eq
    (hSame : SameSendSide state state') :
    state'.work = state.work := by
  rw [work, work, hSame.writer, hSame.frames]

/- A message that is accepted adds the steps of one message. -/
theorem UserStep.work_add
    (hStep : UserStep state state') :
    state'.work + stepsPerMessage * state.accepted.length =
      state.work +
        stepsPerMessage * state'.accepted.length := by
  cases hStep with
  | accepted hFree _ _ =>
      simp only [work, Channel.push_queue,
        List.length_append, List.length_singleton,
        stepsPerMessage]
      omega
  | _ => rfl

/- One step of any process, weighed. -/
theorem step_work
    {settings : List UInt8}
    {state state' : SplitMode WaveshareUsbCanA}
    {action : Action}
    (hState :
      SendInvariant WaveshareUsbCanA.protocol settings
        state)
    (hStep : step state action = .ok (some state')) :
    action.ofWriter.toNat + state'.work +
        stepsPerMessage * state.accepted.length ≤
      state.work +
        stepsPerMessage * state'.accepted.length := by
  cases action with
  | reader action =>
      have hSame := (readTask_step hStep).sameSendSide
      rw [hSame.work_eq, hSame.accepted]
      simp [Action.ofWriter]
  | writer action =>
      have hWrite := writeTask_step hStep
      have hLess := hWrite.work_lt hState
      rw [hWrite.accepted_eq]
      simp only [Action.ofWriter, Bool.toNat_true]
      omega
  | user action =>
      have hAdd := (user_step hStep).work_add
      simp only [Action.ofWriter, Bool.toNat_false]
      omega

------------------------------------------------------------
-- Where the Write Task Waits
------------------------------------------------------------

section Waiting

variable [Protocol P] [EncodingProtocol P]
variable {protocol : P} {settings : List UInt8}

/-
  A write task that can make no step, other than to time out
  or to fail, has returned, waits for a message, or waits
  for the lock.
-/
theorem SendInvariant.waits
    (hState : SendInvariant protocol settings state)
    (hLock : LockInvariant state)
    (hIdle :
      ∀ action : WriteAction, ¬ action.Adverse →
        state.writeTask action = .ok none) :
    state.writer.Ended ∨
      (state.writer = .receiving ∧
        state.frames.queue = [] ∧
        state.frames.senders ≠ 0) ∨
      ∃ message,
        state.writer = .locking message ∧
          state.reader.Inside := by
  cases hWriter : state.writer with
  | receiving =>
      have hRecv := hIdle .recv id
      simp only [writeTask, hWriter] at hRecv
      rcases state.frames.recv_cases with
        ⟨value, frames, hSome⟩ | ⟨hQueue, hSenders, hNone⟩
      · rw [hSome] at hRecv
        cases value <;> cases hRecv
      · exact Or.inr (Or.inl ⟨rfl, hQueue, hSenders⟩)
  | locking message =>
      refine Or.inr (Or.inr ⟨message, rfl, ?_⟩)
      cases hHeld : state.lock with
      | readTask => exact hLock.reader.mp hHeld
      | writeTask =>
          have hInside := hLock.writer.mp hHeld
          rw [hWriter] at hInside
          exact hInside.elim
      | free =>
          have hBuilt : message.Built :=
            hState.current_built
              (by simp [hWriter, WriteTask.current])
          rcases state.transport.frameBytes_built hBuilt with
            ⟨bytes, _, hBytes⟩
          have hBegin := hIdle .lock id
          simp only [writeTask, hWriter, hHeld,
            hBytes] at hBegin
          cases hBegin
  | writing message sent rest =>
      have hRest := hState.unfinished _ _ _ hWriter
      have hCount :
          0 < rest.length ∧ rest.length ≤ rest.length :=
        ⟨List.length_pos_iff.mpr hRest, le_rfl⟩
      have hWrite := hIdle (.write rest.length) id
      simp only [writeTask, hWriter, if_pos hCount] at hWrite
      cases hWrite
  | flushing =>
      have hFlush := hIdle .flush id
      simp only [writeTask, hWriter] at hFlush
      cases hFlush
  | ended cause => exact Or.inl ⟨cause, rfl⟩

/- A write task that waits for a message is done with all. -/
omit [EncodingProtocol P] in
theorem SendFlow.handled_all
    (hFlow : SendFlow protocol settings state)
    (hWriter : state.writer = .receiving)
    (hQueue : state.frames.queue = []) :
    state.handled.map Prod.fst = state.accepted := by
  have hAlive := hFlow.alive (by simp [hWriter])
  have hCurrent : state.writer.current = [] := by
    rw [hWriter]
    rfl
  rw [hFlow.order, hFlow.kept hAlive, hQueue, dequeued,
    hCurrent]
  simp

end Waiting

/-
  In every run of split mode the write task makes at most
  eighteen steps for each accepted message and one more,
  whatever the senders, the read task and the consumer do in
  between.  Where it can make no step other than to time out
  or to fail, it has returned; or it waits for a sender and
  is done with every accepted message, in order; or it waits
  for a read task that is about to give the lock back.
-/
theorem bounded_work
    (config : WaveshareUsbCanA.Config)
    (port : SerialWrite)
    (settings : List UInt8)
    (start state : SplitMode WaveshareUsbCanA)
    (actions : List Action)
    (hSplit :
      split WaveshareUsbCanA.protocol config port =
        .ok (.ok start, settings))
    (hRun :
      runActions step actions start = .ok (some state)) :
    actions.countP Action.ofWriter + state.work ≤
        18 * state.accepted.length + 1 ∧
      ((∀ action : WriteAction, ¬ action.Adverse →
          state.writeTask action = .ok none) →
        state.writer.Ended ∨
          (state.writer = .receiving ∧
            state.frames.queue = [] ∧
            state.frames.senders ≠ 0 ∧
            state.handled.map Prod.fst =
              state.accepted) ∨
          ∃ message,
            state.writer = .locking message ∧
              state.reader.Inside) := by
  have hReaches := reaches_of_runActions hRun
  refine ⟨?_, ?_⟩
  · have hStart :
        start.work = 1 ∧ start.accepted = [] := by
      rcases bind_eq_ok_iff.mp hSplit with
        ⟨⟨result, bytes⟩, _, hRest⟩
      cases result with
      | error error => cases hRest
      | ok transport =>
          cases hRest
          exact ⟨rfl, rfl⟩
    have hCount :=
      countP_le_of_runActions (Reaches step start)
        Action.ofWriter work
        (fun state => stepsPerMessage * state.accepted.length)
        (fun before action after hBefore hStep =>
          ⟨hBefore.trans (Reaches.single hStep),
            step_work
              (reaches_sendInvariant hSplit hBefore) hStep⟩)
        Relation.ReflTransGen.refl hRun
    rw [hStart.1, hStart.2] at hCount
    simp only [List.length_nil, Nat.mul_zero,
      Nat.add_zero] at hCount
    unfold stepsPerMessage at hCount
    omega
  · intro hIdle
    have hSend := reaches_sendInvariant hSplit hReaches
    have hLock := reaches_lockInvariant hSplit hReaches
    rcases hSend.waits hLock hIdle with
      hEnded | ⟨hWriter, hQueue, hSenders⟩ | hWaits
    · exact Or.inl hEnded
    · exact Or.inr (Or.inl
        ⟨hWriter, hQueue, hSenders,
          hSend.handled_all hWriter hQueue⟩)
    · exact Or.inr (Or.inr hWaits)

end SplitMode

end UsbCan

namespace UsbCan

namespace SplitMode

open WaveshareUsbCanA

/- A message that is written in two pieces takes five steps. -/
theorem bounded_work_on_example :
    letI := rangedIds
    ∃ (actions : List Action)
      (state : SplitMode WaveshareUsbCanA),
      runActions step actions fresh = .ok (some state) ∧
        state.accepted.length = 1 ∧
        actions.countP Action.ofWriter = 5 ∧
        5 + state.work ≤ 19 := by
  have hRun :
      letI := rangedIds
      ∃ (actions : List Action)
        (state : SplitMode WaveshareUsbCanA),
        runActions step actions fresh = .ok (some state) ∧
          state.accepted.length = 1 ∧
          actions.countP Action.ofWriter = 5 :=
    letI := rangedIds
    let message : CanMessage :=
      ⟨.standard ⟨0x123, by decide⟩,
        ⟨[0x11, 0, 0, 0, 0, 0, 0, 0], rfl⟩, 1, false⟩
    let actions : List Action :=
      [.user (.send message), .reader .lock, .reader .scan,
        .writer .recv, .reader (.wait .elapsed),
        .writer .lock, .writer (.write 4),
        .writer (.write 2), .writer .flush]
    ⟨actions, exists_end step actions
      (fun state : SplitMode WaveshareUsbCanA =>
        state.accepted.length = 1 ∧
          actions.countP Action.ofWriter = 5)
      (by decide +kernel)⟩
  let _ : EmbeddedCan := rangedIds
  rcases hRun with
    ⟨actions, state, hRun, hAccepted, hCount⟩
  have hBound :=
    (bounded_work {} .complete _ fresh state actions
      split_fresh hRun).1
  rw [hAccepted, hCount] at hBound
  exact ⟨actions, state, hRun, hAccepted, hCount, hBound⟩

end SplitMode

end UsbCan

------------------------------------------------------------
-- The Two Tasks on Their Own
------------------------------------------------------------

namespace UsbCan

namespace SplitMode

variable [EmbeddedCan]
variable {P : Type} [Protocol P]

/- A step of one of the two tasks. -/
def tasks
    (state : SplitMode P) :
    ReadAction ⊕ WriteAction → Exec (Option (SplitMode P))
| .inl action => state.readTask action
| .inr action => state.writeTask action

variable {state middle state' : SplitMode P}

theorem reaches_of_tasks
    (hReaches : Reaches tasks state state') :
    Reaches step state state' := by
  refine hReaches.of_steps ?_
  intro before action after hStep
  cases action with
  | inl action => exact ⟨.reader action, hStep⟩
  | inr action => exact ⟨.writer action, hStep⟩

/-
  On their own the two tasks write some messages and leave
  the senders and the consumer alone.
-/
structure Writes
    (messages : List CanMessage)
    (state state' : SplitMode P) :
    Prop where
  reaches : Reaches tasks state state'
  accepted : state'.accepted = state.accepted
  handled :
    state'.handled =
      state.handled ++
        messages.map (fun message => (message, .written))
  toConsumer : state'.messages = state.messages
  consumed : state'.consumed = state.consumed
  senders : state'.frames.senders = state.frames.senders

theorem Writes.refl (state : SplitMode P) :
    Writes [] state state where
  reaches := Relation.ReflTransGen.refl
  accepted := rfl
  handled := (List.append_nil _).symm
  toConsumer := rfl
  consumed := rfl
  senders := rfl

theorem Writes.trans
    {first second : List CanMessage}
    (hFirst : Writes first state middle)
    (hSecond : Writes second middle state') :
    Writes (first ++ second) state state' where
  reaches := hFirst.reaches.trans hSecond.reaches
  accepted := hSecond.accepted.trans hFirst.accepted
  handled := by
    rw [hSecond.handled, hFirst.handled, List.map_append,
      List.append_assoc]
  toConsumer := hSecond.toConsumer.trans hFirst.toConsumer
  consumed := hSecond.consumed.trans hFirst.consumed
  senders := hSecond.senders.trans hFirst.senders

theorem Writes.completed_eq
    {messages : List CanMessage}
    (hWrites : Writes messages state state') :
    state'.completed = state.completed ++ messages := by
  have hAll :
      (messages.map (fun message =>
          (message, Fate.written))).filter
            (fun entry => entry.2 == .written) =
        messages.map (fun message => (message, .written)) := by
    rw [List.filter_eq_self]
    intro entry hEntry
    rcases List.mem_map.mp hEntry with ⟨message, _, rfl⟩
    rfl
  rw [completed, completed, hWrites.handled,
    List.filter_append, hAll, List.map_append, List.map_map]
  exact congrArg _ (List.map_id messages)

/- The write task flushes and gives the lock back. -/
theorem writes_flush
    (hWriter : state.writer = .flushing) :
    Writes [] state
      { state with lock := .free, writer := .receiving } where
  reaches := by
    refine Relation.ReflTransGen.single ⟨.inr .flush, ?_⟩
    simp only [tasks, writeTask, hWriter]
    rfl
  accepted := rfl
  handled := (List.append_nil _).symm
  toConsumer := rfl
  consumed := rfl
  senders := rfl

/- The write task writes the rest of its message. -/
theorem writes_rest
    {message : CanMessage}
    {sent rest : List UInt8}
    (hWriter : state.writer = .writing message sent rest)
    (hRest : rest ≠ []) :
    Writes [message] state
      { state with
        wire := state.wire ++ rest
        writer := .flushing
        handled := state.handled ++ [(message, .written)] }
    where
  reaches := by
    have hCount :
        0 < rest.length ∧ rest.length ≤ rest.length :=
      ⟨List.length_pos_iff.mpr hRest, le_rfl⟩
    refine Relation.ReflTransGen.single
      ⟨.inr (.write rest.length), ?_⟩
    simp only [tasks, writeTask, hWriter, if_pos hCount,
      List.take_length, List.drop_length,
      SplitMode.continueWriting]
    rfl
  accepted := rfl
  handled := rfl
  toConsumer := rfl
  consumed := rfl
  senders := rfl

/- The write task gets the lock and starts to write. -/
theorem writes_begin
    {message : CanMessage}
    {bytes : List UInt8}
    (hWriter : state.writer = .locking message)
    (hLock : state.lock = .free)
    (hBytes :
      state.transport.frameBytes message =
        .ok (.ok bytes))
    (hSome : bytes ≠ []) :
    Writes [] state
      { state with
        lock := .writeTask
        writer := .writing message [] bytes } where
  reaches := by
    refine Relation.ReflTransGen.single ⟨.inr .lock, ?_⟩
    simp only [tasks, writeTask, hWriter, hLock, hBytes]
    change Except.ok (some
      (SplitMode.continueWriting _ message [] bytes)) = _
    rw [SplitMode.continueWriting, if_neg hSome]
  accepted := rfl
  handled := (List.append_nil _).symm
  toConsumer := rfl
  consumed := rfl
  senders := rfl

/- The write task writes a message once the lock is free. -/
theorem writes_message
    [EncodingProtocol P]
    {message : CanMessage}
    (hWriter : state.writer = .locking message)
    (hLock : state.lock = .free)
    (hBuilt : message.Built) :
    ∃ state',
      Writes [message] state state' ∧
        state'.writer = .receiving ∧
        state'.lock = .free ∧
        state'.frames = state.frames := by
  rcases state.transport.frameBytes_built hBuilt with
    ⟨bytes, hSome, hBytes⟩
  have hBegin := writes_begin hWriter hLock hBytes hSome
  have hWhole := hBegin.trans (writes_rest rfl hSome)
  exact ⟨_, hWhole.trans (writes_flush rfl), rfl, rfl, rfl⟩

/- The write task takes the first message of its channel. -/
theorem writes_receive
    {message : CanMessage}
    {rest : List CanMessage}
    (hWriter : state.writer = .receiving)
    (hQueue : state.frames.queue = message :: rest) :
    ∃ state',
      Writes [] state state' ∧
        state'.writer = .locking message ∧
        state'.lock = state.lock ∧
        state'.frames.queue = rest := by
  rcases Channel.recv_cons hQueue with
    ⟨frames, hRecv, hRest⟩
  have hStep :
      tasks state (.inr .recv) =
        .ok (some
          { state with
            writer := .locking message
            frames := frames }) := by
    simp only [tasks, writeTask, hWriter, hRecv]
    rfl
  have hWrites :
      Writes [] state
        { state with
          writer := .locking message
          frames := frames } :=
    { reaches := .single hStep
      accepted := rfl
      handled := (List.append_nil _).symm
      toConsumer := rfl
      consumed := rfl
      senders := Channel.recv_senders hRecv }
  exact ⟨_, hWrites, rfl, rfl, hRest⟩

/- The write task writes its whole channel, in order. -/
theorem writes_queue
    [EncodingProtocol P]
    (queue : List CanMessage)
    (hQueue : state.frames.queue = queue)
    (hBuilt : ∀ message ∈ queue, message.Built)
    (hWriter : state.writer = .receiving)
    (hLock : state.lock = .free) :
    ∃ state',
      Writes queue state state' ∧
        state'.writer = .receiving ∧
        state'.lock = .free ∧
        state'.frames.queue = [] := by
  induction queue generalizing state with
  | nil =>
      exact ⟨state, .refl state, hWriter, hLock, hQueue⟩
  | cons message rest ih =>
      rcases writes_receive hWriter hQueue with
        ⟨taken, hTaken, hLocking, hSame, hRest⟩
      rcases writes_message hLocking (hSame.trans hLock)
          (hBuilt message List.mem_cons_self) with
        ⟨next, hMessage, hNext, hFree, hFrames⟩
      have hLeft : next.frames.queue = rest := by
        rw [hFrames, hRest]
      rcases ih hLeft
          (fun later hLater =>
            hBuilt later (List.mem_cons_of_mem _ hLater))
          hNext hFree with
        ⟨last, hLast, hEnd⟩
      exact
        ⟨last, hTaken.trans (hMessage.trans hLast), hEnd⟩

/- A silent port makes the read task give the lock back. -/
theorem ReceiveInvariant.frees_lock
    [ScanningProtocol P]
    {protocol : P}
    {delivered : List CanMessage}
    (hState : ReceiveInvariant protocol delivered state)
    (hLock : LockInvariant state)
    (hOutside : ¬ state.writer.Inside) :
    ∃ state',
      Writes [] state state' ∧
        state'.lock = .free ∧
        state'.writer = state.writer ∧
        state'.frames = state.frames := by
  cases hHeld : state.lock with
  | free => exact ⟨state, .refl state, hHeld, rfl, rfl⟩
  | writeTask =>
      exact absurd (hLock.writer.mp hHeld) hOutside
  | readTask =>
      rcases hState.releases (hLock.reader.mp hHeld) with
        ⟨actions, _, released, hRun, hFree, hSame, hMessages,
          hConsumed⟩
      have hReaches : Reaches tasks state released :=
        (reaches_of_runActions hRun).of_steps
          (fun _ action _ hStep => ⟨.inl action, hStep⟩)
      refine
        ⟨released, ?_, hFree, hSame.writer, hSame.frames⟩
      exact
        { reaches := hReaches
          accepted := hSame.accepted
          handled :=
            hSame.handled.trans (List.append_nil _).symm
          toConsumer := hMessages
          consumed := hConsumed
          senders := congrArg Channel.senders hSame.frames }

/-
  A running write task finishes its message, if it has one;
  a read task that holds the lock gives it back first.
-/
theorem writes_current
    [EncodingProtocol P] [ScanningProtocol P]
    {protocol : P}
    {settings : List UInt8}
    {delivered : List CanMessage}
    (hSend : SendInvariant protocol settings state)
    (hReceive : ReceiveInvariant protocol delivered state)
    (hLock : LockInvariant state)
    (hRunning : ¬ state.writer.Ended) :
    ∃ state',
      Writes state.writer.current state state' ∧
        state'.writer = .receiving ∧
        state'.lock = .free ∧
        state'.frames = state.frames := by
  by_cases hInside : state.writer.Inside
  · cases hWriter : state.writer with
    | writing message sent rest =>
        have hRest := hSend.unfinished _ _ _ hWriter
        have hWhole := writes_rest hWriter hRest
        exact ⟨_, hWhole.trans (writes_flush rfl), rfl, rfl,
          rfl⟩
    | flushing =>
        exact ⟨_, writes_flush hWriter, rfl, rfl, rfl⟩
    | receiving =>
        rw [hWriter] at hInside
        exact hInside.elim
    | locking message =>
        rw [hWriter] at hInside
        exact hInside.elim
    | ended cause => exact absurd ⟨cause, hWriter⟩ hRunning
  · rcases hReceive.frees_lock hLock hInside with
      ⟨free, hFree, hUnlocked, hWriterSame, hFramesSame⟩
    cases hWriter : state.writer with
    | receiving =>
        exact ⟨free, hFree, hWriterSame.trans hWriter,
          hUnlocked, hFramesSame⟩
    | locking message =>
        have hBuilt : message.Built :=
          hSend.current_built
            (by simp [hWriter, WriteTask.current])
        rcases writes_message (hWriterSame.trans hWriter)
            hUnlocked hBuilt with
          ⟨next, hNext, hIdle, hNextFree, hFrames⟩
        exact ⟨next, hFree.trans hNext, hIdle, hNextFree,
          hFrames.trans hFramesSame⟩
    | writing message sent rest =>
        rw [hWriter] at hInside
        exact absurd trivial hInside
    | flushing =>
        rw [hWriter] at hInside
        exact absurd trivial hInside
    | ended cause => exact absurd ⟨cause, hWriter⟩ hRunning

/- Without senders and messages the write task returns. -/
theorem writes_end
    (hWriter : state.writer = .receiving)
    (hQueue : state.frames.queue = [])
    (hSenders : state.frames.senders = 0) :
    Writes [] state (state.endWriter .channelClosed) where
  reaches := by
    have hRecv := Channel.recv_nil hQueue hSenders
    refine Relation.ReflTransGen.single ⟨.inr .recv, ?_⟩
    simp only [tasks, writeTask, hWriter, hRecv]
    rfl
  accepted := rfl
  handled := (List.append_nil _).symm
  toConsumer := rfl
  consumed := rfl
  senders := rfl

/-
  All that is queued can be written; the write task then
  waits for its senders, or returns when there are none.
-/
theorem writes_all
    [EncodingProtocol P] [ScanningProtocol P]
    {protocol : P}
    {settings : List UInt8}
    {delivered : List CanMessage}
    (hSend : SendInvariant protocol settings state)
    (hReceive : ReceiveInvariant protocol delivered state)
    (hLock : LockInvariant state)
    (hRunning : ¬ state.writer.Ended) :
    ∃ state',
      Writes (state.writer.current ++ state.frames.queue)
          state state' ∧
        state'.frames.queue = [] ∧
        state'.writer =
          if state.frames.senders = 0 then
            .ended .channelClosed
          else
            .receiving := by
  have hBuilt :
      ∀ message ∈ state.frames.queue, message.Built := by
    intro message hMessage
    apply hSend.built
    rw [hSend.order]
    simp [hMessage]
  rcases writes_current hSend hReceive hLock hRunning with
    ⟨idle, hCurrent, hIdle, hFree, hFrames⟩
  rcases writes_queue state.frames.queue
      (congrArg Channel.queue hFrames) hBuilt hIdle hFree with
    ⟨last, hQueue, hLast, _, hEmpty⟩
  have hAll := hCurrent.trans hQueue
  by_cases hSenders : state.frames.senders = 0
  · have hNone := hAll.senders.trans hSenders
    have hEnd := hAll.trans (writes_end hLast hEmpty hNone)
    rw [List.append_nil] at hEnd
    exact ⟨_, hEnd, rfl, (if_pos hSenders).symm⟩
  · exact ⟨last, hAll, hEmpty,
      hLast.trans (if_neg hSenders).symm⟩

end SplitMode

end UsbCan

namespace UsbCan

namespace SplitMode

variable [EmbeddedCan]

/-
  Sending depends on no consumer.  From every reachable
  state in which the write task runs, the two tasks can by
  themselves write the current message and all that is
  queued, even if the message channel is full and nobody
  reads from it.  The wire then decodes as all written
  messages, remote frames as empty data frames.  The
  consumer's channel stays as it is; the write task then
  waits for more, and if all senders are gone it returns.
-/
theorem drains
    (config : WaveshareUsbCanA.Config)
    (port : SerialWrite)
    (settings : List UInt8)
    (start state : SplitMode WaveshareUsbCanA)
    (hSplit :
      split WaveshareUsbCanA.protocol config port =
        .ok (.ok start, settings))
    (hReaches : Reaches step start state)
    (hRunning : ¬ state.writer.Ended) :
    ∃ state',
      Reaches tasks state state' ∧
        state'.accepted = state.accepted ∧
        state'.messages = state.messages ∧
        state'.consumed = state.consumed ∧
        state'.frames.queue = [] ∧
        state'.completed =
          state.completed ++ state.writer.current ++
            state.frames.queue ∧
        drain WaveshareUsbCanA.protocol
            (state'.wire.drop settings.length) =
          .ok (state'.completed.map CanMessage.asReceived) ∧
        state'.writer =
          if state.frames.senders = 0 then
            .ended .channelClosed
          else
            .receiving := by
  have hSend := reaches_sendInvariant hSplit hReaches
  have hLock := reaches_lockInvariant hSplit hReaches
  rcases reaches_receiveInvariant hSplit hReaches with
    ⟨delivered, hReceive⟩
  rcases writes_all hSend hReceive hLock hRunning with
    ⟨state', hWrites, hQueue, hWriter⟩
  have hLater :=
    hReaches.trans (reaches_of_tasks hWrites.reaches)
  have hWire := reaches_sendInvariant hSplit hLater
  refine
    ⟨state', hWrites.reaches, hWrites.accepted,
      hWrites.toConsumer, hWrites.consumed, hQueue, ?_, ?_,
      hWriter⟩
  · rw [hWrites.completed_eq, List.append_assoc]
  · rw [drain_eq]
    exact congrArg Except.ok hWire.drain_wire.2

end SplitMode

end UsbCan

namespace UsbCan

namespace SplitMode

open WaveshareUsbCanA

/-
  The senders have gone, the read task holds a message and
  nobody consumes: both queued messages are written.
-/
theorem drains_on_example :
    letI := rangedIds
    ∃ state state' : SplitMode WaveshareUsbCanA,
      state.frames.queue.length = 2 ∧
        state.completed = [] ∧
        Reaches tasks state state' ∧
        state'.completed = state.accepted ∧
        state'.writer = .ended .channelClosed := by
  have hRun :
      letI := rangedIds
      ∃ state : SplitMode WaveshareUsbCanA,
        Reaches step fresh state ∧
          state.writer = .receiving ∧
          state.frames.senders = 0 ∧
          state.frames.queue.length = 2 ∧
          state.frames.queue = state.accepted ∧
          state.completed = [] :=
    letI := rangedIds
    let message : CanMessage :=
      ⟨.standard ⟨0x123, by decide⟩,
        ⟨[0x11, 0, 0, 0, 0, 0, 0, 0], rfl⟩, 1, false⟩
    exists_run step
      [.user (.send message), .user (.trySend message),
        .user .dropSender, .reader .lock, .reader .scan,
        .reader (.wait (.data
          ⟨[0xAA, 0xC1, 0x23, 0x01, 0x11, 0x55],
            by decide⟩)),
        .reader .scan]
      (fun state : SplitMode WaveshareUsbCanA =>
        state.writer = .receiving ∧
          state.frames.senders = 0 ∧
          state.frames.queue.length = 2 ∧
          state.frames.queue = state.accepted ∧
          state.completed = [])
      (by decide +kernel)
  let _ : EmbeddedCan := rangedIds
  rcases hRun with
    ⟨state, hReaches, hWriter, hSenders, hLength, hQueue,
      hCompleted⟩
  have hRunning : ¬ state.writer.Ended := by
    rintro ⟨cause, hEnded⟩
    cases hWriter.symm.trans hEnded
  rcases drains {} .complete _ fresh state split_fresh
      hReaches hRunning with
    ⟨state', hTasks, _, _, _, _, hWritten, _, hEnd⟩
  rw [if_pos hSenders] at hEnd
  rw [hCompleted, hWriter, hQueue] at hWritten
  exact ⟨state, state', hLength, hCompleted, hTasks,
    hWritten, hEnd⟩

end SplitMode

end UsbCan
