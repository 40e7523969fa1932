import UsbCan.Adapters.SplitProgress

/-
  The end of receiving in split mode.

  When the port has failed, the consumer still gets every
  message that was read before, and then learns that there
  are no more.  When the consumer drops its receiver, the
  read task ends with the first message it tries to push.

  Key definitions include:
    * `ConsumerInvariant`
    * `ReadTask.pushesLeft`

  Main declarations:
    * `reaches_consumerInvariant`
    * `consumer_ends`
    * `receiver_gone`
-/

open Checked

------------------------------------------------------------
-- The Consumer's Channel
------------------------------------------------------------

namespace UsbCan

namespace SplitMode

variable [EmbeddedCan]
variable {P : Type}

/-
  A channel without a receiver is empty, and only such a
  channel makes the read task return.
-/
structure ConsumerInvariant (state : SplitMode P) : Prop where
  empty :
    state.messages.receiverAlive = false →
      state.messages.queue = []
  gone :
    state.reader = .ended .channelClosed →
      state.messages.receiverAlive = false

variable [Protocol P]
variable {state state' : SplitMode P}

theorem ReadStep.consumerInvariant
    (hStep : ReadStep state state')
    (hState : ConsumerInvariant state) :
    ConsumerInvariant state' := by
  cases hStep with
  | retried _ => exact hState
  | pushed _ hSend =>
      rcases Channel.send_eq_ok hSend with
        ⟨hAlive, hFree, rfl⟩
      refine ⟨?_, by simp⟩
      intro hGone
      exact absurd (hGone.symm.trans hAlive)
        Bool.false_ne_true
  | closed _ hSend =>
      have hGone := Channel.send_eq_error hSend
      exact ⟨hState.empty, fun _ => hGone⟩
  | _ =>
      exact ⟨hState.empty, by simp⟩

theorem WriteStep.consumerInvariant
    (hStep : WriteStep state state')
    (hState : ConsumerInvariant state) :
    ConsumerInvariant state' := by
  have hSame := hStep.sameReceiveSide
  refine ⟨?_, ?_⟩
  · rw [hSame.messages]
    exact hState.empty
  · rw [hSame.reader, hSame.messages]
    exact hState.gone

omit [Protocol P] in
theorem UserStep.consumerInvariant
    (hStep : UserStep state state')
    (hState : ConsumerInvariant state) :
    ConsumerInvariant state' := by
  cases hStep with
  | took hRecv =>
      rcases Channel.recv_eq_some hRecv with
        ⟨hQueue, hSame⟩
      refine ⟨?_, ?_⟩
      · intro hGone
        have hEmpty := hState.empty (hSame.symm.trans hGone)
        rw [hQueue] at hEmpty
        cases hEmpty
      · intro hEnded
        exact hSame.trans (hState.gone hEnded)
  | left => exact ⟨fun _ => rfl, fun _ => rfl⟩
  | _ => exact ⟨hState.empty, hState.gone⟩

theorem reaches_consumerInvariant
    {protocol : P}
    {config : Protocol.Config P}
    {port : SerialWrite}
    {settings : List UInt8}
    {start : SplitMode P}
    (hSplit :
      split protocol config port = .ok (.ok start, settings))
    (hReaches : Reaches step start state) :
    ConsumerInvariant state := by
  refine hReaches.invariant ConsumerInvariant ?_ ?_
  · intro before action after hBefore hStep
    cases step_cases hStep with
    | reader hStep => exact hStep.consumerInvariant hBefore
    | writer hStep => exact hStep.consumerInvariant hBefore
    | user hStep => exact hStep.consumerInvariant hBefore
  · rcases bind_eq_ok_iff.mp hSplit with
      ⟨⟨result, bytes⟩, _, hRest⟩
    cases result with
    | error error => cases hRest
    | ok transport =>
        cases hRest
        exact ⟨fun _ => rfl, by simp⟩

------------------------------------------------------------
-- After the Read Task Has Returned
------------------------------------------------------------

/-
  A read task that has returned reads no more, and nothing
  but the consumer changes its channel.
-/
theorem SplitStep.consumes
    (hStep : SplitStep state state')
    (hEnded : state.reader.Ended) :
    state'.reader = state.reader ∧
      state'.taken = state.taken ∧
      state'.messages.senders = state.messages.senders ∧
      (state'.messages.receiverAlive = true →
        state.messages.receiverAlive = true ∧
          state'.consumed ++ state'.messages.queue =
            state.consumed ++ state.messages.queue) := by
  cases hStep with
  | reader hStep =>
      rcases hEnded with ⟨cause, hEnded⟩
      exact absurd hEnded (hStep.running cause)
  | writer hStep =>
      have hSame := hStep.sameReceiveSide
      rw [hSame.reader, hSame.taken, hSame.messages,
        hSame.consumed]
      exact ⟨rfl, rfl, rfl, fun hAlive => ⟨hAlive, rfl⟩⟩
  | user hStep =>
      cases hStep with
      | took hRecv =>
          rcases Channel.recv_eq_some hRecv with
            ⟨hQueue, hSame⟩
          refine
            ⟨rfl, rfl, Channel.recv_senders hRecv, ?_⟩
          intro hAlive
          refine ⟨hSame.symm.trans hAlive, ?_⟩
          rw [hQueue]
          simp
      | left =>
          refine ⟨rfl, rfl, rfl, ?_⟩
          intro hAlive
          exact absurd hAlive Bool.false_ne_true
      | _ =>
          exact
            ⟨rfl, rfl, rfl, fun hAlive => ⟨hAlive, rfl⟩⟩

theorem reaches_consumes
    (hReaches : Reaches step state state')
    (hEnded : state.reader.Ended) :
    state'.reader = state.reader ∧
      state'.taken = state.taken ∧
      state'.messages.senders = state.messages.senders ∧
      (state'.messages.receiverAlive = true →
        state.messages.receiverAlive = true ∧
          state'.consumed ++ state'.messages.queue =
            state.consumed ++ state.messages.queue) := by
  refine hReaches.invariant
    (fun now =>
      now.reader = state.reader ∧
        now.taken = state.taken ∧
        now.messages.senders = state.messages.senders ∧
        (now.messages.receiverAlive = true →
          state.messages.receiverAlive = true ∧
            now.consumed ++ now.messages.queue =
              state.consumed ++ state.messages.queue))
    ?_ ⟨rfl, rfl, rfl, fun hAlive => ⟨hAlive, rfl⟩⟩
  rintro before action after
    ⟨hReader, hTaken, hSenders, hKept⟩ hStep
  have hStill : before.reader.Ended := by
    rw [hReader]
    exact hEnded
  rcases (step_cases hStep).consumes hStill with
    ⟨hReader', hTaken', hSenders', hKept'⟩
  refine
    ⟨hReader'.trans hReader, hTaken'.trans hTaken,
      hSenders'.trans hSenders, ?_⟩
  intro hAlive
  rcases hKept' hAlive with ⟨hBefore, hSame⟩
  rcases hKept hBefore with ⟨hFirst, hSame'⟩
  exact ⟨hFirst, hSame.trans hSame'⟩

/- The consumer takes the first message of its channel. -/
theorem takes_first
    {message : CanMessage}
    {rest : List CanMessage}
    (hQueue : state.messages.queue = message :: rest)
    (hAlive : state.messages.receiverAlive = true) :
    ∃ next,
      Reaches step state next ∧
        next.messages.queue = rest ∧
        next.messages.receiverAlive = true ∧
        next.consumed = state.consumed ++ [message] := by
  rcases Channel.recv_cons hQueue with
    ⟨messages, hRecv, hRest⟩
  have hSame := (Channel.recv_eq_some hRecv).2
  have hStep :
      step state (.user .receive) =
        .ok (some
          { state with
            messages := messages
            consumed := state.consumed ++ [message] }) := by
    simp only [step, user, hAlive, if_true, hRecv]
    rfl
  exact ⟨_, Reaches.single hStep, hRest,
    hSame.trans hAlive, rfl⟩

/- The consumer can take all that is queued. -/
theorem takes_queue
    (queue : List CanMessage)
    (hQueue : state.messages.queue = queue)
    (hAlive : state.messages.receiverAlive = true) :
    ∃ last,
      Reaches step state last ∧
        last.messages.queue = [] ∧
        last.messages.receiverAlive = true ∧
        last.consumed = state.consumed ++ queue := by
  induction queue generalizing state with
  | nil =>
      exact ⟨state, Relation.ReflTransGen.refl, hQueue,
        hAlive, (List.append_nil _).symm⟩
  | cons message rest ih =>
      rcases takes_first hQueue hAlive with
        ⟨next, hFirst, hRest, hNext, hTaken⟩
      rcases ih hRest hNext with
        ⟨last, hLast, hEmpty, hStill, hConsumed⟩
      refine
        ⟨last, hFirst.trans hLast, hEmpty, hStill, ?_⟩
      rw [hConsumed, hTaken]
      simp

end SplitMode

end UsbCan

namespace UsbCan

namespace SplitMode

variable [EmbeddedCan]

/-
  When the read task has returned while the consumer is
  there, the port has failed, and what the consumer has got
  and can still get is all that the bytes taken from the
  port decode as.  In every later state the consumer need
  not wait: it gets the next of these messages, and nothing
  more once it has got them all, which it can at any time.
-/
theorem consumer_ends
    (config : WaveshareUsbCanA.Config)
    (port : SerialWrite)
    (settings : List UInt8)
    (start state : SplitMode WaveshareUsbCanA)
    (hSplit :
      split WaveshareUsbCanA.protocol config port =
        .ok (.ok start, settings))
    (hReaches : Reaches step start state)
    (hEnded : state.reader.Ended)
    (hAlive : state.messages.receiverAlive = true) :
    state.reader = .ended .serialError ∧
      ∃ all,
        drain WaveshareUsbCanA.protocol state.taken =
            .ok all ∧
          all = state.consumed ++ state.messages.queue ∧
          (∀ later, Reaches step state later →
            later.taken = state.taken ∧
              (later.messages.receiverAlive = true →
                later.consumed ++ later.messages.queue =
                    all ∧
                  later.messages.recv ≠ none ∧
                  (later.messages.recv =
                      some (none, later.messages) ↔
                    later.consumed = all))) ∧
          ∃ last,
            Reaches step state last ∧
              last.consumed = all ∧
              last.messages.recv =
                some (none, last.messages) := by
  have hConsumer := reaches_consumerInvariant hSplit hReaches
  have hChannel := reaches_channelInvariant hSplit hReaches
  rcases reaches_receiveInvariant hSplit hReaches with
    ⟨delivered, hReceive⟩
  have hCause : state.reader = .ended .serialError := by
    rcases hEnded with ⟨cause, hEnded⟩
    cases cause with
    | serialError => exact hEnded
    | channelClosed =>
        have hGone := hConsumer.gone hEnded
        exact absurd (hGone.symm.trans hAlive)
          Bool.false_ne_true
  have hSenders := hChannel.ended hEnded
  have hHeld : state.reader.held = [] := by
    rw [hCause]
    rfl
  have hDrain :=
    hReceive.receives.drain_exhausted
      (hReceive.ended hCause)
  rw [hReceive.accounted hAlive, hHeld,
    List.append_nil] at hDrain
  refine ⟨hCause, _, hDrain, rfl, ?_, ?_⟩
  · intro later hLater
    rcases reaches_consumes hLater hEnded with
      ⟨_, hTaken, hSame, hKept⟩
    refine ⟨hTaken, ?_⟩
    intro hStill
    have hAll := (hKept hStill).2
    have hNone := hSame.trans hSenders
    exact ⟨hAll, later.messages.recv_ne_none hNone,
      later.messages.recv_end_iff hNone hAll⟩
  · rcases takes_queue _ rfl hAlive with
      ⟨last, hLast, hEmpty, _, hConsumed⟩
    have hSame := (reaches_consumes hLast hEnded).2.2.1
    exact ⟨last, hLast, hConsumed,
      Channel.recv_nil hEmpty (hSame.trans hSenders)⟩

end SplitMode

end UsbCan

namespace UsbCan

namespace SplitMode

open WaveshareUsbCanA

/- The port fails behind a frame that nobody has taken yet. -/
theorem consumer_ends_on_example :
    letI := rangedIds
    ∃ state last : SplitMode WaveshareUsbCanA,
      state.consumed = [] ∧
        state.messages.queue.length = 1 ∧
        Reaches step state last ∧
        last.consumed = state.messages.queue ∧
        last.messages.recv = some (none, last.messages) := by
  have hRun :
      letI := rangedIds
      ∃ state : SplitMode WaveshareUsbCanA,
        Reaches step fresh state ∧
          state.reader = .ended .serialError ∧
          state.messages.receiverAlive = true ∧
          state.messages.queue.length = 1 ∧
          state.consumed = [] :=
    letI := rangedIds
    exists_run step
      [.reader .lock, .reader .scan,
        .reader (.wait (.data
          ⟨[0xAA, 0xC1, 0x23, 0x01, 0x11, 0x55],
            by decide⟩)),
        .reader .scan, .reader .push, .reader .lock,
        .reader .scan,
        .reader (.wait (.data ⟨[], by decide⟩))]
      (fun state : SplitMode WaveshareUsbCanA =>
        state.reader = .ended .serialError ∧
          state.messages.receiverAlive = true ∧
          state.messages.queue.length = 1 ∧
          state.consumed = [])
      (by decide +kernel)
  let _ : EmbeddedCan := rangedIds
  rcases hRun with
    ⟨state, hReaches, hReader, hAlive, hLength, hConsumed⟩
  rcases consumer_ends {} .complete _ fresh state split_fresh
      hReaches ⟨_, hReader⟩ hAlive with
    ⟨_, all, _, hAll, _, last, hLast, hLastConsumed, hEnd⟩
  rw [hAll, hConsumed, List.nil_append] at hLastConsumed
  exact ⟨state, last, hConsumed, hLength, hLast,
    hLastConsumed, hEnd⟩

end SplitMode

end UsbCan

------------------------------------------------------------
-- After the Receiver Is Dropped
------------------------------------------------------------

namespace UsbCan

variable [EmbeddedCan]

/- Messages the read task pushes once nobody receives. -/
def ReadTask.pushesLeft : ReadTask → Nat
| .ended _ => 0
| _ => 1

theorem ReadTask.pushesLeft_le (task : ReadTask) :
    task.pushesLeft ≤ 1 := by
  cases task <;> simp [pushesLeft]

namespace SplitMode

variable {P : Type} [Protocol P]
variable {state state' : SplitMode P}

/- Whether a step pushes a message to the consumer. -/
def Action.isPush : Action → Bool
| .reader .push => true
| _ => false

/- A step of the read task that is not a push. -/
theorem ReadStep.pushesLeft_le
    (hStep : ReadStep state state') :
    state'.reader.pushesLeft ≤ state.reader.pushesLeft := by
  have hOne : state.reader.pushesLeft = 1 := by
    cases hReader : state.reader with
    | ended cause => exact absurd hReader (hStep.running cause)
    | _ => rfl
  rw [hOne]
  exact state'.reader.pushesLeft_le

/- Without a receiver a push ends the read task. -/
theorem push_ends
    (hGone : state.messages.receiverAlive = false)
    (hStep : state.readTask .push = .ok (some state')) :
    state.reader.pushesLeft = 1 ∧
      state'.reader.pushesLeft = 0 := by
  cases hReader : state.reader with
  | pushing message =>
      simp only [readTask, hReader, Channel.send, hGone]
        at hStep
      cases hStep
      exact ⟨rfl, rfl⟩
  | _ =>
      simp only [readTask, hReader] at hStep
      cases hStep

/- Without a receiver nothing is delivered any more. -/
theorem SplitStep.withoutReceiver
    (hStep : SplitStep state state')
    (hGone : state.messages.receiverAlive = false)
    (hEmpty : state.messages.queue = []) :
    state'.messages.receiverAlive = false ∧
      state'.messages.queue = [] ∧
      state'.consumed = state.consumed := by
  cases hStep with
  | reader hStep =>
      cases hStep with
      | pushed _ hSend =>
          have hAlive := (Channel.send_eq_ok hSend).1
          exact absurd (hGone.symm.trans hAlive)
            Bool.false_ne_true
      | _ => exact ⟨hGone, hEmpty, rfl⟩
  | writer hStep =>
      have hSame := hStep.sameReceiveSide
      rw [hSame.messages, hSame.consumed]
      exact ⟨hGone, hEmpty, rfl⟩
  | user hStep =>
      cases hStep with
      | took hRecv =>
          have hQueue := (Channel.recv_eq_some hRecv).1
          rw [hEmpty] at hQueue
          cases hQueue
      | left => exact ⟨rfl, rfl, rfl⟩
      | _ => exact ⟨hGone, hEmpty, rfl⟩

/- One step of any process, counting the pushes left. -/
theorem step_pushesLeft
    {action : Action}
    (hGone : state.messages.receiverAlive = false)
    (hStep : step state action = .ok (some state')) :
    (Action.isPush action).toNat +
        state'.reader.pushesLeft ≤
      state.reader.pushesLeft := by
  cases action with
  | reader action =>
      by_cases hPush : action = .push
      · rw [hPush] at hStep ⊢
        rcases push_ends hGone hStep with ⟨hBefore, hAfter⟩
        rw [hBefore, hAfter]
        exact Nat.le_refl 1
      · have hNone :
            Action.isPush (.reader action) = false := by
          cases action with
          | push => exact absurd rfl hPush
          | _ => rfl
        rw [hNone, Bool.toNat_false, Nat.zero_add]
        exact (readTask_step hStep).pushesLeft_le
  | writer action =>
      have hSame := (writeTask_step hStep).sameReceiveSide
      rw [hSame.reader]
      exact Nat.le_of_eq (Nat.zero_add _)
  | user action =>
      have hSame : state'.reader = state.reader := by
        cases user_step hStep <;> rfl
      rw [hSame]
      exact Nat.le_of_eq (Nat.zero_add _)

/-
  When the consumer has dropped its receiver, nothing more
  is delivered or queued, in whatever order the processes
  go on.  The read task makes at most one push, and that
  push ends it.
-/
theorem receiver_gone
    (protocol : P)
    (config : Protocol.Config P)
    (port : SerialWrite)
    (settings : List UInt8)
    (start state later : SplitMode P)
    (actions : List Action)
    (hSplit :
      split protocol config port = .ok (.ok start, settings))
    (hReaches : Reaches step start state)
    (hGone : state.messages.receiverAlive = false)
    (hRun :
      runActions step actions state = .ok (some later)) :
    later.messages.receiverAlive = false ∧
      later.messages.queue = [] ∧
      later.consumed = state.consumed ∧
      actions.countP Action.isPush ≤ 1 ∧
      (0 < actions.countP Action.isPush →
        later.reader.Ended) := by
  have hEmpty :=
    (reaches_consumerInvariant hSplit hReaches).empty hGone
  let Left : SplitMode P → Prop := fun now =>
    now.messages.receiverAlive = false ∧
      now.messages.queue = [] ∧
      now.consumed = state.consumed
  have hKeeps :
      ∀ before action after, Left before →
        step before action = .ok (some after) →
          Left after := by
    rintro before action after
      ⟨hBefore, hNone, hConsumed⟩ hStep
    rcases (step_cases hStep).withoutReceiver hBefore hNone
      with ⟨hAfter, hNone', hConsumed'⟩
    exact ⟨hAfter, hNone', hConsumed'.trans hConsumed⟩
  have hLater : Left later :=
    (reaches_of_runActions hRun).invariant Left hKeeps
      ⟨hGone, hEmpty, rfl⟩
  have hCount :=
    countP_le_of_runActions Left Action.isPush
      (fun now => now.reader.pushesLeft) (fun _ => 0)
      (fun before action after hBefore hStep =>
        ⟨hKeeps before action after hBefore hStep,
          step_pushesLeft hBefore.1 hStep⟩)
      ⟨hGone, hEmpty, rfl⟩ hRun
  have hOne := state.reader.pushesLeft_le
  simp only [Nat.add_zero] at hCount
  refine
    ⟨hLater.1, hLater.2.1, hLater.2.2, by omega, ?_⟩
  intro hPushed
  have hNone : later.reader.pushesLeft = 0 := by omega
  cases hReader : later.reader with
  | ended cause => exact ⟨cause, rfl⟩
  | _ =>
      rw [hReader] at hNone
      cases hNone

end SplitMode

end UsbCan

namespace UsbCan

namespace SplitMode

open WaveshareUsbCanA

/- A message arrives after the receiver was dropped. -/
theorem receiver_gone_on_example :
    letI := rangedIds
    ∃ (actions : List Action)
      (state later : SplitMode WaveshareUsbCanA),
      runActions step actions state = .ok (some later) ∧
        actions.countP Action.isPush = 1 ∧
        later.taken.length = 6 ∧
        later.consumed = [] ∧
        later.reader.Ended := by
  have hRun :
      letI := rangedIds
      ∃ (actions : List Action)
        (state : SplitMode WaveshareUsbCanA),
        Reaches step fresh state ∧
          state.messages.receiverAlive = false ∧
          state.consumed = [] ∧
          actions.countP Action.isPush = 1 ∧
          (runActions step actions state).map
              (Option.map (fun later =>
                decide (later.taken.length = 6))) =
            .ok (some true) :=
    letI := rangedIds
    let actions : List Action :=
      [.reader .lock, .reader .scan,
        .reader (.wait (.data
          ⟨[0xAA, 0xC1, 0x23, 0x01, 0x11, 0x55],
            by decide⟩)),
        .reader .scan, .reader .push]
    ⟨actions, exists_run step
      [.user .dropReceiver]
      (fun state : SplitMode WaveshareUsbCanA =>
        state.messages.receiverAlive = false ∧
          state.consumed = [] ∧
          actions.countP Action.isPush = 1 ∧
          (runActions step actions state).map
              (Option.map (fun later =>
                decide (later.taken.length = 6))) =
            .ok (some true))
      (by decide +kernel)⟩
  let _ : EmbeddedCan := rangedIds
  rcases hRun with
    ⟨actions, state, hReaches, hGone, hConsumed, hCount,
      hEnd⟩
  rcases exists_end step actions _ hEnd with
    ⟨later, hRun, hTaken⟩
  rcases receiver_gone WaveshareUsbCanA.protocol
      ({} : Config) .complete _ fresh state later actions
      split_fresh hReaches hGone hRun with
    ⟨_, _, hSame, _, hEnded⟩
  refine
    ⟨actions, state, later, hRun, hCount, hTaken, ?_, ?_⟩
  · rw [hSame, hConsumed]
  · exact hEnded (by rw [hCount]; exact Nat.one_pos)

end SplitMode

end UsbCan
