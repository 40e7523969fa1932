import UsbCan.Adapters.EndToEnd
import UsbCan.Adapters.SameWire
import UsbCan.Adapters.SplitProgress
import UsbCan.Adapters.SplitSenders
import UsbCan.Library.Related
import UsbCan.StepMotor.MotorCan
import UsbCan.StepMotor.Reassembly
import UsbCan.StepMotor.Transaction

/-
  From the program to the motors.

  Along every run the messages accepted by split mode carry
  the packets of the issued commands, except for those that
  the current call has still to send.  The wire decodes as
  the packets written so far, and each motor makes its own
  commands of them.  The program panics only if the write
  task has returned.

  Main declarations:
    * `Packet.Carries`
    * `MotorCan.Flow`
    * `MotorCan.reaches_flow`
    * `MotorCan.motors_receive`
    * `MotorCan.calls_complete`
-/

open Checked Parts Framing

------------------------------------------------------------
-- Packets and Messages
------------------------------------------------------------

namespace UsbCan

namespace StepMotor

variable [EmbeddedCan]

/- The message that carries a packet. -/
def Packet.Carries
    (packet : Packet)
    (message : CanMessage) :
    Prop :=
  ∃ id hData,
    ExtendedId.new packet.extId = some id ∧
      message =
        DataFrame.message ⟨.extended id, packet.data, hData⟩

/- The packet in a message: extended data frames only. -/
def packetOf (message : CanMessage) : Option Packet :=
  match message.id, message.rtr, message.shownData with
  | .extended id, false, .ok data => some ⟨id.asRaw, data⟩
  | _, _, _ => none

theorem Packet.Carries.packetOf
    {packet : Packet}
    {message : CanMessage}
    (hCarries : packet.Carries message) :
    packetOf message = some packet := by
  rcases hCarries with ⟨id, hData, hId, rfl⟩
  have hRaw : id.asRaw = packet.extId :=
    EmbeddedCan.extended.asRaw_of_new hId
  simp [StepMotor.packetOf, hRaw]

theorem Packet.Carries.asReceived
    {packet : Packet}
    {message : CanMessage}
    (hCarries : packet.Carries message) :
    message.asReceived = message := by
  rcases hCarries with ⟨id, hData, _, rfl⟩
  exact CanMessage.asReceived_of_data rfl

/- Carried packets are read back from their messages. -/
theorem filterMap_packetOf
    {packets : List Packet}
    {messages : List CanMessage}
    (hCarried :
      List.Forall₂ Packet.Carries packets messages) :
    messages.filterMap packetOf = packets ∧
      ∀ message ∈ messages, message.asReceived = message := by
  induction hCarried with
  | nil => exact ⟨rfl, by simp⟩
  | cons hHead _ ih =>
      rw [List.filterMap_cons, hHead.packetOf, ih.1]
      refine ⟨rfl, ?_⟩
      intro message hMessage
      rcases List.mem_cons.mp hMessage with rfl | hTail
      · exact hHead.asReceived
      · exact ih.2 message hTail

/-
  A packet of a command is put into a message, and the
  outcome is that of sending the message.
-/
theorem sendFrame_eq
    {P : Type}
    (mode : SplitMode P)
    {packet : Packet}
    (hId : packet.extId ≤ 0x1FFFFFFF)
    (hData : packet.data.length ≤ 8) :
    ∃ message,
      packet.Carries message ∧
        CanUsbSender.toMessage message =
          .ok (some message) ∧
        ∀ outcome, mode.send message = .ok outcome →
          sendFrame mode packet =
            .ok (outcome.map expectSent) := by
  have hFits : (ExtendedId.new packet.extId).isSome :=
    (EmbeddedCan.extended.new_isSome _).mpr hId
  rcases Option.isSome_iff_exists.mp hFits with ⟨id, hNew⟩
  let frame : DataFrame :=
    ⟨.extended id, packet.data, hData⟩
  have hMessage :
      CanMessage.new (.extended id) packet.data =
        .ok (some frame.message) :=
    CanMessage.new_eq_message frame
  refine ⟨frame.message, ⟨id, hData, hNew, rfl⟩,
    CanUsbSender.toMessage_self (.new hMessage), ?_⟩
  intro outcome hSend
  rw [sendFrame, hNew]
  simp only [hMessage, ok_bind, hSend]
  rfl

/-
  Such a packet is refused by a closed channel, waits for a
  place in a full one, and is accepted otherwise.
-/
theorem sendFrame_cases
    {P : Type} [Protocol P]
    {mode : SplitMode P}
    {packet : Packet}
    (hSender : mode.frames.senders ≠ 0)
    (hId : packet.extId ≤ 0x1FFFFFFF)
    (hData : packet.data.length ≤ 8) :
    (mode.frames.receiverAlive = false ∧
        ∃ error,
          sendFrame mode packet =
            .ok (some (.error (.closed error)))) ∨
      (mode.frames.queue.length = mode.frames.capacity ∧
        sendFrame mode packet = .ok none) ∨
      ∃ message mode',
        packet.Carries message ∧
          sendFrame mode packet = .ok (some (.ok mode')) ∧
          mode'.accepted = mode.accepted ++ [message] ∧
          mode.step (.user (.send message)) =
            .ok (some mode') := by
  rcases sendFrame_eq mode hId hData with
    ⟨message, hCarries, hCopied, hOutcome⟩
  cases hAlive : mode.frames.receiverAlive with
  | false =>
      have hRefuses :=
        SplitMode.refuses_closed hSender hCopied hAlive
      exact Or.inl
        ⟨rfl, _, hOutcome _ hRefuses.send⟩
  | true =>
      by_cases hFree :
          mode.frames.queue.length < mode.frames.capacity
      · rcases SplitMode.accepts_free hSender hCopied hAlive
            hFree with
          ⟨mode', hAccepts⟩
        refine Or.inr (Or.inr
          ⟨message, mode', hCarries,
            hOutcome _ hAccepts.send, hAccepts.accepted, ?_⟩)
        rw [SplitMode.step, SplitMode.user, hAccepts.send]
        rfl
      · have hBlocks :=
          SplitMode.blocks_full hSender hCopied hAlive hFree
        have hRoom := mode.frames.queue_le
        exact Or.inr (Or.inl
          ⟨by omega, hOutcome _ hBlocks.send⟩)

end StepMotor

end UsbCan

------------------------------------------------------------
-- Steps That Send Nothing
------------------------------------------------------------

namespace UsbCan

namespace SplitMode

variable [EmbeddedCan]

/- Steps of the two tasks and of the consumer. -/
def Action.Quiet : Action → Prop
| .reader _ => True
| .writer _ => True
| .user .receive => True
| .user .dropReceiver => True
| .user _ => False

variable {P : Type}
variable {mode mode' : SplitMode P}

/- The write task leaves the senders alone. -/
theorem WriteStep.senders_eq
    [Protocol P]
    (hStep : WriteStep mode mode') :
    mode'.frames.senders = mode.frames.senders := by
  cases hStep with
  | received _ hRecv => exact Channel.recv_senders hRecv
  | began _ _ _ =>
      unfold SplitMode.continueWriting
      split <;> rfl
  | wrote _ _ _ =>
      unfold SplitMode.continueWriting
      split <;> rfl
  | _ => rfl

/- A quiet step accepts nothing and ends no sender. -/
theorem Action.Quiet.sameSenders
    [Protocol P]
    {action : Action}
    (hQuiet : action.Quiet)
    (hStep : step mode action = .ok (some mode')) :
    mode'.accepted = mode.accepted ∧
      mode'.frames.senders = mode.frames.senders := by
  cases action with
  | reader action =>
      have hSame := (readTask_step hStep).sameSendSide
      exact
        ⟨hSame.accepted, congrArg Channel.senders hSame.frames⟩
  | writer action =>
      have hWrite := writeTask_step hStep
      exact ⟨hWrite.accepted_eq, hWrite.senders_eq⟩
  | user action =>
      cases action with
      | receive =>
          rw [step, SplitMode.user] at hStep
          split at hStep
          · split at hStep
            · cases hStep
            · cases hStep
              exact ⟨rfl, rfl⟩
            · cases hStep
              exact ⟨rfl, rfl⟩
          · cases hStep
      | dropReceiver =>
          rw [step, SplitMode.user] at hStep
          split at hStep
          · cases hStep
            exact ⟨rfl, rfl⟩
          · cases hStep
      | send frame => exact hQuiet.elim
      | trySend frame => exact hQuiet.elim
      | cloneSender => exact hQuiet.elim
      | dropSender => exact hQuiet.elim

/- Sending changes the channel, and not its senders. -/
theorem enqueued_of_send
    {F : Type} [Frame F]
    [Protocol P]
    {frame : F}
    (hStep :
      step mode (.user (.send frame)) = .ok (some mode')) :
    ∃ frames,
      mode' = mode.enqueued frames ∧
        frames.senders = mode.frames.senders := by
  rcases bind_eq_ok_iff.mp hStep with
    ⟨outcome, hSend, hRest⟩
  cases outcome with
  | none => cases hRest
  | some sent =>
      rcases sent with ⟨told, after⟩
      cases hRest
      unfold send at hSend
      split at hSend
      · cases hSend
      · rcases bind_eq_ok_iff.mp hSend with
          ⟨result, hChannel, hResult⟩
        cases result with
        | none => cases hResult
        | some given =>
            rcases given with ⟨answer, frames⟩
            cases hResult
            refine ⟨frames, rfl, ?_⟩
            rcases CanUsbSender.send_cases hChannel with
              ⟨_, _, rfl⟩ | ⟨_, _, _, _, _, rfl⟩ <;> rfl

/- No step of the read task faults. -/
theorem ReceiveInvariant.readTask_ok
    [Protocol P] [ScanningProtocol P]
    {protocol : P}
    {delivered : List CanMessage}
    (hState : ReceiveInvariant protocol delivered mode)
    (action : ReadAction) :
    ∃ next, mode.readTask action = .ok next := by
  cases action with
  | lock =>
      simp only [readTask]
      split <;> exact ⟨_, rfl⟩
  | lockTimeout =>
      simp only [readTask]
      split <;> exact ⟨_, rfl⟩
  | scan =>
      simp only [readTask]
      split
      · rcases hState.receives.tryReadFrame with
          ⟨message, transport, hScan, _, _⟩
        rw [hScan]
        cases message <;> exact ⟨_, rfl⟩
      · exact ⟨_, rfl⟩
  | wait event =>
      simp only [readTask]
      split
      · rename_i hReader
        rcases hState.receives.awaitSerial
            (hState.waiting hReader) event with
          ⟨error, hAwait, _⟩ | ⟨transport, hAwait, _⟩
        · rw [hAwait]
          cases error <;> exact ⟨_, rfl⟩
        · rw [hAwait]
          exact ⟨_, rfl⟩
      · exact ⟨_, rfl⟩
  | push =>
      simp only [readTask]
      split
      · split <;> exact ⟨_, rfl⟩
      · exact ⟨_, rfl⟩

/- Dropping a sender accepts nothing. -/
theorem accepted_of_dropSender
    [Protocol P]
    (hStep :
      step mode (.user .dropSender) = .ok (some mode')) :
    mode'.accepted = mode.accepted := by
  rw [step, user] at hStep
  split at hStep
  · cases hStep
  · cases hStep
    rfl

end SplitMode

end UsbCan

------------------------------------------------------------
-- The Flow of Packets
------------------------------------------------------------

namespace UsbCan

namespace StepMotor

variable [EmbeddedCan]

/-
  Packets that a stage has still to send: none between two
  commands, those from the reached number on within one.
-/
def Stage.Left : Stage → List Packet → Prop
| .idle, left => left = []
| .finished, left => left = []
| .sending cmd progress, left =>
    ∃ addr code data n,
      cmd = addr :: code :: data ∧ Sendable cmd ∧
        progress = progressAt data.length n ∧
        left = (packetsOf addr code data).drop n
| .panicked _, _ => True

theorem Stage.Left.eq_nil
    {stage : Stage}
    {left : List Packet}
    (hLeft : stage.Left left)
    (hRest : stage.atRest = true) :
    left = [] := by
  cases stage with
  | idle => exact hLeft
  | finished => exact hLeft
  | sending cmd progress => cases hRest
  | panicked cause => cases hRest

namespace MotorCan

/-
  The packets of the issued commands are those in the
  accepted messages and those still to send.  The program
  owns the only sender until it ends, and panics only over
  a closed channel.
-/
structure Flow
    (begun : SplitMode WaveshareUsbCanA)
    (state : MotorCan) :
    Prop where
  reaches : Reaches SplitMode.step begun state.mode
  carried :
    ∃ sent left,
      state.issued.flatMap packets = sent ++ left ∧
        List.Forall₂ Packet.Carries sent
          state.mode.accepted ∧
        state.stage.Left left
  sender :
    state.stage ≠ .finished →
      state.mode.frames.senders = 1
  panic :
    ∀ cause, state.stage = .panicked cause →
      (∃ error, cause = .closed error) ∧
        state.mode.writer.Ended

variable {begun : SplitMode WaveshareUsbCanA}
variable {state state' : MotorCan}

theorem background_cases
    {action : SplitMode.Action}
    (hStep : state.background action = .ok (some state')) :
    ∃ mode,
      state.mode.step action = .ok (some mode) ∧
        state' = { state with mode := mode } := by
  rcases bind_eq_ok_iff.mp hStep with
    ⟨outcome, hMode, hRest⟩
  cases outcome with
  | none => cases hRest
  | some mode =>
      cases hRest
      exact ⟨mode, hMode, rfl⟩

theorem background_ok
    {action : SplitMode.Action}
    {next : Option (SplitMode WaveshareUsbCanA)}
    (hMode : state.mode.step action = .ok next) :
    ∃ next', state.background action = .ok next' := by
  rw [background, hMode]
  exact ⟨_, rfl⟩

/- What goes on in the background leaves the flow alone. -/
theorem Flow.background
    {action : SplitMode.Action}
    (hFlow : Flow begun state)
    (hQuiet : action.Quiet)
    (hStep : state.background action = .ok (some state')) :
    Flow begun state' := by
  rcases background_cases hStep with ⟨mode, hMode, rfl⟩
  rcases hQuiet.sameSenders hMode with
    ⟨hAccepted, hSenders⟩
  rcases hFlow.carried with ⟨sent, left, hAll, hSent, hLeft⟩
  exact
    { reaches := hFlow.reaches.tail ⟨action, hMode⟩
      carried :=
        ⟨sent, left, hAll, hAccepted.symm ▸ hSent, hLeft⟩
      sender := fun hStage =>
        hSenders.trans (hFlow.sender hStage)
      panic := by
        intro cause hStage
        rcases hFlow.panic cause hStage with
          ⟨hClosed, reason, hEnded⟩
        exact ⟨hClosed, reason,
          ((SplitMode.step_cases hMode).ended hEnded).1⟩ }

/- A new command has all its packets to send. -/
theorem Flow.call
    {cmd : List UInt8}
    (hFlow : Flow begun state)
    (hCmd : Sendable cmd)
    (hStep :
      state.step (.call cmd) = .ok (some state')) :
    Flow begun state' := by
  rw [step] at hStep
  split at hStep
  · rename_i hIdle
    cases hStep
    rcases hFlow.carried with
      ⟨sent, left, hAll, hSent, hLeft⟩
    rw [hIdle] at hLeft
    rcases hCmd.exists_data with
      ⟨addr, code, data, rfl, hData, hShort⟩
    have hLong :
        ¬ (addr :: code :: data).length < 2 := by
      simp
    simp only [if_neg hLong]
    have hOpen : state.stage ≠ .finished := by
      rw [hIdle]
      simp
    refine
      { reaches := hFlow.reaches
        carried :=
          ⟨sent, packetsOf addr code data, ?_, hSent,
            addr, code, data, 0, rfl, hCmd, ?_, rfl⟩
        sender := fun _ => hFlow.sender hOpen
        panic := ?_ }
    · rw [List.flatMap_append, hAll, hLeft,
        List.append_nil, List.flatMap_singleton]
      rfl
    · exact (progressAt_zero data.length).symm
    · intro cause hStage
      cases hStage
  · cases hStep

/- The program ends between two commands. -/
theorem Flow.finish
    (hFlow : Flow begun state)
    (hStep : state.step .finish = .ok (some state')) :
    Flow begun state' := by
  rw [step] at hStep
  split at hStep
  · rename_i hIdle
    rcases bind_eq_ok_iff.mp hStep with
      ⟨outcome, hMode, hRest⟩
    cases outcome with
    | none => cases hRest
    | some mode =>
        cases hRest
        rcases hFlow.carried with
          ⟨sent, left, hAll, hSent, hLeft⟩
        rw [hIdle] at hLeft
        have hAccepted :=
          SplitMode.accepted_of_dropSender hMode
        exact
          { reaches := hFlow.reaches.tail ⟨_, hMode⟩
            carried :=
              ⟨sent, left, hAll, hAccepted.symm ▸ hSent,
                hLeft⟩
            sender := fun hStage => absurd rfl hStage
            panic := fun cause hStage => by cases hStage }
  · cases hStep

/-
  The outcome of one turn of the loop at a numbered packet:
  the command is done, or the packet is refused by a closed
  channel, waits for a full one, or is accepted.
-/
inductive Turn
    (state : MotorCan)
    (addr code : UInt8)
    (data : List UInt8)
    (n : Nat) :
    Option MotorCan → Prop where
| done :
    data.length ≤ n * 7 →
      Turn state addr code data n
        (some { state with stage := .idle })
| refused (error : ClientError) :
    n * 7 < data.length →
      state.mode.frames.receiverAlive = false →
        Turn state addr code data n
          (some
            { state with stage := .panicked (.closed error) })
| waits :
    n * 7 < data.length →
      state.mode.frames.queue.length =
          state.mode.frames.capacity →
        Turn state addr code data n none
| sent {packet : Packet} {message : CanMessage}
    {mode : SplitMode WaveshareUsbCanA} :
    n * 7 < data.length →
      (packetsOf addr code data)[n]? = some packet →
        packet.Carries message →
          mode.accepted = state.mode.accepted ++ [message] →
            state.mode.step (.user (.send message)) =
                .ok (some mode) →
              Turn state addr code data n
                (some
                  { state with
                    mode := mode
                    stage :=
                      .sending (addr :: code :: data)
                        (progressAt data.length (n + 1)) })

theorem turn_ok
    {addr code : UInt8}
    {data : List UInt8}
    (hCmd : Sendable (addr :: code :: data))
    (hSender : state.mode.frames.senders ≠ 0)
    (n : Nat) :
    ∃ outcome,
      state.turn (addr :: code :: data)
          (progressAt data.length n) =
        .ok outcome ∧
      Turn state addr code data n outcome := by
  by_cases hMore : n * 7 < data.length
  · rcases nextPacket_ok addr code hMore with
      ⟨packet, hPacket, hNext⟩
    have hMember : packet ∈ packets (addr :: code :: data) :=
      List.mem_of_getElem? hPacket
    rcases mem_packets hCmd hMember with ⟨hId, hData, _⟩
    rcases sendFrame_cases hSender hId hData with
      ⟨hClosed, error, hSend⟩ | ⟨hFull, hSend⟩ |
      ⟨message, mode, hCarries, hSend, hAccepted, hMode⟩
    · refine ⟨_, ?_, .refused error hMore hClosed⟩
      simp only [turn, hNext, ok_bind, hSend]
      rfl
    · refine ⟨_, ?_, .waits hMore hFull⟩
      simp only [turn, hNext, ok_bind, hSend]
      rfl
    · refine ⟨_, ?_,
        .sent hMore hPacket hCarries hAccepted hMode⟩
      simp only [turn, hNext, ok_bind, hSend]
      rfl
  · refine ⟨_, ?_, .done (by omega)⟩
    rw [turn, nextPacket_none addr code (by omega)]
    rfl

/- A turn of the loop passes one packet on. -/
theorem Flow.advance
    (hFlow : Flow begun state)
    (hChannel : SplitMode.ChannelInvariant state.mode)
    (hStep : state.step .advance = .ok (some state')) :
    Flow begun state' := by
  rw [step] at hStep
  split at hStep
  · rename_i cmd progress hSending
    have hSender : state.mode.frames.senders = 1 :=
      hFlow.sender (by simp [hSending])
    rcases hFlow.carried with
      ⟨sent, left, hAll, hSent, hLeft⟩
    rw [hSending] at hLeft
    rcases hLeft with
      ⟨addr, code, data, n, rfl, hCmd, rfl, rfl⟩
    have hAny : state.mode.frames.senders ≠ 0 := by omega
    rcases turn_ok hCmd hAny n with
      ⟨outcome, hOutcome, hTurn⟩
    rw [hOutcome] at hStep
    cases hStep
    cases hTurn with
    | done hDone =>
        have hNothing :
            (packetsOf addr code data).drop n = [] := by
          apply List.drop_eq_nil_of_le
          rw [length_packetsOf]
          omega
        exact
          { reaches := hFlow.reaches
            carried :=
              ⟨sent, _, hAll, hSent, hNothing⟩
            sender := fun _ => hSender
            panic := fun cause hStage => by cases hStage }
    | refused error _ hClosed =>
        refine
          { reaches := hFlow.reaches
            carried := ⟨sent, _, hAll, hSent, trivial⟩
            sender := fun _ => hSender
            panic := ?_ }
        intro cause hStage
        cases hStage
        refine ⟨⟨error, rfl⟩, ?_⟩
        by_contra hRunning
        rw [hChannel.open_iff.mpr hRunning] at hClosed
        cases hClosed
    | @sent packet message mode _ hPacket hCarries hAccepted
        hMode =>
        rcases List.getElem?_eq_some_iff.mp hPacket with
          ⟨hIndex, hGet⟩
        refine
          { reaches := hFlow.reaches.tail ⟨_, hMode⟩
            carried :=
              ⟨sent ++ [packet],
                (packetsOf addr code data).drop (n + 1),
                ?_, ?_, addr, code, data, n + 1, rfl, hCmd,
                rfl, rfl⟩
            sender := fun _ => ?_
            panic := fun cause hStage => by cases hStage }
        · rw [hAll, List.drop_eq_getElem_cons hIndex, hGet,
            List.append_assoc, List.singleton_append]
        · rw [hAccepted]
          exact List.rel_append hSent (.cons hCarries .nil)
        · rcases SplitMode.enqueued_of_send hMode with
            ⟨frames, rfl, hSenders⟩
          exact hSenders.trans hSender
  · cases hStep

------------------------------------------------------------
-- Runs of the Program
------------------------------------------------------------

/- Commands are only ever added. -/
theorem issued_grows
    {action : Action}
    (hStep : state.step action = .ok (some state')) :
    state.issued <+: state'.issued := by
  have hBackground :
      ∀ quiet,
        state.background quiet = .ok (some state') →
          state.issued <+: state'.issued := by
    intro quiet hQuiet
    rcases background_cases hQuiet with ⟨mode, _, rfl⟩
    exact List.prefix_rfl
  cases action with
  | call cmd =>
      rw [step] at hStep
      split at hStep
      · cases hStep
        exact List.prefix_append _ _
      · cases hStep
  | advance =>
      rw [step] at hStep
      split at hStep
      · rcases bind_eq_ok_iff.mp hStep with
          ⟨next, _, hTurn⟩
        cases next with
        | none =>
            cases hTurn
            exact List.prefix_rfl
        | some found =>
            rcases bind_eq_ok_iff.mp hTurn with
              ⟨outcome, _, hSent⟩
            rcases outcome with _ | (cause | mode)
            · cases hSent
            · cases hSent
              exact List.prefix_rfl
            · cases hSent
              exact List.prefix_rfl
      · cases hStep
  | finish =>
      rw [step] at hStep
      split at hStep
      · rcases bind_eq_ok_iff.mp hStep with
          ⟨outcome, _, hRest⟩
        cases outcome with
        | none => cases hRest
        | some mode =>
            cases hRest
            exact List.prefix_rfl
      · cases hStep
  | reader action => exact hBackground _ hStep
  | writer action => exact hBackground _ hStep
  | receive => exact hBackground _ hStep
  | dropReceiver => exact hBackground _ hStep

section Runs

open WaveshareUsbCanA (Config)

variable {config : Config}
variable {port : SerialWrite}
variable {settings : List UInt8}

/- The flow is kept by every step of every process. -/
theorem Flow.step
    {action : Action}
    (hFlow : Flow begun state)
    (hSplit :
      SplitMode.split WaveshareUsbCanA.protocol config port =
        .ok (.ok begun, settings))
    (hIssued : ∀ cmd ∈ state'.issued, Sendable cmd)
    (hStep : state.step action = .ok (some state')) :
    Flow begun state' := by
  cases action with
  | call cmd =>
      refine hFlow.call ?_ hStep
      apply hIssued
      rw [MotorCan.step] at hStep
      split at hStep
      · cases hStep
        exact List.mem_append_right _
          (List.mem_singleton_self cmd)
      · cases hStep
  | advance =>
      have hChannel :=
        SplitMode.reaches_channelInvariant hSplit
          hFlow.reaches
      exact hFlow.advance hChannel hStep
  | finish => exact hFlow.finish hStep
  | reader action =>
      have hQuiet :
          (SplitMode.Action.reader action).Quiet :=
        trivial
      exact hFlow.background hQuiet hStep
  | writer action =>
      have hQuiet :
          (SplitMode.Action.writer action).Quiet :=
        trivial
      exact hFlow.background hQuiet hStep
  | receive =>
      have hQuiet :
          (SplitMode.Action.user .receive).Quiet :=
        trivial
      exact hFlow.background hQuiet hStep
  | dropReceiver =>
      have hQuiet :
          (SplitMode.Action.user .dropReceiver).Quiet :=
        trivial
      exact hFlow.background hQuiet hStep

/- Split mode begins with one sender and no message. -/
theorem flow_start
    (hSplit :
      SplitMode.split WaveshareUsbCanA.protocol config port =
        .ok (.ok begun, settings)) :
    Flow begun (start begun) := by
  rcases bind_eq_ok_iff.mp hSplit with
    ⟨⟨result, bytes⟩, _, hRest⟩
  cases result with
  | error error => cases hRest
  | ok transport =>
      cases hRest
      exact
        { reaches := Relation.ReflTransGen.refl
          carried := ⟨[], [], rfl, .nil, rfl⟩
          sender := fun _ => rfl
          panic := fun cause hStage => by cases hStage }

/- The flow holds in every state of a run. -/
theorem reaches_flow
    (hSplit :
      SplitMode.split WaveshareUsbCanA.protocol config port =
        .ok (.ok begun, settings))
    (hReaches : Reaches step (start begun) state)
    (hIssued : ∀ cmd ∈ state.issued, Sendable cmd) :
    Flow begun state := by
  refine hReaches.invariant
    (fun now =>
      (∀ cmd ∈ now.issued, Sendable cmd) → Flow begun now)
    ?_ (fun _ => flow_start hSplit) hIssued
  intro before action after hBefore hStep hAfter
  have hOlder : ∀ cmd ∈ before.issued, Sendable cmd :=
    fun cmd hCmd =>
      hAfter cmd ((issued_grows hStep).subset hCmd)
  exact (hBefore hOlder).step hSplit hAfter hStep

/- No step of any process faults. -/
theorem Flow.step_ok
    (hFlow : Flow begun state)
    (hSplit :
      SplitMode.split WaveshareUsbCanA.protocol config port =
        .ok (.ok begun, settings))
    (action : Action) :
    ∃ next, state.step action = .ok next := by
  cases action with
  | call cmd =>
      rw [MotorCan.step]
      split <;> exact ⟨_, rfl⟩
  | advance =>
      rw [MotorCan.step]
      split
      · rename_i cmd progress hSending
        have hSender : state.mode.frames.senders = 1 :=
          hFlow.sender (by simp [hSending])
        have hAny : state.mode.frames.senders ≠ 0 := by
          omega
        rcases hFlow.carried with ⟨_, _, _, _, hLeft⟩
        rw [hSending] at hLeft
        rcases hLeft with
          ⟨addr, code, data, n, rfl, hCmd, rfl, _⟩
        rcases turn_ok hCmd hAny n with ⟨outcome, hTurn, _⟩
        exact ⟨outcome, hTurn⟩
      · exact ⟨_, rfl⟩
  | finish =>
      rw [MotorCan.step]
      split
      · simp only [SplitMode.step, SplitMode.user]
        split <;> exact ⟨_, rfl⟩
      · exact ⟨_, rfl⟩
  | reader action =>
      rcases SplitMode.reaches_receiveInvariant hSplit
          hFlow.reaches with
        ⟨delivered, hReceive⟩
      rcases hReceive.readTask_ok action with ⟨next, hNext⟩
      exact background_ok hNext
  | writer action =>
      have hSend :=
        SplitMode.reaches_sendInvariant hSplit hFlow.reaches
      rcases hSend.writeTask_ok action with ⟨next, hNext⟩
      exact background_ok hNext
  | receive =>
      have hReceive :
          ∃ next,
            state.mode.step (.user .receive) = .ok next := by
        simp only [SplitMode.step, SplitMode.user]
        split
        · split <;> exact ⟨_, rfl⟩
        · exact ⟨_, rfl⟩
      rcases hReceive with ⟨next, hNext⟩
      exact background_ok hNext
  | dropReceiver =>
      have hDrop :
          ∃ next,
            state.mode.step (.user .dropReceiver) =
              .ok next := by
        simp only [SplitMode.step, SplitMode.user]
        split <;> exact ⟨_, rfl⟩
      rcases hDrop with ⟨next, hNext⟩
      exact background_ok hNext

/-
  The wire decodes as written messages, which carry packets
  of the issued commands in order.
-/
theorem Flow.drain_wire
    (hFlow : Flow begun state)
    (hSplit :
      SplitMode.split WaveshareUsbCanA.protocol config port =
        .ok (.ok begun, settings)) :
    drain WaveshareUsbCanA.protocol
        (state.mode.wire.drop settings.length) =
      .ok state.mode.completed := by
  have hSend :=
    SplitMode.reaches_sendInvariant hSplit hFlow.reaches
  rcases hFlow.carried with ⟨sent, left, _, hSent, _⟩
  have hSame := (filterMap_packetOf hSent).2
  have hCompleted :
      state.mode.completed.map CanMessage.asReceived =
        state.mode.completed := by
    conv => rhs; rw [← List.map_id state.mode.completed]
    apply List.map_congr_left
    intro message hMessage
    exact hSame message
      (hSend.completed_sublist.subset hMessage)
  rw [drain_eq]
  exact congrArg Except.ok
    (hSend.drain_wire.2.trans hCompleted)

/- Every written message carries a packet. -/
theorem Flow.carries_written
    (hFlow : Flow begun state)
    (hSplit :
      SplitMode.split WaveshareUsbCanA.protocol config port =
        .ok (.ok begun, settings)) :
    List.Forall₂ Packet.Carries
      (state.mode.completed.filterMap packetOf)
      state.mode.completed := by
  have hSend :=
    SplitMode.reaches_sendInvariant hSplit hFlow.reaches
  rcases hFlow.carried with ⟨sent, left, _, hSent, _⟩
  rcases hSent.exists_sublist hSend.completed_sublist with
    ⟨written, _, hWritten⟩
  rwa [(filterMap_packetOf hWritten).1]

/-
  The packets on the wire: some of those of the issued
  commands, without a time-out the first ones, and all of
  them once the call is done and its messages are written.
-/
theorem Flow.packets_written
    (hFlow : Flow begun state)
    (hSplit :
      SplitMode.split WaveshareUsbCanA.protocol config port =
        .ok (.ok begun, settings)) :
    (state.mode.completed.filterMap packetOf).Sublist
        (state.issued.flatMap packets) ∧
      ((∀ entry ∈ state.mode.handled, entry.2 = .written) →
        state.mode.completed.filterMap packetOf <+:
          state.issued.flatMap packets) ∧
      (state.stage.atRest = true →
        state.mode.completed = state.mode.accepted →
          state.mode.completed.filterMap packetOf =
            state.issued.flatMap packets) := by
  have hSend :=
    SplitMode.reaches_sendInvariant hSplit hFlow.reaches
  rcases hFlow.carried with ⟨sent, left, hAll, hSent, hLeft⟩
  have hAccepted := (filterMap_packetOf hSent).1
  have hPrefix : sent <+: state.issued.flatMap packets := by
    rw [hAll]
    exact List.prefix_append sent left
  refine ⟨?_, ?_, ?_⟩
  · have hSome :=
      hSend.completed_sublist.filterMap packetOf
    rw [hAccepted] at hSome
    exact hSome.trans hPrefix.sublist
  · intro hWritten
    have hFirst := hSend.completed_prefix hWritten
    have hPackets := hFirst.filterMap packetOf
    rw [hAccepted] at hPackets
    exact hPackets.trans hPrefix
  · intro hStage hCompleted
    have hNone := hLeft.eq_nil hStage
    rw [hCompleted, hAccepted, hAll, hNone, List.append_nil]

/- Motors that are sent everything have their commands. -/
theorem Flow.reassemble_all
    (hFlow : Flow begun state)
    (hSplit :
      SplitMode.split WaveshareUsbCanA.protocol config port =
        .ok (.ok begun, settings))
    (hIssued : ∀ cmd ∈ state.issued, Sendable cmd)
    (hRest : state.stage.atRest = true)
    (hCompleted :
      state.mode.completed = state.mode.accepted)
    (addr : UInt8) :
    reassemble addr
        (state.mode.completed.filterMap packetOf) =
      state.issued.filter (isCommandFor addr) := by
  have hMine :
      ∀ cmd ∈ state.issued.filter (isCommandFor addr),
        Sendable cmd :=
    fun cmd hCmd => hIssued cmd (List.mem_of_mem_filter hCmd)
  refine reassemble_eq hMine ?_
  rw [(hFlow.packets_written hSplit).2.2 hRest hCompleted,
    filter_all_packets addr hIssued]

/-
  In every run of the program the wire decodes as messages
  that each carry a packet, and these are packets of the
  issued commands, in order.  If no message was given up,
  every motor has its own commands but for the last it has
  seen.  Between two commands, or at the end, with every
  accepted message written it has all of them.  The program
  panics only over a closed channel, and nothing else ever
  faults.
-/
theorem motors_receive
    (config : Config)
    (port : SerialWrite)
    (settings : List UInt8)
    (begun : SplitMode WaveshareUsbCanA)
    (state : MotorCan)
    (hSplit :
      SplitMode.split WaveshareUsbCanA.protocol config port =
        .ok (.ok begun, settings))
    (hReaches : Reaches step (start begun) state)
    (hIssued : ∀ cmd ∈ state.issued, Sendable cmd) :
    ∃ messages,
      drain WaveshareUsbCanA.protocol
          (state.mode.wire.drop settings.length) =
        .ok messages ∧
      List.Forall₂ Packet.Carries
        (messages.filterMap packetOf) messages ∧
      (messages.filterMap packetOf).Sublist
        (state.issued.flatMap packets) ∧
      ((∀ entry ∈ state.mode.handled, entry.2 = .written) →
        ∀ addr,
          Arriving (state.issued.filter (isCommandFor addr))
            (reassemble addr
              (messages.filterMap packetOf))) ∧
      (state.stage.atRest = true →
        state.mode.completed = state.mode.accepted →
          ∀ addr,
            reassemble addr (messages.filterMap packetOf) =
              state.issued.filter (isCommandFor addr)) ∧
      (∀ cause, state.stage = .panicked cause →
        (∃ error, cause = .closed error) ∧
          state.mode.writer.Ended) ∧
      ∀ action, ∃ next, state.step action = .ok next := by
  have hFlow := reaches_flow hSplit hReaches hIssued
  rcases hFlow.packets_written hSplit with
    ⟨hSome, hFirst, _⟩
  refine
    ⟨state.mode.completed, hFlow.drain_wire hSplit,
      hFlow.carries_written hSplit, hSome, ?_,
      hFlow.reassemble_all hSplit hIssued, hFlow.panic,
      hFlow.step_ok hSplit⟩
  intro hWritten addr
  have hMine :
      ∀ cmd ∈ state.issued.filter (isCommandFor addr),
        Sendable cmd :=
    fun cmd hCmd => hIssued cmd (List.mem_of_mem_filter hCmd)
  have hSeen :=
    (hFirst hWritten).filter (Packet.isFor addr)
  rw [filter_all_packets addr hIssued] at hSeen
  exact reassemble_arriving hMine hSeen

end Runs

/-
  The protection of motor 1 is lifted, motor 2 turns, and
  the program ends; all of its messages are written.
-/
omit [EmbeddedCan] in
theorem motors_receive_on_example :
    letI := rangedIds
    let lift : List UInt8 := [0x01, 0x0E, 0x52, 0x6B]
    let turn : List UInt8 :=
      [0x02, 0xCB, 0x00, 0x03, 0xE8, 0x00, 0x00, 0x01, 0x68,
        0x00, 0x00, 0x07, 0xD0, 0x6B]
    ∃ (state : MotorCan) (messages : List CanMessage),
      drain WaveshareUsbCanA.protocol
          (state.mode.wire.drop
            (WaveshareUsbCanA.settingsFrame {}).length) =
        .ok messages ∧
      reassemble 1 (messages.filterMap packetOf) = [lift] ∧
      reassemble 2 (messages.filterMap packetOf) = [turn] := by
  have hRun :
      letI := rangedIds
      let lift : List UInt8 := [0x01, 0x0E, 0x52, 0x6B]
      let turn : List UInt8 :=
        [0x02, 0xCB, 0x00, 0x03, 0xE8, 0x00, 0x00, 0x01,
          0x68, 0x00, 0x00, 0x07, 0xD0, 0x6B]
      ∃ state : MotorCan,
        Reaches step (start SplitMode.fresh) state ∧
          state.issued = [lift, turn] ∧
          state.stage.atRest = true ∧
          state.mode.completed = state.mode.accepted :=
    letI := rangedIds
    exists_run step
      [.call [0x01, 0x0E, 0x52, 0x6B], .advance,
        .writer .recv, .advance, .writer .lock,
        .writer (.write 10), .writer .flush,
        .call [0x02, 0xCB, 0x00, 0x03, 0xE8, 0x00, 0x00, 0x01,
          0x68, 0x00, 0x00, 0x07, 0xD0, 0x6B],
        .advance, .advance, .advance, .finish,
        .writer .recv, .writer .lock, .writer (.write 15),
        .writer .flush, .writer .recv, .writer .lock,
        .writer (.write 13), .writer .flush]
      (fun state : MotorCan =>
        state.issued =
            [[0x01, 0x0E, 0x52, 0x6B],
              [0x02, 0xCB, 0x00, 0x03, 0xE8, 0x00, 0x00,
                0x01, 0x68, 0x00, 0x00, 0x07, 0xD0,
                0x6B]] ∧
          state.stage.atRest = true ∧
          state.mode.completed = state.mode.accepted)
      (by decide +kernel)
  let _ : EmbeddedCan := rangedIds
  intro lift turn
  rcases hRun with
    ⟨state, hReaches, hIssued, hRest, hCompleted⟩
  have hSendable : ∀ cmd ∈ state.issued, Sendable cmd := by
    rw [hIssued]
    decide
  rcases motors_receive {} .complete _ SplitMode.fresh state
      SplitMode.split_fresh hReaches hSendable with
    ⟨messages, hDrain, _, _, _, hMotors, _, _⟩
  have hLift := hMotors hRest hCompleted 1
  have hTurn := hMotors hRest hCompleted 2
  rw [hIssued] at hLift hTurn
  exact ⟨state, messages, hDrain, hLift, hTurn⟩

------------------------------------------------------------
-- Completing a Call
------------------------------------------------------------

section Completing

open WaveshareUsbCanA (Config)

variable {config : Config}
variable {port : SerialWrite}
variable {settings : List UInt8}

/-
  The program goes on with its call and the two tasks write;
  nothing else happens.
-/
structure Works (state state' : MotorCan) : Prop where
  reaches : Reaches step state state'
  issued : state'.issued = state.issued
  handled :
    ∃ more : List CanMessage,
      state'.mode.handled =
        state.mode.handled ++
          more.map (fun message => (message, .written))
  toConsumer : state'.mode.messages = state.mode.messages
  consumed : state'.mode.consumed = state.mode.consumed

theorem Works.refl (state : MotorCan) :
    Works state state where
  reaches := Relation.ReflTransGen.refl
  issued := rfl
  handled := ⟨[], (List.append_nil _).symm⟩
  toConsumer := rfl
  consumed := rfl

theorem Works.trans
    {middle : MotorCan}
    (hFirst : Works state middle)
    (hSecond : Works middle state') :
    Works state state' where
  reaches := hFirst.reaches.trans hSecond.reaches
  issued := hSecond.issued.trans hFirst.issued
  handled := by
    rcases hFirst.handled with ⟨first, hOne⟩
    rcases hSecond.handled with ⟨second, hTwo⟩
    refine ⟨first ++ second, ?_⟩
    rw [hTwo, hOne, List.map_append, List.append_assoc]
  toConsumer := hSecond.toConsumer.trans hFirst.toConsumer
  consumed := hSecond.consumed.trans hFirst.consumed

/- The two tasks of split mode run behind the program. -/
theorem reaches_of_tasks
    {mode : SplitMode WaveshareUsbCanA}
    (hReaches : Reaches SplitMode.tasks state.mode mode) :
    Reaches step state { state with mode := mode } := by
  induction hReaches with
  | refl => exact Relation.ReflTransGen.refl
  | tail _ hLast ih =>
      rcases hLast with ⟨action, hLast⟩
      refine ih.tail ?_
      cases action with
      | inl action =>
          refine ⟨.reader action, ?_⟩
          simp only [step, background, SplitMode.step]
          rw [SplitMode.tasks] at hLast
          rw [hLast]
          rfl
      | inr action =>
          refine ⟨.writer action, ?_⟩
          simp only [step, background, SplitMode.step]
          rw [SplitMode.tasks] at hLast
          rw [hLast]
          rfl

/- The two tasks write all that has been accepted. -/
theorem works_tasks
    (hFlow : Flow begun state)
    (hSplit :
      SplitMode.split WaveshareUsbCanA.protocol config port =
        .ok (.ok begun, settings))
    (hRunning : ¬ state.mode.writer.Ended) :
    ∃ mode : SplitMode WaveshareUsbCanA,
      Works state { state with mode := mode } ∧
        mode.accepted = state.mode.accepted ∧
        mode.handled.map Prod.fst = mode.accepted ∧
        mode.frames.queue = [] ∧
        (state.stage ≠ .finished →
          mode.writer = .receiving) := by
  have hSend :=
    SplitMode.reaches_sendInvariant hSplit hFlow.reaches
  have hChannel :=
    SplitMode.reaches_channelInvariant hSplit hFlow.reaches
  have hLock :=
    SplitMode.reaches_lockInvariant hSplit hFlow.reaches
  rcases SplitMode.reaches_receiveInvariant hSplit
      hFlow.reaches with
    ⟨delivered, hReceive⟩
  rcases SplitMode.writes_all hSend hReceive hLock
      hRunning with
    ⟨mode, hWrites, hQueue, hWriter⟩
  have hKept := hSend.kept (hChannel.open_iff.mpr hRunning)
  refine ⟨mode, ?_, hWrites.accepted, ?_, hQueue, ?_⟩
  · exact
      { reaches := reaches_of_tasks hWrites.reaches
        issued := rfl
        handled := ⟨_, hWrites.handled⟩
        toConsumer := hWrites.toConsumer
        consumed := hWrites.consumed }
  · rw [hWrites.accepted, hSend.order, hKept,
      hWrites.handled, SplitMode.dequeued, List.map_append,
      List.map_map, List.append_nil, List.append_assoc]
    exact congrArg _ (List.map_id _)
  · intro hStage
    have hSender := hFlow.sender hStage
    rw [hWriter, if_neg (by omega)]

/-
  Once the tasks have written all, the channel has room for
  the next packet of a call.
-/
theorem works_next
    {addr code : UInt8}
    {data : List UInt8}
    {n : Nat}
    (hSplit :
      SplitMode.split WaveshareUsbCanA.protocol config port =
        .ok (.ok begun, settings))
    (hCmd : Sendable (addr :: code :: data))
    (hReaches : Reaches step (start begun) state)
    (hIssued : ∀ cmd ∈ state.issued, Sendable cmd)
    (hStage :
      state.stage =
        .sending (addr :: code :: data)
          (progressAt data.length n))
    (hRunning : ¬ state.mode.writer.Ended) :
    ∃ state',
      Works state state' ∧
        ¬ state'.mode.writer.Ended ∧
        (state'.stage = .idle ∨
          (n * 7 < data.length ∧
            state'.stage =
              .sending (addr :: code :: data)
                (progressAt data.length (n + 1)))) := by
  have hOpen : state.stage ≠ .finished := by
    rw [hStage]
    simp
  rcases works_tasks (reaches_flow hSplit hReaches hIssued)
      hSplit hRunning with
    ⟨mode, hWorks, _, _, hQueue, hWriter⟩
  have hReceiving := hWriter hOpen
  have hStill : ¬ mode.writer.Ended := by
    rintro ⟨cause, hEnded⟩
    cases hReceiving.symm.trans hEnded
  let ready : MotorCan := { state with mode := mode }
  have hFlow : Flow begun ready :=
    reaches_flow hSplit (hReaches.trans hWorks.reaches)
      hIssued
  have hSender : ready.mode.frames.senders ≠ 0 := by
    rw [hFlow.sender hOpen]
    exact Nat.one_ne_zero
  have hChannel :=
    SplitMode.reaches_channelInvariant hSplit hFlow.reaches
  rcases turn_ok hCmd hSender n with
    ⟨outcome, hOutcome, hTurn⟩
  have hStep : ready.step .advance = .ok outcome := by
    rw [MotorCan.step]
    simp only [ready, hStage]
    exact hOutcome
  cases hTurn with
  | done _ =>
      refine ⟨{ ready with stage := .idle }, hWorks.trans ?_,
        hStill, Or.inl rfl⟩
      exact
        { reaches := Relation.ReflTransGen.single ⟨_, hStep⟩
          issued := rfl
          handled := ⟨[], (List.append_nil _).symm⟩
          toConsumer := rfl
          consumed := rfl }
  | refused _ _ hClosed =>
      rw [hChannel.open_iff.mpr hStill] at hClosed
      cases hClosed
  | waits _ hFull =>
      have hRoom := hChannel.frames_capacity
      have hNone : ready.mode.frames.queue = [] := hQueue
      rw [hNone, hRoom] at hFull
      cases hFull
  | @sent packet message after hMore _ _ _ hMode =>
      rcases SplitMode.enqueued_of_send hMode with
        ⟨frames, hMade, _⟩
      rw [hMade] at hStep
      let next : MotorCan :=
        { ready with
          mode := mode.enqueued frames
          stage :=
            .sending (addr :: code :: data)
              (progressAt data.length (n + 1)) }
      refine ⟨next, hWorks.trans ?_, hStill,
        Or.inr ⟨hMore, rfl⟩⟩
      exact
        { reaches := Relation.ReflTransGen.single ⟨_, hStep⟩
          issued := rfl
          handled := ⟨[], (List.append_nil _).symm⟩
          toConsumer := rfl
          consumed := rfl }

/- A call is completed, packet by packet. -/
theorem works_sending
    {addr code : UInt8}
    {data : List UInt8}
    (hSplit :
      SplitMode.split WaveshareUsbCanA.protocol config port =
        .ok (.ok begun, settings))
    (hCmd : Sendable (addr :: code :: data))
    (left n : Nat)
    (hCount : data.length ≤ (n + left) * 7)
    (hReaches : Reaches step (start begun) state)
    (hIssued : ∀ cmd ∈ state.issued, Sendable cmd)
    (hStage :
      state.stage =
        .sending (addr :: code :: data)
          (progressAt data.length n))
    (hRunning : ¬ state.mode.writer.Ended) :
    ∃ state',
      Works state state' ∧ state'.stage = .idle ∧
        ¬ state'.mode.writer.Ended := by
  induction left generalizing n state with
  | zero =>
      rcases works_next hSplit hCmd hReaches hIssued hStage
          hRunning with
        ⟨state', hWorks, hStill, hIdle | ⟨hMore, _⟩⟩
      · exact ⟨state', hWorks, hIdle, hStill⟩
      · omega
  | succ left ih =>
      rcases works_next hSplit hCmd hReaches hIssued hStage
          hRunning with
        ⟨middle, hWorks, hStill, hIdle | ⟨hMore, hNext⟩⟩
      · exact ⟨middle, hWorks, hIdle, hStill⟩
      · have hLater : ∀ cmd ∈ middle.issued, Sendable cmd := by
          rw [hWorks.issued]
          exact hIssued
        rcases ih (n + 1) (by omega)
            (hReaches.trans hWorks.reaches) hLater hNext
            hStill with
          ⟨state', hRest, hIdle, hEnd⟩
        exact ⟨state', hWorks.trans hRest, hIdle, hEnd⟩

/- Whatever the program is doing, its call is completed. -/
theorem works_call
    (hSplit :
      SplitMode.split WaveshareUsbCanA.protocol config port =
        .ok (.ok begun, settings))
    (hReaches : Reaches step (start begun) state)
    (hIssued : ∀ cmd ∈ state.issued, Sendable cmd)
    (hRunning : ¬ state.mode.writer.Ended) :
    ∃ state',
      Works state state' ∧
        state'.stage.atRest = true ∧
        ¬ state'.mode.writer.Ended := by
  have hFlow := reaches_flow hSplit hReaches hIssued
  cases hStage : state.stage with
  | idle =>
      refine ⟨state, .refl state, ?_, hRunning⟩
      rw [hStage]
      rfl
  | finished =>
      refine ⟨state, .refl state, ?_, hRunning⟩
      rw [hStage]
      rfl
  | panicked cause =>
      exact absurd (hFlow.panic cause hStage).2 hRunning
  | sending cmd progress =>
      rcases hFlow.carried with ⟨_, _, _, _, hLeft⟩
      rw [hStage] at hLeft
      rcases hLeft with
        ⟨addr, code, data, n, rfl, hCmd, rfl, _⟩
      rcases works_sending hSplit hCmd data.length n
          (by omega) hReaches hIssued hStage hRunning with
        ⟨state', hWorks, hIdle, hStill⟩
      refine ⟨state', hWorks, ?_, hStill⟩
      rw [hIdle]
      rfl

/-
  From every reachable state in which the write task runs,
  the program can complete its call and the two tasks can
  write all of its messages, even if nobody receives and the
  message channel is full.  If no message has been given up
  before, every motor then has all of its commands.
-/
theorem calls_complete
    (config : Config)
    (port : SerialWrite)
    (settings : List UInt8)
    (begun : SplitMode WaveshareUsbCanA)
    (state : MotorCan)
    (hSplit :
      SplitMode.split WaveshareUsbCanA.protocol config port =
        .ok (.ok begun, settings))
    (hReaches : Reaches step (start begun) state)
    (hIssued : ∀ cmd ∈ state.issued, Sendable cmd)
    (hRunning : ¬ state.mode.writer.Ended) :
    ∃ state',
      Reaches step state state' ∧
        state'.issued = state.issued ∧
        state'.mode.messages = state.mode.messages ∧
        state'.mode.consumed = state.mode.consumed ∧
        state'.stage.atRest = true ∧
        (∃ more : List CanMessage,
          state'.mode.handled =
              state.mode.handled ++
                more.map (fun message =>
                  (message, .written)) ∧
            state'.mode.handled.map Prod.fst =
              state'.mode.accepted) ∧
        ((∀ entry ∈ state.mode.handled,
            entry.2 = .written) →
          ∃ messages,
            drain WaveshareUsbCanA.protocol
                (state'.mode.wire.drop settings.length) =
              .ok messages ∧
            ∀ addr,
              reassemble addr
                  (messages.filterMap packetOf) =
                state.issued.filter (isCommandFor addr)) := by
  rcases works_call hSplit hReaches hIssued hRunning with
    ⟨middle, hCall, hStage, hStill⟩
  have hMiddle : ∀ cmd ∈ middle.issued, Sendable cmd := by
    rw [hCall.issued]
    exact hIssued
  have hBefore :=
    reaches_flow hSplit (hReaches.trans hCall.reaches)
      hMiddle
  rcases works_tasks hBefore hSplit hStill with
    ⟨mode, hTasks, _, hAll, _, _⟩
  let last : MotorCan := { middle with mode := mode }
  have hWorks : Works state last := hCall.trans hTasks
  have hFlow : Flow begun last :=
    reaches_flow hSplit (hReaches.trans hWorks.reaches)
      hMiddle
  rcases hWorks.handled with ⟨more, hMore⟩
  refine
    ⟨last, hWorks.reaches, hWorks.issued, hWorks.toConsumer,
      hWorks.consumed, hStage, ⟨more, hMore, hAll⟩, ?_⟩
  intro hWritten
  have hNoneLost :
      ∀ entry ∈ mode.handled, entry.2 = .written := by
    intro entry hEntry
    change entry ∈ last.mode.handled at hEntry
    rw [hMore] at hEntry
    rcases List.mem_append.mp hEntry with hOld | hNew
    · exact hWritten entry hOld
    · rcases List.mem_map.mp hNew with ⟨message, _, rfl⟩
      rfl
  have hCompleted : mode.completed = mode.accepted := by
    rw [SplitMode.completed_eq_handled hNoneLost, hAll]
  refine ⟨mode.completed, hFlow.drain_wire hSplit, ?_⟩
  intro addr
  have hMotor :=
    hFlow.reassemble_all hSplit hMiddle hStage hCompleted addr
  rwa [hWorks.issued] at hMotor

end Completing

/-
  A packet of the command waits for a lock that the read
  task holds, and the other packet has yet to be sent.
-/
omit [EmbeddedCan] in
theorem calls_complete_on_example :
    letI := rangedIds
    let turn : List UInt8 :=
      [0x02, 0xCB, 0x00, 0x03, 0xE8, 0x00, 0x00, 0x01, 0x68,
        0x00, 0x00, 0x07, 0xD0, 0x6B]
    ∃ (state state' : MotorCan) (messages : List CanMessage),
      state.mode.completed = [] ∧
        Reaches step state state' ∧
        drain WaveshareUsbCanA.protocol
            (state'.mode.wire.drop
              (WaveshareUsbCanA.settingsFrame {}).length) =
          .ok messages ∧
        reassemble 2 (messages.filterMap packetOf) =
          [turn] := by
  have hRun :
      letI := rangedIds
      ∃ state : MotorCan,
        Reaches step (start SplitMode.fresh) state ∧
          state.issued =
            [[0x02, 0xCB, 0x00, 0x03, 0xE8, 0x00, 0x00, 0x01,
              0x68, 0x00, 0x00, 0x07, 0xD0, 0x6B]] ∧
          state.mode.handled = [] ∧
          state.mode.frames.receiverAlive = true :=
    letI := rangedIds
    exists_run step
      [.call [0x02, 0xCB, 0x00, 0x03, 0xE8, 0x00, 0x00, 0x01,
          0x68, 0x00, 0x00, 0x07, 0xD0, 0x6B],
        .reader .lock, .advance, .writer .recv,
        .reader .scan]
      (fun state : MotorCan =>
        state.issued =
            [[0x02, 0xCB, 0x00, 0x03, 0xE8, 0x00, 0x00, 0x01,
              0x68, 0x00, 0x00, 0x07, 0xD0, 0x6B]] ∧
          state.mode.handled = [] ∧
          state.mode.frames.receiverAlive = true)
      (by decide +kernel)
  let _ : EmbeddedCan := rangedIds
  intro turn
  rcases hRun with
    ⟨state, hReaches, hIssued, hHandled, hAlive⟩
  have hSendable : ∀ cmd ∈ state.issued, Sendable cmd := by
    rw [hIssued]
    decide
  have hFlow :=
    reaches_flow SplitMode.split_fresh hReaches hSendable
  have hChannel :=
    SplitMode.reaches_channelInvariant SplitMode.split_fresh
      hFlow.reaches
  have hNoneLost :
      ∀ entry ∈ state.mode.handled, entry.2 = .written := by
    rw [hHandled]
    simp
  rcases calls_complete {} .complete _ SplitMode.fresh state
      SplitMode.split_fresh hReaches hSendable
      (hChannel.open_iff.mp hAlive) with
    ⟨state', hLater, _, _, _, _, _, hMotors⟩
  rcases hMotors hNoneLost with ⟨messages, hDrain, hEach⟩
  have hTurn := hEach 2
  rw [hIssued] at hTurn
  refine
    ⟨state, state', messages, ?_, hLater, hDrain, hTurn⟩
  rw [SplitMode.completed, hHandled]
  rfl

end MotorCan

end StepMotor

end UsbCan
