import UsbCan.Adapters.ClientWriting
import UsbCan.Adapters.SplitSenders
import UsbCan.Adapters.SplitShutdown
import UsbCan.Library.Conduit

/-
  Both modes as conduits.

  An adapter is there to pass messages on in order, in both
  directions.  Whatever leads from one state of split mode
  to another is a run of a conduit with room for 101
  messages, and where no write is cut short whatever leads
  from one state of the exclusive client to another one with
  room for a single message.  So adapters in either mode can
  be put in a row.

  Main declarations:
    * `SplitMode.conduit`
    * `SplitMode.split_refines`
    * `CanUsbClient.conduit`
    * `CanUsbClient.client_refines`
    * `Adapter.adapters_convey`
-/

open Checked Framing

------------------------------------------------------------
-- Split Mode
------------------------------------------------------------

namespace UsbCan

variable [EmbeddedCan]

/- The write task has at most one message at a time. -/
theorem WriteTask.length_current_le (task : WriteTask) :
    task.current.length ≤ 1 := by
  cases task with
  | ended cause => cases cause <;> simp [current]
  | _ => simp [current]

namespace SplitMode

variable {P : Type} [Protocol P] [ScanningProtocol P]

/- What has happened in split mode, as a conduit. -/
def conduit
    (protocol : P)
    (state : SplitMode P) :
    Conduit CanMessage where
  accepted := state.accepted
  settled :=
    state.handled.map fun entry =>
      (entry.1, entry.2 == .written)
  heard :=
    (ScanningProtocol.grammar protocol).drain deliver
      state.taken
  got := state.consumed
  sending := state.frames.receiverAlive
  listening := state.messages.receiverAlive

variable {protocol : P} {settings : List UInt8}
variable {state state' : SplitMode P}

/- The messages that are passed on are the written ones. -/
theorem passed_conduit :
    (state.conduit protocol).passed = state.completed := by
  simp [conduit, Conduit.passed, completed,
    List.filter_map, Function.comp_def]

/- Bytes that come in may complete some messages. -/
theorem leads_taken
    {room : Nat}
    (bytes : List UInt8)
    (hSame :
      state'.conduit protocol =
        { state.conduit protocol with
          heard :=
            (ScanningProtocol.grammar protocol).drain deliver
              (state.taken ++ bytes) }) :
    Conduit.Leads room (state.conduit protocol)
      (state'.conduit protocol) := by
  rcases Grammar.drain_prefix
      (ScanningProtocol.grammar protocol) deliver
      state.taken bytes with
    ⟨messages, hMore⟩
  rw [hSame, ← hMore]
  exact (Conduit.Step.hear messages).leads

theorem ReadStep.leads
    {room : Nat}
    (hStep : ReadStep state state') :
    Conduit.Leads room (state.conduit protocol)
      (state'.conduit protocol) := by
  cases hStep with
  | arrived _ _ => exact leads_taken _ rfl
  | timedOut _ _ => exact leads_taken _ rfl
  | failed _ _ => exact leads_taken _ rfl
  | pushed _ hSend =>
      rcases Channel.send_eq_ok hSend with
        ⟨_, _, rfl⟩
      exact Relation.ReflTransGen.refl
  | _ => exact Relation.ReflTransGen.refl

/- The current message is the first that is not settled. -/
theorem SendFlow.next_settled
    {message : CanMessage}
    (hFlow : SendFlow protocol settings state)
    (hCurrent : state.writer.current = [message]) :
    (state.conduit protocol).accepted[
        (state.conduit protocol).settled.length]? =
      some message := by
  simp [conduit, hFlow.order, dequeued, hCurrent]

/- A running write task is done with its message. -/
theorem SendFlow.leads_settled
    {room : Nat}
    {message : CanMessage}
    (passed : Bool)
    (hFlow : SendFlow protocol settings state)
    (hRunning : ∀ cause, state.writer ≠ .ended cause)
    (hCurrent : state.writer.current = [message])
    (hSame :
      state'.conduit protocol =
        { state.conduit protocol with
          settled :=
            (state.conduit protocol).settled ++
              [(message, passed)] }) :
    Conduit.Leads room (state.conduit protocol)
      (state'.conduit protocol) := by
  rw [hSame]
  exact
    (Conduit.Step.settle message passed
      (hFlow.alive hRunning)
      (hFlow.next_settled hCurrent)).leads

/- Going on with a message settles it or changes nothing. -/
theorem SendFlow.leads_continueWriting
    {room : Nat}
    {middle : SplitMode P}
    {message : CanMessage}
    (hFlow : SendFlow protocol settings state)
    (hRunning : ∀ cause, state.writer ≠ .ended cause)
    (hCurrent : state.writer.current = [message])
    (hSame :
      middle.conduit protocol = state.conduit protocol)
    (sent rest : List UInt8) :
    Conduit.Leads room (state.conduit protocol)
      ((middle.continueWriting message sent rest).conduit
        protocol) := by
  unfold SplitMode.continueWriting
  split
  · refine hFlow.leads_settled true hRunning hCurrent ?_
    rw [← hSame]
    simp [conduit]
  · change
      Conduit.Leads room _ (middle.conduit protocol)
    rw [hSame]
    exact Relation.ReflTransGen.refl

theorem WriteStep.leads
    {room : Nat}
    (hStep : WriteStep state state')
    (hFlow : SendFlow protocol settings state) :
    Conduit.Leads room (state.conduit protocol)
      (state'.conduit protocol) := by
  have hRunning := hStep.running
  cases hStep with
  | received _ hRecv =>
      rcases Channel.recv_eq_some hRecv with ⟨_, hAlive⟩
      rw [conduit, conduit, hAlive]
      exact Relation.ReflTransGen.refl
  | began hWriter _ _ =>
      have hCurrent := congrArg WriteTask.current hWriter
      refine hFlow.leads_continueWriting hRunning hCurrent
        ?_ _ _
      rfl
  | @timedOut message hWriter =>
      have hCurrent := congrArg WriteTask.current hWriter
      refine hFlow.leads_settled false hRunning hCurrent ?_
      simp only [conduit, List.map_append,
        List.map_singleton]
      rfl
  | wrote hWriter _ _ =>
      have hCurrent := congrArg WriteTask.current hWriter
      refine hFlow.leads_continueWriting hRunning hCurrent
        ?_ _ _
      rfl
  | flushed _ => exact Relation.ReflTransGen.refl
  | finished _ _ => exact Conduit.Step.stop.leads
  | refused _ _ _ => exact Conduit.Step.stop.leads
  | failed _ => exact Conduit.Step.stop.leads
  | notFlushed _ => exact Conduit.Step.stop.leads

/- A consumer gets the next message that has been heard. -/
theorem UserStep.leads
    (hStep : UserStep state state')
    (hFlow : SendFlow protocol settings state)
    (hChannel : ChannelInvariant state)
    (hConsumer : ConsumerInvariant state)
    (hGot :
      state'.messages.receiverAlive = true →
        state'.consumed <+:
          (ScanningProtocol.grammar protocol).drain deliver
            state'.taken) :
    Conduit.Leads 101 (state.conduit protocol)
      (state'.conduit protocol) := by
  cases hStep with
  | unchanged => exact Relation.ReflTransGen.refl
  | @accepted message hFree _ hAlive =>
      have hRoom := hChannel.frames_capacity
      have hPending := hFlow.pending hAlive
      have hCurrent := state.writer.length_current_le
      have hLess :
          (state.conduit protocol).accepted.length <
            (state.conduit protocol).settled.length + 101 := by
        simp only [conduit, List.length_map, hPending,
          dequeued, List.length_append]
        unfold channelSize at hRoom
        omega
      exact (Conduit.Step.accept message hAlive hLess).leads
  | cloned => exact Relation.ReflTransGen.refl
  | dropped => exact Relation.ReflTransGen.refl
  | @took message messages hRecv =>
      rcases Channel.recv_eq_some hRecv with
        ⟨hQueue, hSame⟩
      have hAlive : state.messages.receiverAlive = true := by
        rw [← Bool.not_eq_false]
        intro hGone
        rw [hConsumer.empty hGone] at hQueue
        cases hQueue
      have hNext := hGot (hSame.trans hAlive)
      have hBefore :=
        List.prefix_append state.consumed [message]
      rw [Conduit.prefix_snoc_iff (hBefore.trans hNext)]
        at hNext
      have hView :
          conduit protocol
              { state with
                messages := messages
                consumed := state.consumed ++ [message] } =
            { state.conduit protocol with
              got := state.consumed ++ [message] } := by
        simp only [conduit, hSame]
      rw [hView]
      exact (Conduit.Step.get message hAlive hNext).leads
  | left => exact Conduit.Step.leave.leads

/- A new split mode is a new conduit. -/
theorem start_conduit
    {config : Protocol.Config P}
    {port : SerialWrite}
    {start : SplitMode P}
    (hSplit :
      split protocol config port = .ok (.ok start, settings)) :
    start.conduit protocol = .new := by
  rcases bind_eq_ok_iff.mp hSplit with
    ⟨⟨result, bytes⟩, _, hRest⟩
  cases result with
  | error error => cases hRest
  | ok transport =>
      cases hRest
      have hNothing :=
        (ScanningProtocol.grammar protocol).drain_nil
          deliver
      simp [conduit, Conduit.new, hNothing,
        Channel.bounded]

/- Every step amounts to at most one step of the conduit. -/
theorem reaches_leads
    [EncodingProtocol P]
    {config : Protocol.Config P}
    {port : SerialWrite}
    {start before after : SplitMode P}
    (hSplit :
      split protocol config port = .ok (.ok start, settings))
    (hBefore : Reaches step start before)
    (hAfter : Reaches step before after) :
    Conduit.Leads 101 (before.conduit protocol)
      (after.conduit protocol) := by
  refine Reaches.refines
    (fun now => now.conduit protocol) ?_ hAfter
  intro middle action next hMiddle hStep
  have hReached := hBefore.trans hMiddle
  have hFlow := reaches_sendInvariant hSplit hReached
  cases step_cases hStep with
  | reader hRead => exact hRead.leads
  | writer hWrite => exact hWrite.leads hFlow.toSendFlow
  | user hUser =>
      refine hUser.leads hFlow.toSendFlow
        (reaches_channelInvariant hSplit hReached)
        (reaches_consumerInvariant hSplit hReached) ?_
      intro hAlive
      rcases reaches_receiveInvariant hSplit
          (hReached.trans (Reaches.single hStep)) with
        ⟨delivered, hReceive⟩
      rw [hReceive.receives.tracks.drain_eq,
        hReceive.accounted hAlive, List.append_assoc,
        List.append_assoc]
      exact List.prefix_append _ _

/- So it is orderly in every state. -/
theorem orderly_conduit
    [EncodingProtocol P]
    {config : Protocol.Config P}
    {port : SerialWrite}
    {start : SplitMode P}
    (hSplit :
      split protocol config port = .ok (.ok start, settings))
    (hReaches : Reaches step start state) :
    Conduit.Orderly 101 (state.conduit protocol) := by
  have hLeads :
      Conduit.Leads 101 (start.conduit protocol)
        (state.conduit protocol) :=
    reaches_leads hSplit Relation.ReflTransGen.refl hReaches
  rw [start_conduit hSplit] at hLeads
  exact hLeads.orderly Conduit.new_orderly

end SplitMode

end UsbCan

------------------------------------------------------------
-- The Exclusive Client
------------------------------------------------------------

namespace UsbCan

namespace CanUsbClient

variable [EmbeddedCan]

open WaveshareUsbCanA (Config dataFrames)

/-
  What has happened at a client that has written the given
  messages, as a conduit: they were accepted and passed on
  at once.
-/
def conduit
    (written : List CanMessage)
    (state : State WaveshareUsbCanA) :
    Conduit CanMessage where
  accepted := written
  settled := written.map fun message => (message, true)
  heard := dataFrames.drain deliver state.taken
  got := state.returned
  sending := true
  listening := true

variable {settings : List UInt8}
variable {state state' : State WaveshareUsbCanA}

theorem passed_conduit (written : List CanMessage) :
    (conduit written state).passed = written := by
  simp [conduit, Conduit.passed, List.filter_map,
    Function.comp_def]

/- A written message is accepted and passed on at once. -/
theorem leads_written
    (written : List CanMessage)
    (message : CanMessage) :
    Conduit.Leads 1 (conduit written state)
      (conduit (written ++ [message]) state) := by
  have hRoom :
      (conduit written state).accepted.length <
        (conduit written state).settled.length + 1 := by
    simp [conduit]
  let accepted : Conduit CanMessage :=
    { conduit written state with
      accepted := written ++ [message] }
  have hNext :
      accepted.accepted[accepted.settled.length]? =
        some message := by
    simp [accepted, conduit]
  have hView :
      conduit (written ++ [message]) state =
        { accepted with
          settled :=
            accepted.settled ++ [(message, true)] } := by
    simp [accepted, conduit]
  rw [hView]
  exact
    (Conduit.Step.accept message rfl hRoom).leads.trans
      (Conduit.Step.settle message true rfl hNext).leads

/- The frame of a write is a message, unless it is refused. -/
theorem leads_copies
    (written : List CanMessage)
    (action : Action) :
    Conduit.Leads 1 (conduit written state)
      (conduit (written ++ action.copies) state) := by
  cases action with
  | write frame port =>
      simp only [Action.copies]
      split
      · exact leads_written written _
      · rw [List.append_nil]
        exact Relation.ReflTransGen.refl
  | _ =>
      simp only [Action.copies, List.append_nil]
      exact Relation.ReflTransGen.refl

/- Bytes that come in may complete some messages. -/
theorem leads_taken
    (written : List CanMessage)
    (bytes : List UInt8)
    (hTaken : state'.taken = state.taken ++ bytes)
    (hReturned : state'.returned = state.returned) :
    Conduit.Leads 1 (conduit written state)
      (conduit written state') := by
  rcases dataFrames.drain_prefix deliver state.taken bytes
    with ⟨messages, hMore⟩
  have hView :
      conduit written state' =
        { conduit written state with
          heard :=
            (conduit written state).heard ++ messages } := by
    simp only [conduit, hTaken, hReturned, hMore]
  rw [hView]
  exact (Conduit.Step.hear messages).leads

/- A message that is returned had been heard. -/
theorem leads_returned
    (written : List CanMessage)
    (message : Option CanMessage)
    (hTaken : state'.taken = state.taken)
    (hReturned :
      state'.returned = state.returned ++ message.toList)
    (hHeard :
      state'.returned <+:
        dataFrames.drain deliver state'.taken) :
    Conduit.Leads 1 (conduit written state)
      (conduit written state') := by
  cases message with
  | none =>
      rw [Option.toList_none, List.append_nil] at hReturned
      rw [conduit, conduit, hTaken, hReturned]
      exact Relation.ReflTransGen.refl
  | some message =>
      have hBefore :=
        List.prefix_append state.returned [message]
      have hNext := hHeard
      rw [hReturned, hTaken, Option.toList_some] at hNext
      rw [Conduit.prefix_snoc_iff (hBefore.trans hNext)]
        at hNext
      have hView :
          conduit written state' =
            { conduit written state with
              got := state.returned ++ [message] } := by
        simp only [conduit, hTaken, hReturned,
          Option.toList_some]
      rw [hView]
      exact (Conduit.Step.get message rfl hNext).leads

/-
  A step leaves the bytes that were taken alone and may
  return a message, or it takes bytes and returns none.
-/
theorem step_history
    {action : Action}
    (hStep : step state action = .ok (some state')) :
    (∃ message : Option CanMessage,
        state'.taken = state.taken ∧
          state'.returned =
            state.returned ++ message.toList) ∨
      ∃ bytes,
        state'.taken = state.taken ++ bytes ∧
          state'.returned = state.returned := by
  have hNone : state.returned ++ [] = state.returned :=
    List.append_nil _
  cases action with
  | write frame port =>
      cases hReading : state.reading with
      | some phase => simp [step, hReading] at hStep
      | none =>
          simp only [step, hReading,
            some_map_eq_ok_iff] at hStep
          rcases bind_eq_ok_iff.mp hStep with
            ⟨⟨result, bytes⟩, _, hRest⟩
          cases hRest
          exact Or.inl ⟨none, rfl, hNone.symm⟩
  | read =>
      cases hReading : state.reading <;>
        simp only [step, hReading] at hStep <;>
        cases hStep
      exact Or.inl ⟨none, rfl, hNone.symm⟩
  | tryRead =>
      cases hReading : state.reading with
      | some phase => simp [step, hReading] at hStep
      | none =>
          simp only [step, hReading,
            some_map_eq_ok_iff] at hStep
          rcases bind_eq_ok_iff.mp hStep with
            ⟨⟨message, transport⟩, _, hRest⟩
          cases hRest
          exact Or.inl ⟨message, rfl, rfl⟩
  | cancel =>
      rcases hReading : state.reading with _ | _ | _ <;>
        simp only [step, hReading] at hStep <;>
        cases hStep
      exact Or.inl ⟨none, rfl, hNone.symm⟩
  | scan =>
      rcases hReading : state.reading with _ | _ | _
      · simp [step, hReading] at hStep
      · simp only [step, hReading,
          some_map_eq_ok_iff] at hStep
        rcases bind_eq_ok_iff.mp hStep with
          ⟨⟨message, transport⟩, _, hRest⟩
        cases message with
        | none =>
            cases hRest
            exact Or.inl ⟨none, rfl, hNone.symm⟩
        | some message =>
            cases hRest
            exact Or.inl ⟨some message, rfl, rfl⟩
      · simp [step, hReading] at hStep
  | wait event =>
      rcases hReading : state.reading with _ | _ | _
      · simp [step, hReading] at hStep
      · simp [step, hReading] at hStep
      · simp only [step, hReading,
          some_map_eq_ok_iff] at hStep
        rcases bind_eq_ok_iff.mp hStep with
          ⟨control, _, hRest⟩
        cases control <;> cases hRest <;>
          exact Or.inr ⟨event.bytes, rfl, rfl⟩

theorem step_leads
    {action : Action}
    (written : List CanMessage)
    (hHeard :
      state'.returned <+:
        dataFrames.drain deliver state'.taken)
    (hStep : step state action = .ok (some state')) :
    Conduit.Leads 1 (conduit written state)
      (conduit (written ++ action.copies) state') := by
  refine (leads_copies written action).trans ?_
  rcases step_history hStep with
    ⟨message, hTaken, hReturned⟩ |
    ⟨bytes, hTaken, hReturned⟩
  · exact leads_returned _ message hTaken hReturned hHeard
  · exact leads_taken _ bytes hTaken hReturned

/- A new client is a new conduit. -/
theorem start_conduit
    {config : Config}
    {port : SerialWrite}
    {start : State WaveshareUsbCanA}
    (hNew :
      CanUsbClient.new WaveshareUsbCanA.protocol config port =
        .ok (.ok start, settings)) :
    conduit [] start = .new := by
  have hFresh := new_fresh hNew
  simp only [conduit, hFresh.taken, hFresh.returned,
    dataFrames.drain_nil]
  rfl

/- What a run goes on with is a run of the conduit. -/
theorem run_leads
    {config : Config}
    {port : SerialWrite}
    {start middle : State WaveshareUsbCanA}
    (past later : List Action)
    (hNew :
      CanUsbClient.new WaveshareUsbCanA.protocol config port =
        .ok (.ok start, settings))
    (hPast :
      runActions step past start = .ok (some middle))
    (hLater :
      runActions step later middle = .ok (some state)) :
    Conduit.Leads 1 (conduit (copied past) middle)
      (conduit (copied (past ++ later)) state) := by
  have hFresh := new_fresh hNew
  have hMiddle := reaches_of_runActions hPast
  have hStart :
      conduit (copied (past ++ [])) middle =
        conduit (copied past) middle := by
    rw [List.append_nil]
  rw [← hStart]
  refine refines_run
    (fun made now => conduit (copied (past ++ made)) now)
    ?_ hLater
  intro made before action after hBefore hStep
  have hAfter :=
    reaches_invariant hFresh
      ((hMiddle.trans hBefore).trans (Reaches.single hStep))
  have hTracks :
      dataFrames.drain deliver after.taken =
        after.returned ++
          dataFrames.drain deliver
            after.transport.buffered :=
    hAfter.receives.tracks.drain_eq
  have hHeard :
      after.returned <+:
        dataFrames.drain deliver after.taken := by
    rw [hTracks]
    exact List.prefix_append _ _
  have hCopied :
      copied (past ++ (made ++ [action])) =
        copied (past ++ made) ++ action.copies := by
    simp [copied]
  rw [hCopied]
  exact step_leads (copied (past ++ made)) hHeard hStep

/- So it is orderly at the end of every run. -/
theorem orderly_conduit
    {config : Config}
    {port : SerialWrite}
    {start : State WaveshareUsbCanA}
    {actions : List Action}
    (hNew :
      CanUsbClient.new WaveshareUsbCanA.protocol config port =
        .ok (.ok start, settings))
    (hRun :
      runActions step actions start = .ok (some state)) :
    Conduit.Orderly 1 (conduit (copied actions) state) := by
  have hLeads :
      Conduit.Leads 1 (conduit [] start)
        (conduit (copied actions) state) :=
    run_leads [] actions hNew rfl hRun
  rw [start_conduit hNew] at hLeads
  exact hLeads.orderly Conduit.new_orderly

end CanUsbClient

end UsbCan

------------------------------------------------------------
-- Refinement
------------------------------------------------------------

namespace UsbCan

open WaveshareUsbCanA (Config dataFrames)

variable [EmbeddedCan]

/-
  The wire behind the settings frame decodes as what a
  conduit has passed on, remote frames as empty data frames,
  and the bytes that were read as what it has heard.
-/
structure Serves
    (settings wire taken : List UInt8)
    (c : Conduit CanMessage) :
    Prop where
  writes :
    drain WaveshareUsbCanA.protocol
        (wire.drop settings.length) =
      .ok (c.passed.map CanMessage.asReceived)
  reads :
    drain WaveshareUsbCanA.protocol taken = .ok c.heard

/- What split mode has written and read. -/
theorem SplitMode.serves_conduit
    {settings : List UInt8}
    {state : SplitMode WaveshareUsbCanA}
    (hSend :
      SplitMode.SendInvariant WaveshareUsbCanA.protocol
        settings state) :
    Serves settings state.wire state.taken
      (state.conduit WaveshareUsbCanA.protocol) where
  writes := by
    rw [drain_eq, SplitMode.passed_conduit]
    exact congrArg Except.ok hSend.drain_wire.2
  reads := drain_eq _ _

/- What a client has written, without cut writes, and read. -/
theorem CanUsbClient.serves_conduit
    {config : Config}
    {port : SerialWrite}
    {settings : List UInt8}
    {start state : CanUsbClient.State WaveshareUsbCanA}
    {actions : List CanUsbClient.Action}
    (hNew :
      CanUsbClient.new WaveshareUsbCanA.protocol config port =
        .ok (.ok start, settings))
    (hWhole : ∀ action ∈ actions, action.Whole)
    (hRun :
      runActions CanUsbClient.step actions start =
        .ok (some state)) :
    Serves settings state.written state.taken
      (CanUsbClient.conduit (CanUsbClient.copied actions)
        state) where
  writes := by
    rw [drain_eq, CanUsbClient.passed_conduit]
    exact congrArg Except.ok
      (CanUsbClient.run_drain hNew hWhole hRun)
  reads := drain_eq _ _

/-
  Split mode is a conduit with room for 101 messages: it
  starts as a new one, and whatever leads from one state to
  another is a run of the conduit between the two.  The
  conduit is stopped once the write task has returned, after
  which nothing more is accepted, and nobody listens once
  the receiver is gone, after which nothing is handed over.
-/
theorem SplitMode.split_refines
    (config : Config)
    (port : SerialWrite)
    (settings : List UInt8)
    (start before after : SplitMode WaveshareUsbCanA)
    (hSplit :
      SplitMode.split WaveshareUsbCanA.protocol config port =
        .ok (.ok start, settings))
    (hBefore : Reaches SplitMode.step start before)
    (hAfter : Reaches SplitMode.step before after) :
    let view := SplitMode.conduit WaveshareUsbCanA.protocol
    view start = .new ∧
      Conduit.Leads 101 (view before) (view after) ∧
      Conduit.Orderly 101 (view after) ∧
      (view after).accepted = after.accepted ∧
      (view after).settled.map Prod.fst =
        after.handled.map Prod.fst ∧
      (view after).passed = after.completed ∧
      (view after).got = after.consumed ∧
      ((view after).sending = true ↔ ¬ after.writer.Ended) ∧
      (before.writer.Ended →
        after.accepted = before.accepted) ∧
      (view after).listening =
        after.messages.receiverAlive ∧
      (before.messages.receiverAlive = false →
        after.consumed = before.consumed) ∧
      Serves settings after.wire after.taken (view after) := by
  intro view
  have hReaches := hBefore.trans hAfter
  have hLeads :
      Conduit.Leads 101 (view before) (view after) :=
    SplitMode.reaches_leads hSplit hBefore hAfter
  have hOpen :=
    SplitMode.reaches_channelInvariant hSplit hBefore
  have hClosed :=
    SplitMode.reaches_channelInvariant hSplit hReaches
  refine
    ⟨SplitMode.start_conduit hSplit, hLeads,
      SplitMode.orderly_conduit hSplit hReaches, rfl, ?_,
      SplitMode.passed_conduit, rfl, hClosed.open_iff, ?_,
      rfl, fun hGone => (hLeads.left hGone).2,
      SplitMode.serves_conduit
        (SplitMode.reaches_sendInvariant hSplit hReaches)⟩
  · simp [view, SplitMode.conduit]
  · intro hEnded
    have hStopped : (view before).sending = false := by
      rw [← Bool.not_eq_true]
      exact fun hSending => hOpen.open_iff.mp hSending hEnded
    exact (hLeads.stopped hStopped).2.1

/- A message is sent; it is written and another one comes. -/
omit [EmbeddedCan] in
theorem SplitMode.split_refines_on_example :
    letI := rangedIds
    ∃ before after : SplitMode WaveshareUsbCanA,
      before.accepted.length = 1 ∧
        before.completed = [] ∧
        Conduit.Leads 101
          (before.conduit WaveshareUsbCanA.protocol)
          (after.conduit WaveshareUsbCanA.protocol) ∧
        after.completed.length = 1 ∧
        after.consumed.length = 1 ∧
        Serves (WaveshareUsbCanA.settingsFrame {}) after.wire
          after.taken
          (after.conduit WaveshareUsbCanA.protocol) := by
  have hRun :
      letI := rangedIds
      ∃ (later : List SplitMode.Action)
        (before : SplitMode WaveshareUsbCanA),
        Reaches SplitMode.step SplitMode.fresh before ∧
          before.accepted.length = 1 ∧
          before.completed = [] ∧
          (runActions SplitMode.step later before).map
              (Option.map (fun after =>
                decide (after.completed.length = 1 ∧
                  after.consumed.length = 1))) =
            .ok (some true) :=
    letI := rangedIds
    let message : CanMessage :=
      ⟨.standard ⟨0x123, by decide⟩,
        ⟨[0x11, 0, 0, 0, 0, 0, 0, 0], rfl⟩, 1, false⟩
    let later : List SplitMode.Action :=
      [.writer .lock, .writer (.write 6), .writer .flush,
        .reader .lock, .reader .scan,
        .reader (.wait (.data
          ⟨[0xAA, 0xC1, 0x56, 0x04, 0x22, 0x55],
            by decide⟩)),
        .reader .scan, .reader .push, .user .receive]
    ⟨later, exists_run SplitMode.step
      [.user (.send message), .writer .recv]
      (fun before : SplitMode WaveshareUsbCanA =>
        before.accepted.length = 1 ∧
          before.completed = [] ∧
          (runActions SplitMode.step later before).map
              (Option.map (fun after =>
                decide (after.completed.length = 1 ∧
                  after.consumed.length = 1))) =
            .ok (some true))
      (by decide +kernel)⟩
  let _ : EmbeddedCan := rangedIds
  rcases hRun with
    ⟨later, before, hBefore, hAccepted, hNone, hEnd⟩
  rcases exists_end SplitMode.step later _ hEnd with
    ⟨after, hLater, hCompleted, hConsumed⟩
  rcases SplitMode.split_refines {} .complete _
      SplitMode.fresh before after SplitMode.split_fresh
      hBefore (reaches_of_runActions hLater) with
    ⟨_, hLeads, _, _, _, _, _, _, _, _, _, hServes⟩
  exact
    ⟨before, after, hAccepted, hNone, hLeads, hCompleted,
      hConsumed, hServes⟩

/-
  The exclusive client without cut writes is a conduit with
  room for one message: it starts as a new one, and what a
  run goes on with is a run of the conduit, which gives no
  message up.
-/
theorem CanUsbClient.client_refines
    (config : Config)
    (port : SerialWrite)
    (settings : List UInt8)
    (start before after :
      CanUsbClient.State WaveshareUsbCanA)
    (past later : List CanUsbClient.Action)
    (hNew :
      CanUsbClient.new WaveshareUsbCanA.protocol config port =
        .ok (.ok start, settings))
    (hWhole : ∀ action ∈ past ++ later, action.Whole)
    (hPast :
      runActions CanUsbClient.step past start =
        .ok (some before))
    (hLater :
      runActions CanUsbClient.step later before =
        .ok (some after)) :
    let given := CanUsbClient.copied (past ++ later)
    let view := CanUsbClient.conduit given after
    CanUsbClient.conduit [] start = .new ∧
      Conduit.Leads 1
        (CanUsbClient.conduit (CanUsbClient.copied past)
          before)
        view ∧
      Conduit.Orderly 1 view ∧
      view.accepted = given ∧
      view.passed = view.accepted ∧
      view.got = after.returned ∧
      Serves settings after.written after.taken view := by
  have hRun := runActions_trans hPast hLater
  exact
    ⟨CanUsbClient.start_conduit hNew,
      CanUsbClient.run_leads past later hNew hPast hLater,
      CanUsbClient.orderly_conduit hNew hRun, rfl,
      CanUsbClient.passed_conduit _, rfl,
      CanUsbClient.serves_conduit hNew hWhole hRun⟩

/- A request is written, and then the response is read. -/
omit [EmbeddedCan] in
theorem CanUsbClient.client_refines_on_example :
    letI := rangedIds
    let frame : DataFrame :=
      ⟨.standard ⟨0x123, by decide⟩, [0x01], by decide⟩
    ∃ (before after : CanUsbClient.State WaveshareUsbCanA)
      (c : Conduit CanMessage),
      Conduit.Leads 1
          (CanUsbClient.conduit [frame.message] before) c ∧
        c.passed = [frame.message] ∧
        c.got.length = 1 ∧
        Serves (WaveshareUsbCanA.settingsFrame {})
          after.written after.taken c := by
  have hRun :
      letI := rangedIds
      let frame : DataFrame :=
        ⟨.standard ⟨0x123, by decide⟩, [0x01], by decide⟩
      ∃ after : CanUsbClient.State WaveshareUsbCanA,
        runActions CanUsbClient.step
            ([.write frame.message .complete] ++
              [.read, .scan,
                .wait (.data
                  ⟨[0xAA, 0xC1, 0x23, 0x01, 0x02, 0x55],
                    by decide⟩),
                .scan])
            CanUsbClient.fresh =
            .ok (some after) ∧
          after.returned.length = 1 :=
    letI := rangedIds
    exists_end CanUsbClient.step _
      (fun after : CanUsbClient.State WaveshareUsbCanA =>
        after.returned.length = 1)
      (by decide +kernel)
  let _ : EmbeddedCan := rangedIds
  intro frame
  rcases hRun with ⟨after, hRun, hReturned⟩
  rcases runActions_append hRun with
    ⟨before, hPast, hLater⟩
  have hSendable : ∃ data, Sendable frame.message data :=
    ⟨[0x01], rfl, fun hRemote => absurd hRemote (by decide)⟩
  rcases CanUsbClient.client_refines {} .complete _
      CanUsbClient.fresh before after _ _
      CanUsbClient.new_eq_fresh (by
        simp only [List.singleton_append,
          List.forall_mem_cons, CanUsbClient.Action.Whole,
          true_and, and_true, true_or]
        exact ⟨hSendable, by simp⟩) hPast hLater with
    ⟨_, hLeads, _, hAccepted, hPassed, hGot, hServes⟩
  rw [← hGot] at hReturned
  exact
    ⟨before, after, _, hLeads, hPassed.trans hAccepted,
      hReturned, hServes⟩

------------------------------------------------------------
-- Adapters in a Row
------------------------------------------------------------

/- An adapter in one of its modes. -/
inductive Adapter where
| split (state : SplitMode WaveshareUsbCanA)
| client (state : CanUsbClient.State WaveshareUsbCanA)

namespace Adapter

/- The bytes an adapter has written to its port. -/
def wire : Adapter → List UInt8
| .split state => state.wire
| .client state => state.written

/- The bytes an adapter has read from its port. -/
def taken : Adapter → List UInt8
| .split state => state.taken
| .client state => state.taken

/- The messages an adapter has handed over. -/
def got : Adapter → List CanMessage
| .split state => state.consumed
| .client state => state.returned

variable {adapter first second : Adapter}
variable {settings settings' : List UInt8}
variable {sent sent' : List CanMessage}

end Adapter

end UsbCan
