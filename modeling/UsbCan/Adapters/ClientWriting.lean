import UsbCan.Adapters.ClientContract
import UsbCan.Adapters.SameWire
import UsbCan.Stream.OnWire

/-
  What the exclusive client puts on the wire.

  A write that the port does not cut short adds the encoding
  of its frame, or nothing if the frame is refused.  Where
  no write of a run was cut short, the wire decodes as the
  frames of the calls; behind one that was, at most three
  frames are lost.  An adapter in loopback mode gives the
  caller its own frames back.

  Key definitions include:
    * `Action.copies`
    * `Action.Whole`

  Main declarations:
    * `run_written`
    * `write_recovers`
    * `looped_back`
-/

open Checked Framing

------------------------------------------------------------
-- Written Frames
------------------------------------------------------------

namespace UsbCan

namespace CanUsbClient

open WaveshareUsbCanA

variable [EmbeddedCan]

/- The frame of a write, as a message, unless it is refused. -/
def Action.copies : Action → List CanMessage
| @Action.write _ _ _ frame _ =>
    match CanUsbSender.toMessage frame with
    | .ok (some message) => [message]
    | _ => []
| _ => []

/-
  A write of a lawful frame that the port does not cut
  short: the frame shows its data, and a remote one has a
  legal length and shows nothing.
-/
def Action.Whole : Action → Prop
| @Action.write _ _ _ frame port =>
    (∃ data, Sendable frame data) ∧
      (port = .complete ∨ port = .flushFails)
| _ => True

/- The bytes an action puts on the wire. -/
def Action.bytes
    (transport : Transport WaveshareUsbCanA) :
    Action → List UInt8
| @Action.write _ _ _ frame port =>
    match transport.writeFrame frame port with
    | .ok (_, bytes) => bytes
    | .error _ => []
| _ => []

/- Copies are built by a frame constructor. -/
theorem Action.copies_built
    (action : Action) :
    ∀ message ∈ action.copies, message.Built := by
  cases action with
  | write frame port =>
      intro message hMessage
      simp only [copies] at hMessage
      split at hMessage
      · rename_i copy hCopy
        rw [List.mem_singleton.mp hMessage]
        exact CanUsbSender.toMessage_built hCopy
      · cases hMessage
  | _ => simp [copies]

/- A whole write puts the encodings of its copies on the wire. -/
theorem Action.Whole.bytes_eq
    {action : Action}
    (hWhole : action.Whole)
    (transport : Transport WaveshareUsbCanA) :
    ∃ whole,
      List.Forall₂ (Encodes protocol) action.copies whole ∧
        action.bytes transport = whole.flatten := by
  cases action with
  | write frame port =>
      rcases hWhole with ⟨⟨data, hFrame⟩, hPort⟩
      by_cases hShort : data.length ≤ 8
      · rcases build_copy_of_short hFrame hShort with
          ⟨copy, _, hCopy, _, hBuilds⟩
        have hBuilt := CanUsbSender.toMessage_built hCopy
        have hSame :=
          transport.writeFrame_congr
            (hBuilds _ List.length_replicate).2 port
        rcases transport.frameBytes_built hBuilt with
          ⟨bytes, _, hBytes⟩
        have hEncodes := Transport.encodes_of_frameBytes hBytes
        have hSent : port.sent bytes = bytes := by
          rcases hPort with rfl | rfl <;> rfl
        refine ⟨[bytes], ?_, ?_⟩
        · simp only [copies, hCopy]
          exact .cons hEncodes .nil
        · have hWrite :
              transport.writeFrame frame port =
                .ok (port.result, bytes) := by
            rw [← hSame, Transport.writeFrame, hBytes]
            simp only [ok_bind, hSent, pure_eq_ok]
          simp only [Action.bytes, hWrite,
            List.flatten_cons, List.flatten_nil,
            List.append_nil]
      · rcases build_refused_of_long hFrame (by omega) with
          ⟨hNone, hRefused⟩
        have hError :=
          transport.writeFrame_of_refused
            (hRefused _ List.length_replicate) port
        refine ⟨[], ?_, ?_⟩
        · simp only [copies, hNone]
          exact .nil
        · simp only [Action.bytes, hError, List.flatten_nil]
  | _ => exact ⟨[], .nil, rfl⟩

/- What one action adds to the wire. -/
theorem step_written
    {state state' : State WaveshareUsbCanA}
    {action : Action}
    (hStep : step state action = .ok (some state')) :
    state'.written =
      state.written ++ action.bytes state.transport := by
  have hNothing := List.append_nil state.written
  cases action with
  | write frame port =>
      cases hReading : state.reading with
      | some phase => simp [step, hReading] at hStep
      | none =>
          simp only [step, hReading,
            some_map_eq_ok_iff] at hStep
          rcases bind_eq_ok_iff.mp hStep with
            ⟨⟨result, bytes⟩, hWrite, hRest⟩
          cases hRest
          simp only [Action.bytes, hWrite]
  | read =>
      cases hReading : state.reading <;>
        simp only [step, hReading] at hStep <;>
        cases hStep
      exact hNothing.symm
  | tryRead =>
      cases hReading : state.reading with
      | some phase => simp [step, hReading] at hStep
      | none =>
          simp only [step, hReading,
            some_map_eq_ok_iff] at hStep
          rcases bind_eq_ok_iff.mp hStep with
            ⟨⟨message, transport⟩, _, hRest⟩
          cases hRest
          exact hNothing.symm
  | cancel =>
      rcases hReading : state.reading with _ | _ | _ <;>
        simp only [step, hReading] at hStep <;>
        cases hStep
      exact hNothing.symm
  | scan =>
      rcases hReading : state.reading with _ | _ | _
      · simp [step, hReading] at hStep
      · simp only [step, hReading,
          some_map_eq_ok_iff] at hStep
        rcases bind_eq_ok_iff.mp hStep with
          ⟨⟨message, transport⟩, _, hRest⟩
        cases message <;> cases hRest <;>
          exact hNothing.symm
      · simp [step, hReading] at hStep
  | wait event =>
      rcases hReading : state.reading with _ | _ | _
      · simp [step, hReading] at hStep
      · simp [step, hReading] at hStep
      · simp only [step, hReading,
          some_map_eq_ok_iff] at hStep
        rcases bind_eq_ok_iff.mp hStep with
          ⟨control, _, hRest⟩
        cases control <;> cases hRest <;>
          exact hNothing.symm

/- A new client has written the settings frame. -/
theorem new_written
    {config : Config}
    {port : SerialWrite}
    {settings : List UInt8}
    {start : State WaveshareUsbCanA}
    (hNew :
      CanUsbClient.new protocol config port =
        .ok (.ok start, settings)) :
    start.written = settings := by
  rcases bind_eq_ok_iff.mp hNew with
    ⟨⟨result, bytes⟩, _, hRest⟩
  cases result with
  | error error => cases hRest
  | ok transport =>
      cases hRest
      rfl

------------------------------------------------------------
-- Written Frames of a Run
------------------------------------------------------------

/- The frames of a run, as messages, without refused ones. -/
def copied (actions : List Action) : List CanMessage :=
  actions.flatMap Action.copies

theorem copied_built (actions : List Action) :
    ∀ message ∈ copied actions, message.Built := by
  intro message hMessage
  rcases List.mem_flatMap.mp hMessage with
    ⟨action, _, hCopy⟩
  exact action.copies_built message hCopy

/- A run only adds to the wire. -/
theorem run_adds
    {start state : State WaveshareUsbCanA}
    (hReaches : Reaches step start state) :
    start.written <+: state.written := by
  refine hReaches.invariant
    (fun now => start.written <+: now.written) ?_
    (List.prefix_refl _)
  intro before action after hBefore hStep
  rw [step_written hStep]
  exact hBefore.trans (List.prefix_append _ _)

/- A run without cut writes adds whole encodings. -/
theorem run_written
    {start state : State WaveshareUsbCanA}
    {actions : List Action}
    (hWhole : ∀ action ∈ actions, action.Whole)
    (hRun :
      runActions step actions start = .ok (some state)) :
    ∃ whole,
      List.Forall₂ (Encodes protocol) (copied actions)
          whole ∧
        state.written = start.written ++ whole.flatten := by
  induction actions generalizing start with
  | nil =>
      cases hRun
      exact ⟨[], .nil, (List.append_nil _).symm⟩
  | cons action actions ih =>
      rcases bind_eq_ok_iff.mp hRun with
        ⟨result, hStep, hRest⟩
      cases result with
      | none => cases hRest
      | some next =>
          rcases List.forall_mem_cons.mp hWhole with
            ⟨hFirst, hOthers⟩
          rcases hFirst.bytes_eq start.transport with
            ⟨first, hEncodes, hBytes⟩
          rcases ih hOthers hRest with
            ⟨later, hLater, hWritten⟩
          refine
            ⟨first ++ later, List.rel_append hEncodes hLater,
              ?_⟩
          rw [hWritten, step_written hStep, hBytes,
            List.flatten_append, List.append_assoc]

/-
  A client whose writes in the middle of a run are cut short
  or not.  The wire decodes as the frames of the calls
  before them, then some messages, then all but the first
  three frames of the calls behind them, if the start byte
  stands only at the front of their encodings.  Without a
  middle no frame is lost and none is added.  Remote frames
  count as empty data frames.
-/
theorem write_recovers
    (config : Config)
    (port : SerialWrite)
    (settings : List UInt8)
    (start state : State WaveshareUsbCanA)
    (before middle after : List Action)
    (hNew :
      CanUsbClient.new protocol config port =
        .ok (.ok start, settings))
    (hBefore : ∀ action ∈ before, action.Whole)
    (hAfter : ∀ action ∈ after, action.Whole)
    (hRun :
      runActions step (before ++ middle ++ after) start =
        .ok (some state)) :
    state.written =
        settings ++ state.written.drop settings.length ∧
      ((∀ message ∈ copied after, ∀ bytes,
          Encodes protocol message bytes →
            frameStart ∉ bytes.drop 1) →
        ∃ between,
          drain protocol
              (state.written.drop settings.length) =
            .ok
              ((copied before).map CanMessage.asReceived ++
                (between ++
                  ((copied after).drop 3).map
                    CanMessage.asReceived))) ∧
      (middle = [] →
        drain protocol
            (state.written.drop settings.length) =
          .ok
            ((copied before).map CanMessage.asReceived ++
              (copied after).map
                CanMessage.asReceived)) := by
  rcases runActions_append hRun with
    ⟨late, hEarly, hLast⟩
  rcases runActions_append hEarly with
    ⟨early, hFirst, hMiddle⟩
  rcases run_written hBefore hFirst with
    ⟨front, hFront, hEarlyWritten⟩
  rcases run_adds (reaches_of_runActions hMiddle) with
    ⟨noise, hNoise⟩
  rcases run_written hAfter hLast with
    ⟨back, hBack, hWritten⟩
  have hStart : start.written = settings := new_written hNew
  have hBehind :
      state.written.drop settings.length =
        front.flatten ++ (noise ++ back.flatten) := by
    rw [hWritten, ← hNoise, hEarlyWritten, hStart,
      List.append_assoc, List.append_assoc,
      List.drop_left]
  refine ⟨?_, ?_, ?_⟩
  · rw [hBehind, hWritten, ← hNoise, hEarlyWritten, hStart,
      List.append_assoc, List.append_assoc]
  · intro hStarts
    rcases drain_encodings_behind (copied_built after) hBack
        hStarts noise with
      ⟨between, hDrain⟩
    refine ⟨between, ?_⟩
    rw [hBehind, drain_eq]
    refine congrArg Except.ok ?_
    exact (drain_encodings (copied_built before) hFront
      _).trans (by rw [hDrain])
  · rintro rfl
    cases hMiddle
    have hNone : noise = [] :=
      List.append_right_eq_self.mp hNoise
    rw [hBehind, drain_eq, hNone, List.nil_append]
    refine congrArg Except.ok ?_
    have hAll :=
      drain_encodings (copied_built after) hBack []
    rw [List.append_nil, dataFrames.drain_nil,
      List.append_nil] at hAll
    exact (drain_encodings (copied_built before) hFront
      _).trans (by rw [hAll])

end CanUsbClient

end UsbCan

namespace UsbCan

namespace CanUsbClient

open WaveshareUsbCanA

/- A client over the default configuration. -/
def fresh [EmbeddedCan] : State WaveshareUsbCanA :=
  { quiet with written := settingsFrame {} }

theorem new_eq_fresh [EmbeddedCan] :
    CanUsbClient.new protocol ({} : Config) .complete =
      .ok (.ok fresh, settingsFrame {}) := rfl

/- A write is cut after three bytes; four more follow. -/
theorem write_recovers_on_example :
    letI := rangedIds
    let frame : DataFrame :=
      ⟨.standard ⟨0x123, by decide⟩, [0x11], by decide⟩
    ∃ (state : State WaveshareUsbCanA)
      (between : List CanMessage),
      state.written.length = 20 + 6 + 3 + 4 * 6 ∧
        drain protocol (state.written.drop 20) =
          .ok
            ([frame.message] ++
              (between ++ [frame.message])) := by
  have hRun :
      letI := rangedIds
      let frame : DataFrame :=
        ⟨.standard ⟨0x123, by decide⟩, [0x11], by decide⟩
      ∃ state : State WaveshareUsbCanA,
        runActions step
            ([.write frame.message .complete] ++
              [.write frame.message (.writeFails 3)] ++
              List.replicate 4
                (.write frame.message .flushFails))
            fresh =
            .ok (some state) ∧
          state.written.length = 20 + 6 + 3 + 4 * 6 :=
    letI := rangedIds
    exists_end step _
      (fun state : State WaveshareUsbCanA =>
        state.written.length = 20 + 6 + 3 + 4 * 6)
      (by decide +kernel)
  let _ : EmbeddedCan := rangedIds
  intro frame
  let before : List Action :=
    [.write frame.message .complete]
  let after : List Action :=
    List.replicate 4 (.write frame.message .flushFails)
  rcases hRun with ⟨state, hRun, hLength⟩
  have hSendable :
      ∃ data, Sendable frame.message data :=
    ⟨[0x11], rfl, fun hRemote => absurd hRemote (by decide)⟩
  have hBefore : ∀ action ∈ before, action.Whole := by
    intro action hAction
    rw [List.mem_singleton.mp hAction]
    exact ⟨hSendable, Or.inl rfl⟩
  have hAfter : ∀ action ∈ after, action.Whole := by
    intro action hAction
    rw [List.eq_of_mem_replicate hAction]
    exact ⟨hSendable, Or.inr rfl⟩
  have hStarts :
      ∀ message ∈ copied after, ∀ bytes,
        Encodes protocol message bytes →
          frameStart ∉ bytes.drop 1 := by
    intro message hMessage bytes hEncodes
    have hCopies :
        copied after = List.replicate 4 frame.message := rfl
    rw [hCopies] at hMessage
    rw [List.eq_of_mem_replicate hMessage,
      encodes_message] at hEncodes
    rw [hEncodes]
    decide
  rcases (write_recovers {} .complete _ fresh state before
      _ after new_eq_fresh hBefore hAfter
      hRun).2.1 hStarts with
    ⟨between, hDrain⟩
  exact ⟨state, between, hLength, hDrain⟩

end CanUsbClient

end UsbCan

namespace UsbCan

namespace CanUsbClient

open WaveshareUsbCanA

variable [EmbeddedCan]

/- Without cut writes the wire decodes as the frames. -/
theorem run_drain
    {config : Config}
    {port : SerialWrite}
    {settings : List UInt8}
    {start state : State WaveshareUsbCanA}
    {actions : List Action}
    (hNew :
      CanUsbClient.new protocol config port =
        .ok (.ok start, settings))
    (hWhole : ∀ action ∈ actions, action.Whole)
    (hRun :
      runActions step actions start = .ok (some state)) :
    dataFrames.drain deliver
        (state.written.drop settings.length) =
      (copied actions).map CanMessage.asReceived := by
  rcases run_written hWhole hRun with
    ⟨whole, hEncodes, hWritten⟩
  have hAll :=
    drain_encodings (copied_built actions) hEncodes []
  rw [List.append_nil, dataFrames.drain_nil,
    List.append_nil] at hAll
  rw [hWritten, new_written hNew, List.drop_left, hAll]

/-
  A client with an adapter in loopback mode: what it reads
  from the port is a part of what it has written behind the
  settings frame, and no write was cut short.  Its reads
  return the frames of its writes in order, remote frames as
  empty data frames, none skipped and none added, and a read
  fails only when they have returned all that has come back.
-/
theorem looped_back
    (config : Config)
    (port : SerialWrite)
    (settings : List UInt8)
    (start state : State WaveshareUsbCanA)
    (actions : List Action)
    (hNew :
      CanUsbClient.new protocol config port =
        .ok (.ok start, settings))
    (hWhole : ∀ action ∈ actions, action.Whole)
    (hRun :
      runActions step actions start = .ok (some state))
    (hLink :
      state.taken <+: state.written.drop settings.length) :
    state.returned <+:
        (copied actions).map CanMessage.asReceived ∧
      ∃ kept,
        drain protocol state.transport.buffered =
            .ok kept ∧
          (state.taken =
              state.written.drop settings.length →
            state.returned ++ kept =
              (copied actions).map CanMessage.asReceived) ∧
          (∀ error, state.readError = some error →
            kept = []) := by
  have hWire := run_drain hNew hWhole hRun
  have hState :=
    reaches_invariant (new_fresh hNew)
      (reaches_of_runActions hRun)
  have hTracks :
      dataFrames.drain deliver state.taken =
        state.returned ++
          dataFrames.drain deliver
            state.transport.buffered :=
    hState.receives.tracks.drain_eq
  refine ⟨?_, _, drain_eq protocol _, ?_, ?_⟩
  · rcases hLink with ⟨later, hLater⟩
    have hPrefix :=
      dataFrames.drain_prefix deliver state.taken later
    rw [hLater, hWire, hTracks] at hPrefix
    exact (List.prefix_append _ _).trans hPrefix
  · intro hAll
    rw [hAll, hWire] at hTracks
    exact hTracks.symm
  · intro error hError
    have hExhausted := (hState.failed error hError).2
    exact dataFrames.drain_of_none deliver
      hExhausted.incomplete

end CanUsbClient

end UsbCan

namespace UsbCan

namespace CanUsbClient

open WaveshareUsbCanA

/- The first of two frames comes back in two pieces. -/
theorem looped_back_on_example :
    letI := rangedIds
    let frame : DataFrame :=
      ⟨.standard ⟨0x123, by decide⟩, [0x11], by decide⟩
    ∃ state : State WaveshareUsbCanA,
      state.taken.length = 8 ∧
        state.returned.length = 1 ∧
        state.returned <+: [frame.message, frame.message] := by
  have hRun :
      letI := rangedIds
      let frame : DataFrame :=
        ⟨.standard ⟨0x123, by decide⟩, [0x11], by decide⟩
      ∃ state : State WaveshareUsbCanA,
        runActions step
            [.write frame.message .complete,
              .write frame.message .complete,
              .read, .scan,
              .wait (.data
                ⟨[0xAA, 0xC1, 0x23, 0x01], by decide⟩),
              .scan,
              .wait (.data
                ⟨[0x11, 0x55, 0xAA, 0xC1], by decide⟩),
              .scan]
            fresh =
            .ok (some state) ∧
          state.taken.length = 8 ∧
          state.returned.length = 1 ∧
          state.taken <+: state.written.drop 20 :=
    letI := rangedIds
    exists_end step _
      (fun state : State WaveshareUsbCanA =>
        state.taken.length = 8 ∧
          state.returned.length = 1 ∧
          state.taken <+: state.written.drop 20)
      (by decide +kernel)
  let _ : EmbeddedCan := rangedIds
  intro frame
  rcases hRun with
    ⟨state, hRun, hTaken, hReturned, hLink⟩
  have hSendable :
      ∃ data, Sendable frame.message data :=
    ⟨[0x11], rfl, fun hRemote => absurd hRemote (by decide)⟩
  have hLooped :=
    looped_back {} .complete _ fresh state _ new_eq_fresh
      (by
        simp only [List.forall_mem_cons, Action.Whole,
          true_and, and_true, true_or]
        exact ⟨hSendable, hSendable, by simp⟩)
      hRun hLink
  exact ⟨state, hTaken, hReturned, hLooped.1⟩

end CanUsbClient

end UsbCan
