import UsbCan.Adapters.Client
import UsbCan.Adapters.Receiving
import UsbCan.Protocol.Parser

/-
  What every run of the exclusive client keeps.

  Main declarations:
    * `Invariant`, `step_invariant`
    * `read_stream`
    * `receive_safe`
-/

open Checked Framing

------------------------------------------------------------
-- The Invariant
------------------------------------------------------------

namespace UsbCan

namespace CanUsbClient

variable [EmbeddedCan]
variable {P : Type} [Protocol P]

/- Between calls, with an empty buffer and no history. -/
structure Fresh (state : State P) : Prop where
  empty : state.transport.rxLength = 0
  idle : state.reading = none
  readError : state.readError = none
  returned : state.returned = []
  taken : state.taken = []

/- A new client is fresh. -/
theorem new_fresh
    {protocol : P}
    {config : Protocol.Config P}
    {port : SerialWrite}
    {state : State P}
    {written : List UInt8}
    (hNew :
      CanUsbClient.new protocol config port =
        .ok (.ok state, written)) :
    Fresh state := by
  rcases bind_eq_ok_iff.mp hNew with
    ⟨⟨result, bytes⟩, hTransport, hRest⟩
  cases result with
  | error error => cases hRest
  | ok transport =>
      cases hRest
      rcases bind_eq_ok_iff.mp hTransport with
        ⟨⟨settings, sent⟩, _, hDone⟩
      cases settings with
      | error error => cases hDone
      | ok done =>
          cases hDone
          exact ⟨rfl, rfl, rfl, rfl, rfl⟩

variable [ScanningProtocol P]

/-
  The receive side follows the stream, and where a read
  waits or has just failed the buffer is exhausted.
-/
structure Invariant
    (protocol : P)
    (state : State P) :
    Prop where
  receives :
    state.transport.Receives protocol state.taken
      state.returned
  waiting :
    state.reading = some .waiting →
      state.transport.Exhausted protocol
  failed :
    ∀ error, state.readError = some error →
      state.reading = none ∧
        state.transport.Exhausted protocol

theorem Fresh.invariant
    {state : State P}
    (hFresh : Fresh state) :
    Invariant state.transport.protocol state where
  receives := by
    rw [hFresh.taken, hFresh.returned]
    exact Transport.Receives.start rfl hFresh.empty
  waiting hWaiting := by
    rw [hFresh.idle] at hWaiting
    cases hWaiting
  failed error hError := by
    rw [hFresh.readError] at hError
    cases hError

variable {protocol : P} {state : State P}

/-
  A client that does not wait for the port and whose last
  call did not fail owes nothing about the buffer.
-/
theorem Invariant.of_running
    (hReceives :
      state.transport.Receives protocol state.taken
        state.returned)
    (hReading : state.reading ≠ some .waiting)
    (hNoError : state.readError = none) :
    Invariant protocol state := by
  constructor
  · exact hReceives
  · intro hWaiting
    exact absurd hWaiting hReading
  · intro error hError
    rw [hNoError] at hError
    cases hError

/- A pending read has not failed yet. -/
theorem Invariant.pending
    (hState : Invariant protocol state)
    (hPending : state.reading ≠ none) :
    state.readError = none := by
  cases hError : state.readError with
  | none => rfl
  | some error =>
      exact absurd (hState.failed error hError).1 hPending

/- A `try_read` call returns and keeps the invariant. -/
theorem tryRead_invariant
    (hState : Invariant protocol state)
    (hIdle : state.reading = none) :
    ∃ state', tryRead state = .ok state' ∧
      Invariant protocol state' := by
  rcases hState.receives.tryReadFrame with
    ⟨message, transport, hRead, hReceives, _⟩
  refine ⟨_, by
    rw [tryRead, hRead]
    rfl, ?_⟩
  exact .of_running hReceives (by simp [hIdle]) rfl

/- A look into the buffer keeps the invariant. -/
theorem scan_invariant
    (hState : Invariant protocol state)
    (hScanning : state.reading = some .scanning) :
    ∃ state', scan state = .ok state' ∧
      Invariant protocol state' := by
  have hNoError :=
    hState.pending (by simp [hScanning])
  rcases hState.receives.tryReadFrame with
    ⟨message, transport, hRead, hReceives, hExhausted⟩
  cases message with
  | some message =>
      refine ⟨_, by
        rw [scan, hRead]
        rfl, ?_⟩
      exact .of_running hReceives (by simp) hNoError
  | none =>
      refine ⟨_, by
        rw [scan, hRead]
        rfl, ?_⟩
      exact
        { receives := by simpa using hReceives
          waiting := fun _ => hExhausted rfl
          failed := by
            intro error hError
            cases hNoError.symm.trans hError }

/- The end of a wait keeps the invariant. -/
theorem wait_invariant
    (hState : Invariant protocol state)
    (hWaiting : state.reading = some .waiting)
    (event : ReadEvent) :
    ∃ state', wait state event = .ok state' ∧
      Invariant protocol state' := by
  have hNoError :=
    hState.pending (by simp [hWaiting])
  have hExhausted := hState.waiting hWaiting
  rcases hState.receives.awaitSerial hExhausted event with
    ⟨error, hAwait, hNothing⟩ |
    ⟨transport, hAwait, hReceives⟩
  · refine ⟨_, by
      rw [wait, hAwait]
      rfl, ?_⟩
    exact
      { receives := by
          rw [hNothing, List.append_nil]
          exact hState.receives
        waiting := by
          intro hAgain
          cases hAgain
        failed := fun _ _ => ⟨rfl, hExhausted⟩ }
  · refine ⟨_, by
      rw [wait, hAwait]
      rfl, ?_⟩
    exact .of_running hReceives (by simp) hNoError

/- Writing does not touch the receive side. -/
theorem write_invariant
    {F : Type} [Frame F]
    {frame : F}
    {port : SerialWrite}
    {state' : State P}
    (hState : Invariant protocol state)
    (hWrite : write state frame port = .ok state') :
    Invariant protocol state' := by
  rcases bind_eq_ok_iff.mp hWrite with
    ⟨⟨result, bytes⟩, _, hRest⟩
  cases hRest
  exact
    { receives := hState.receives
      waiting := hState.waiting
      failed := by
        intro error hError
        cases hError }

------------------------------------------------------------
-- Steps and Runs
------------------------------------------------------------

/- Every step keeps the invariant. -/
theorem step_invariant
    {action : Action}
    {state' : State P}
    (hState : Invariant protocol state)
    (hStep : step state action = .ok (some state')) :
    Invariant protocol state' := by
  cases action with
  | read =>
      cases hReading : state.reading with
      | some phase =>
          simp [step, hReading] at hStep
      | none =>
          simp only [step, hReading, pure_eq_ok,
            Except.ok.injEq, Option.some.injEq] at hStep
          subst hStep
          exact .of_running hState.receives (by simp) rfl
  | tryRead =>
      cases hReading : state.reading with
      | some phase =>
          simp [step, hReading] at hStep
      | none =>
          simp only [step, hReading,
            some_map_eq_ok_iff] at hStep
          rcases tryRead_invariant hState hReading with
            ⟨next, hNext, hInvariant⟩
          rw [hNext] at hStep
          cases hStep
          exact hInvariant
  | write frame port =>
      cases hReading : state.reading with
      | some phase =>
          simp [step, hReading] at hStep
      | none =>
          simp only [step, hReading,
            some_map_eq_ok_iff] at hStep
          exact write_invariant hState hStep
  | cancel =>
      cases hReading : state.reading with
      | none => simp [step, hReading] at hStep
      | some phase =>
          cases phase with
          | scanning => simp [step, hReading] at hStep
          | waiting =>
              have hNoError :=
                hState.pending (by simp [hReading])
              simp only [step, hReading, pure_eq_ok,
                Except.ok.injEq, Option.some.injEq] at hStep
              subst hStep
              exact .of_running hState.receives (by simp)
                hNoError
  | scan =>
      cases hReading : state.reading with
      | none => simp [step, hReading] at hStep
      | some phase =>
          cases phase with
          | waiting => simp [step, hReading] at hStep
          | scanning =>
              simp only [step, hReading,
                some_map_eq_ok_iff] at hStep
              rcases scan_invariant hState hReading with
                ⟨next, hNext, hInvariant⟩
              rw [hNext] at hStep
              cases hStep
              exact hInvariant
  | wait event =>
      cases hReading : state.reading with
      | none => simp [step, hReading] at hStep
      | some phase =>
          cases phase with
          | scanning => simp [step, hReading] at hStep
          | waiting =>
              simp only [step, hReading,
                some_map_eq_ok_iff] at hStep
              rcases wait_invariant hState hReading event
                with
                ⟨next, hNext, hInvariant⟩
              rw [hNext] at hStep
              cases hStep
              exact hInvariant

/- An action of the receive path. -/
def Action.OfReceivePath : Action → Prop
| @Action.write _ _ _ _ _ => False
| _ => True

/- The receive path does not fault. -/
theorem step_receivePath
    {action : Action}
    (hState : Invariant protocol state)
    (hAction : action.OfReceivePath) :
    ∃ next, step state action = .ok next := by
  cases action with
  | write frame port => cases hAction
  | read =>
      cases hReading : state.reading <;>
        simp [step, hReading]
  | tryRead =>
      cases hReading : state.reading with
      | some phase => simp [step, hReading]
      | none =>
          rcases tryRead_invariant hState hReading with
            ⟨next, hNext, _⟩
          simp [step, hReading, hNext]
  | cancel =>
      cases hReading : state.reading with
      | none => simp [step, hReading]
      | some phase =>
          cases phase <;> simp [step, hReading]
  | scan =>
      cases hReading : state.reading with
      | none => simp [step, hReading]
      | some phase =>
          cases phase with
          | waiting => simp [step, hReading]
          | scanning =>
              rcases scan_invariant hState hReading with
                ⟨next, hNext, _⟩
              simp [step, hReading, hNext]
  | wait event =>
      cases hReading : state.reading with
      | none => simp [step, hReading]
      | some phase =>
          cases phase with
          | scanning => simp [step, hReading]
          | waiting =>
              rcases wait_invariant hState hReading event
                with
                ⟨next, hNext, _⟩
              simp [step, hReading, hNext]

/- Every state of a run from a fresh client. -/
theorem reaches_invariant
    {start : State P}
    (hFresh : Fresh start)
    (hReaches : Reaches step start state) :
    Invariant start.transport.protocol state :=
  hReaches.invariant
    (Invariant start.transport.protocol)
    (fun _ _ _ hBefore hStep =>
      step_invariant hBefore hStep)
    hFresh.invariant

------------------------------------------------------------
-- The Exclusive Client over a Serial Port
------------------------------------------------------------

open WaveshareUsbCanA

/-
  Decoding does not depend on how the bytes arrive or how
  the caller polls.  What was returned, followed by what the
  buffer still yields, is what all taken bytes yield; when a
  read has failed, nothing deliverable is left behind.
-/
theorem read_stream
    (start state : State WaveshareUsbCanA)
    (hFresh : Fresh start)
    (hReaches : Reaches step start state) :
    (∃ kept,
        drain WaveshareUsbCanA.protocol
            state.transport.buffered =
          .ok kept ∧
        drain WaveshareUsbCanA.protocol state.taken =
          .ok (state.returned ++ kept)) ∧
      ∀ error, state.readError = some error →
        drain WaveshareUsbCanA.protocol state.taken =
          .ok state.returned := by
  have hState := reaches_invariant hFresh hReaches
  cases hProtocol : start.transport.protocol
  rw [hProtocol] at hState
  refine ⟨hState.receives.drain, ?_⟩
  intro error hError
  exact hState.receives.drain_exhausted
    (hState.failed error hError).2

end CanUsbClient

end UsbCan

namespace UsbCan

namespace CanUsbClient

/- A client over a port from which nothing has been read. -/
def quiet
    [EmbeddedCan] :
    State WaveshareUsbCanA where
  transport :=
    { protocol := .protocol
      rxBuffer := FixedArray.replicate rxSize 0
      rxLength := 0
      temp := FixedArray.replicate tempSize 0 }
  reading := none
  readError := none
  returned := []
  taken := []
  written := []

theorem quiet_fresh
    [EmbeddedCan] :
    Fresh quiet :=
  ⟨rfl, rfl, rfl, rfl, rfl⟩

/- A frame in two reads, and a read that times out. -/
theorem read_stream_on_example :
    letI := rangedIds
    ∃ state : State WaveshareUsbCanA,
      state.readError = some .readTimeout ∧
        state.returned.length = 1 ∧
        drain WaveshareUsbCanA.protocol state.taken =
          .ok state.returned := by
  let _ : EmbeddedCan := rangedIds
  have hRun :
      ∃ state,
        runActions step
            [.read, .scan,
              .wait (.data
                ⟨[0x00, 0xAA, 0xC1, 0x23], by decide⟩),
              .scan,
              .wait (.data ⟨[0x01, 0x11, 0x55], by decide⟩),
              .scan, .read, .scan, .wait .elapsed]
            quiet =
          .ok (some state) ∧
          state.readError = some .readTimeout ∧
          state.returned.length = 1 :=
    ⟨_, rfl, rfl, rfl⟩
  rcases hRun with ⟨state, hRun, hError, hLength⟩
  have hStream :=
    read_stream quiet state quiet_fresh
      (reaches_of_runActions hRun)
  exact ⟨state, hError, hLength, hStream.2 _ hError⟩

end CanUsbClient

end UsbCan

------------------------------------------------------------
-- The Receive Path
------------------------------------------------------------

namespace UsbCan

namespace CanUsbClient

variable [EmbeddedCan]

open WaveshareUsbCanA

/-
  The receive path of every reachable client: the buffer
  stays small enough that no read discards bytes, nothing
  faults, and every loop ends.
-/
theorem receive_safe
    (start state : State WaveshareUsbCanA)
    (hFresh : Fresh start)
    (hReaches : Reaches step start state) :
    state.transport.rxLength ≤ 14 + 256 ∧
      (state.reading = some .waiting →
        state.transport.rxLength ≤ 14 ∧
          ∀ chunk : Chunk,
            ¬ state.transport.rxLength +
              chunk.bytes.length > rxSize) ∧
      (∃ message transport,
        state.transport.tryReadFrame =
            .ok (message, transport) ∧
          (message = none → transport.rxLength ≤ 14)) ∧
      (∀ action : Action, action.OfReceivePath →
        ∃ next, step state action = .ok next) ∧
      (∀ buffer dataOut,
        ∃ consumed frameMeta dataOut',
          parseNextFrame buffer dataOut =
              .ok ((consumed, frameMeta), dataOut') ∧
            consumed ≤ buffer.length ∧
            ∀ found, frameMeta = some found →
              ∃ message,
                Transport.parsedToMessage found dataOut' =
                  .ok message) ∧
      ∀ transport : Transport WaveshareUsbCanA,
        transport.rxLength ≤ rxSize →
          ∃ result,
            transport.tryReadFrame = .ok result := by
  have hState := reaches_invariant hFresh hReaches
  have hReach :
      (ScanningProtocol.grammar
        start.transport.protocol).reach = 15 := rfl
  refine ⟨?_, ?_, ?_, ?_, ?_, ?_⟩
  · have hBound := hState.receives.bounded
    unfold tempSize at hBound
    omega
  · intro hWaiting
    have hShort := (hState.waiting hWaiting).short
    refine ⟨by omega, ?_⟩
    intro chunk
    have hChunk := chunk.length_le
    unfold tempSize at hChunk
    unfold rxSize
    omega
  · rcases hState.receives.tryReadFrame with
      ⟨message, transport, hRead, _, hExhausted⟩
    refine ⟨message, transport, hRead, ?_⟩
    intro hNone
    have hShort := (hExhausted hNone).short
    omega
  · intro action hAction
    exact step_receivePath hState hAction
  · intro buffer dataOut
    have hLe := dataFrames.scan_le buffer
    rw [parseNextFrame_scan]
    generalize dataFrames.scan buffer = scanned at hLe
    rcases scanned with ⟨consumed, _ | frame⟩
    · refine ⟨consumed, none, dataOut, rfl, hLe, ?_⟩
      intro found hFound
      cases hFound
    · refine
        ⟨consumed, some frame.frameMeta,
          frame.writtenTo dataOut, rfl, hLe, ?_⟩
      intro found hFound
      cases hFound
      exact ⟨_, parsedToMessage_deliver frame dataOut⟩
  · intro transport hSized
    rcases Transport.tryReadFrame_next hSized with
      ⟨result, hRead, _⟩
    exact ⟨result, hRead⟩

end CanUsbClient

end UsbCan

namespace UsbCan

namespace CanUsbClient

/- A read that waits behind a junk byte. -/
theorem receive_safe_on_example :
    letI := rangedIds
    ∃ state : State WaveshareUsbCanA,
      state.taken = [0x00, 0xAA, 0xC1, 0x23, 0x01] ∧
        state.transport.rxLength ≤ 14 := by
  let _ : EmbeddedCan := rangedIds
  have hRun :
      ∃ state,
        runActions step
            [.read, .scan,
              .wait (.data
                ⟨[0x00, 0xAA, 0xC1, 0x23, 0x01],
                  by decide⟩),
              .scan]
            quiet =
          .ok (some state) ∧
          state.taken = [0x00, 0xAA, 0xC1, 0x23, 0x01] ∧
          state.reading = some .waiting :=
    ⟨_, rfl, rfl, rfl⟩
  rcases hRun with ⟨state, hRun, hTaken, hWaiting⟩
  have hSafe :=
    receive_safe quiet state quiet_fresh
      (reaches_of_runActions hRun)
  exact ⟨state, hTaken, (hSafe.2.1 hWaiting).1⟩

end CanUsbClient

end UsbCan
