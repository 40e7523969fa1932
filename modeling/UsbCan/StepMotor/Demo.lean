import UsbCan.StepMotor.CommandReading
import UsbCan.StepMotor.MotorCanContract

/-
  What a program asks of the motors.

  An order is a single command or a batch of commands.  The
  orders of a program are built, sent packet by packet
  through split mode and read by the motors.  The example
  program is a list of such orders.

  Main declarations:
    * `Order.frame`
    * `demo`
    * `readFrame`
    * `understand`
    * `orders_received`
    * `orders_understood`
    * `demo_understood`
-/

open Checked BigEndian Framing

------------------------------------------------------------
-- Orders
------------------------------------------------------------

namespace UsbCan

namespace StepMotor

open CommandBuilder

/- A call of a builder, or a transaction of such calls. -/
inductive Order where
| command (call : Call)
| batch (addr : UInt8) (calls : List Call)

namespace Order

/- The address that the frame of an order carries. -/
def addr : Order → UInt8
| .command call => call.addr
| .batch addr _ => addr

def calls : Order → List Call
| .command call => [call]
| .batch _ calls => calls

/- The frame to be sent; none for an empty transaction. -/
def frame : Order → Exec (Option (List UInt8))
| .command call => do
    let command ← build call
    pure (some command.asBytes)
| .batch addr calls => do
    let commands ← calls.mapM build
    let t ← commands.foldlM Transaction.load .begin
    let batch ← t.commit addr
    pure (batch.map Batch.asBytes)

/- There is a call, and none is a timed return of `Sys`. -/
def Readable (order : Order) : Prop :=
  order.calls ≠ [] ∧
    ∀ call ∈ order.calls, call.isTimedSys = false

end Order

/- What the example program asks of motor 1, in order. -/
def demo : List Order :=
  [.command (.resetClogPro 1),
    .command (.enControl 1 true false),
    .command (.velControl 1 0 500 300.0 false),
    .command (.stopNow 1 false),
    .command (.bypassPosLvControl 1 0 150.0 360.0 2 false),
    .command (.bypassPosLvControl 1 1 150.0 360.0 2 false),
    .batch 0 [.stopNow 1 false, .resetCurPosToZero 1],
    .command (.stopNow 1 false),
    .command (.enControl 1 false false)]

theorem demo_readable :
    ∀ order ∈ demo, order.Readable := by
  simp [demo, Order.Readable, Order.calls, Call.isTimedSys]

theorem demo_short :
    ∀ order ∈ demo, order.calls.length ≤ 24 := by
  simp [demo, Order.calls]

------------------------------------------------------------
-- Reading the Frame of an Order
------------------------------------------------------------

/- What a motor that goes by the function codes reads. -/
def readFrame
    (bytes : List UInt8) :
    Option (List (List UInt8)) :=
  if bytes[1]? = some 0xAA then
    readBatch bytes
  else
    some (commandFormat.drain some bytes)

/- A frame is read as the commands of the calls that fit. -/
def Order.ReadAs
    (order : Order)
    (read : Option (List (List UInt8))) :
    Prop :=
  ∃ commands,
    order.calls.mapM build = .ok commands ∧
      read =
        some (fitting mmclLen (commands.map Command.asBytes))

/- The calls that a motor finds in a frame. -/
def understand
    (bytes : List UInt8) :
    Option (List (CallOf UInt16 UInt32)) :=
  (readFrame bytes).bind (List.mapM readCall)

/-
  A motor is told the first calls of an order, as many as
  there are frames that fit into the buffer of a batch.
-/
def Order.Understood
    (order : Order)
    (told : Option (List (CallOf UInt16 UInt32))) :
    Prop :=
  ∃ n ≤ order.calls.length,
    told = some ((order.calls.take n).map CallOf.sent) ∧
      ∀ m ≤ order.calls.length,
        m ≤ n ↔
          ((order.calls.take m).flatMap Call.frame).length ≤
            mmclLen

/- A frame that can be sent to its motor and read there. -/
structure Order.Framed
    (order : Order)
    (frame : List UInt8) :
    Prop where
  sendable : Sendable frame
  address : frame.head? = some order.addr
  readAs : order.ReadAs (readFrame frame)

/- No command has the function code of a batch. -/
theorem WellFormed.readFrame
    {bytes : List UInt8}
    (hBytes : WellFormed bytes) :
    readFrame bytes = some [bytes] := by
  have hCode : ¬ bytes[1]? = some 0xAA := by
    intro hBatch
    have hSized := hBytes.sized
    rw [hBatch] at hSized
    cases hSized
  have hAlone := hBytes.isWord.drain []
  rw [List.append_nil, commandFormat.drain_nil some]
    at hAlone
  rw [StepMotor.readFrame, if_neg hCode, hAlone]

/- What is read as a batch begins like one. -/
theorem readFrame_of_readBatch
    {bytes : List UInt8}
    {commands : List (List UInt8)}
    (hRead : readBatch bytes = some commands) :
    readFrame bytes = some commands ∧ 4 ≤ bytes.length := by
  unfold readBatch at hRead
  split at hRead
  · rename_i addr code high low rest
    split at hRead
    · rename_i hBatch
      refine ⟨?_, by simp⟩
      have hCode :
          (addr :: code :: high :: low :: rest)[1]? =
            some 0xAA := by
        rw [hBatch.1]
        rfl
      rw [readFrame, if_pos hCode, readBatch,
        if_pos hBatch]
      exact hRead
    · cases hRead
  · cases hRead

/- The frame of a readable order. -/
theorem Order.frame_ok
    (order : Order)
    (hOrder : order.Readable) :
    ∃ frame,
      order.frame = .ok (some frame) ∧
        order.Framed frame := by
  cases order with
  | command call =>
      rcases build_ok call (hOrder.2 call (by simp [calls]))
        with ⟨command, hBuild, hWell, hAddr⟩
      have hBounds := hWell.length_bounds
      refine ⟨command.asBytes, ?_, ?_, hAddr, [command], ?_, ?_⟩
      · rw [frame, hBuild]
        rfl
      · exact ⟨hBounds.1, by omega⟩
      · simp only [calls, List.mapM_cons, hBuild, ok_bind]
        rfl
      · have hFits :
            ([command.asBytes].flatten).length ≤ mmclLen := by
          simp only [List.flatten_singleton, mmclLen]
          omega
        rw [hWell.readFrame, List.map_singleton,
          fitting_of_le hFits]
  | batch addr calls =>
      rcases mapM_build_ok hOrder.2 with
        ⟨commands, hBuild, hLength, hWell⟩
      have hSome : commands ≠ [] := by
        rw [← List.length_pos_iff, hLength,
          List.length_pos_iff]
        exact hOrder.1
      rcases commit_loads addr hSome hWell with
        ⟨t, batch, hLoads, hBatch, hAddr, hRead⟩
      rcases readFrame_of_readBatch hRead with
        ⟨hFrame, hLong⟩
      have hShort := batch.len_le
      rw [mmclLen] at hShort
      rw [Batch.asBytes_length] at hLong
      refine ⟨batch.asBytes, ?_, ?_, ?_, commands, hBuild,
        hFrame⟩
      · simp only [frame]
        rw [show calls.mapM build = _ from hBuild, ok_bind,
          hLoads, ok_bind, hBatch]
        rfl
      · rw [Sendable, Batch.asBytes_length]
        omega
      · rw [List.head?_eq_getElem?]
        exact hAddr

theorem mapM_readCall (calls : List Call) :
    (calls.map Call.frame).mapM readCall =
      some (calls.map CallOf.sent) := by
  induction calls with
  | nil => rfl
  | cons call calls ih =>
      rw [List.map_cons, List.mapM_cons, readCall_call, ih]
      rfl

/- Frames that are read are understood. -/
theorem Order.Framed.understood
    {order : Order}
    {frame : List UInt8}
    (hFramed : order.Framed frame) :
    order.Understood (understand frame) := by
  rcases hFramed.readAs with ⟨commands, hBuild, hRead⟩
  rcases mapM_build_frames order.calls with
    ⟨built, hBuilt, hFrames⟩
  have hSame : commands = built :=
    Except.ok.inj (hBuild.symm.trans hBuilt)
  rcases exists_fitting mmclLen
      (order.calls.map Call.frame) with
    ⟨n, hLe, hTake, hMost⟩
  rw [List.length_map] at hLe hMost
  refine ⟨n, hLe, ?_, ?_⟩
  · rw [understand, hRead, hSame, hFrames, hTake,
      ← List.map_take]
    exact mapM_readCall _
  · intro m hm
    rw [hMost m hm, List.flatMap_def, List.map_take]

/- A frame is at most 21 bytes long. -/
theorem length_frames_le
    {calls : List Call}
    (hCalls : ∀ call ∈ calls, call.isTimedSys = false) :
    (calls.flatMap Call.frame).length ≤
      calls.length * 21 := by
  induction calls with
  | nil => exact Nat.le_refl 0
  | cons call calls ih =>
      have hCall := hCalls call (by simp)
      have hRest := ih
        (fun other h => hCalls other (by simp [h]))
      have hFrame :=
        (call.frame_wellFormed hCall).length_bounds.2
      rw [List.flatMap_cons, List.length_append,
        List.length_cons]
      omega

/- Up to 24 calls always fit into the buffer of a batch. -/
theorem Order.Understood.whole
    {order : Order}
    {told : Option (List (CallOf UInt16 UInt32))}
    (hTold : order.Understood told)
    (hOrder : order.Readable)
    (hShort : order.calls.length ≤ 24) :
    told = some (order.calls.map CallOf.sent) := by
  rcases hTold with ⟨n, _, hFirst, hMost⟩
  have hFits :
      (order.calls.flatMap Call.frame).length ≤ mmclLen := by
    have hLength := length_frames_le hOrder.2
    rw [mmclLen]
    omega
  rw [← List.take_length (l := order.calls),
    ← hMost order.calls.length (Nat.le_refl _)] at hFits
  rw [hFirst, List.take_of_length_le hFits]

/- Short orders are understood call by call. -/
theorem map_understand
    {orders : List Order}
    {frames : List (List UInt8)}
    (hOrders : ∀ order ∈ orders, order.Readable)
    (hShort : ∀ order ∈ orders, order.calls.length ≤ 24)
    (hFramed : List.Forall₂ Order.Framed orders frames) :
    frames.map understand =
      orders.map fun order =>
        some (order.calls.map CallOf.sent) := by
  induction hFramed with
  | nil => rfl
  | cons hHead _ ih =>
      have hFirst :=
        hHead.understood.whole (hOrders _ (by simp))
          (hShort _ (by simp))
      have hRest := ih
        (fun other h => hOrders other (by simp [h]))
        (fun other h => hShort other (by simp [h]))
      rw [List.map_cons, List.map_cons, hFirst, hRest]

/- Readable orders have frames, one each. -/
theorem mapM_frame_ok
    {orders : List Order}
    (hOrders : ∀ order ∈ orders, order.Readable) :
    ∃ frames,
      orders.mapM Order.frame =
          .ok (frames.map some) ∧
        List.Forall₂ Order.Framed orders frames := by
  induction orders with
  | nil => exact ⟨[], rfl, .nil⟩
  | cons order orders ih =>
      rcases order.frame_ok (hOrders order (by simp)) with
        ⟨frame, hFrame, hFramed⟩
      rcases ih (fun other h => hOrders other (by simp [h]))
        with ⟨frames, hFrames, hAll⟩
      refine ⟨frame :: frames, ?_, .cons hFramed hAll⟩
      rw [List.mapM_cons, hFrame, ok_bind, hFrames]
      rfl

theorem framed_of_mapM
    {orders : List Order}
    {frames : List (List UInt8)}
    (hOrders : ∀ order ∈ orders, order.Readable)
    (hFrames :
      orders.mapM Order.frame = .ok (frames.map some)) :
    List.Forall₂ Order.Framed orders frames := by
  rcases mapM_frame_ok hOrders with
    ⟨built, hBuilt, hFramed⟩
  have hSame : built.map some = frames.map some :=
    Except.ok.inj (hBuilt.symm.trans hFrames)
  rwa [← (List.map_inj_right fun _ _ => Option.some.inj).mp
    hSame]

theorem sendable_of_framed
    {orders : List Order}
    {frames : List (List UInt8)}
    (hFramed : List.Forall₂ Order.Framed orders frames) :
    ∀ frame ∈ frames, Sendable frame := by
  induction hFramed with
  | nil => simp
  | cons hHead _ ih =>
      intro frame hFrame
      rcases List.mem_cons.mp hFrame with rfl | hTail
      · exact hHead.sendable
      · exact ih frame hTail

/- The frames for a motor are those of its orders. -/
theorem framed_filter
    {orders : List Order}
    {frames : List (List UInt8)}
    (addr : UInt8)
    (hFramed : List.Forall₂ Order.Framed orders frames) :
    List.Forall₂ Order.Framed
      (orders.filter (fun order => order.addr == addr))
      (frames.filter (isCommandFor addr)) := by
  induction hFramed with
  | nil => exact .nil
  | @cons order frame _ _ hHead _ ih =>
      have hFor :
          isCommandFor addr frame =
            (order.addr == addr) := by
        rw [isCommandFor, hHead.address]
        rfl
      rw [List.filter_cons, List.filter_cons, hFor]
      split
      · exact .cons hHead ih
      · exact ih

------------------------------------------------------------
-- From Orders to Motors
------------------------------------------------------------

variable [EmbeddedCan]

/- Each motor reassembles the frames of its own orders. -/
theorem orders_framed
    {config : WaveshareUsbCanA.Config}
    {port : SerialWrite}
    {settings : List UInt8}
    {begun : SplitMode WaveshareUsbCanA}
    {state : MotorCan}
    {orders : List Order}
    (hSplit :
      SplitMode.split WaveshareUsbCanA.protocol config port =
        .ok (.ok begun, settings))
    (hReaches :
      Reaches MotorCan.step (MotorCan.start begun) state)
    (hOrders : ∀ order ∈ orders, order.Readable)
    (hIssued :
      orders.mapM Order.frame =
        .ok (state.issued.map some))
    (hCompleted :
      state.mode.completed = state.mode.accepted)
    (hRest : state.stage.atRest = true) :
    ∃ messages,
      drain WaveshareUsbCanA.protocol
          (state.mode.wire.drop settings.length) =
        .ok messages ∧
      ∀ addr,
        List.Forall₂ Order.Framed
          (orders.filter (fun order => order.addr == addr))
          (reassemble addr
            (messages.filterMap packetOf)) := by
  have hFramed := framed_of_mapM hOrders hIssued
  have hSendable := sendable_of_framed hFramed
  have hFlow :=
    MotorCan.reaches_flow hSplit hReaches hSendable
  refine
    ⟨state.mode.completed, hFlow.drain_wire hSplit, ?_⟩
  intro addr
  rw [hFlow.reassemble_all hSplit hSendable hRest hCompleted]
  exact framed_filter addr hFramed

/-
  The protection of motor 1 is lifted; then two commands for
  it are broadcast in one batch, and all of it is written.
-/
omit [EmbeddedCan] in
theorem exists_issued :
    letI := rangedIds
    ∃ state : MotorCan,
      Reaches MotorCan.step
          (MotorCan.start SplitMode.fresh) state ∧
        [Order.command (.resetClogPro 1),
            .batch 0
              [.stopNow 1 false,
                .resetCurPosToZero 1]].mapM Order.frame =
          .ok (state.issued.map some) ∧
        state.stage.atRest = true ∧
        state.mode.completed = state.mode.accepted :=
  letI := rangedIds
  exists_run MotorCan.step
    [.call [0x01, 0x0E, 0x52, 0x6B], .advance,
      .writer .recv, .advance, .writer .lock,
      .writer (.write 10), .writer .flush,
      .call [0x00, 0xAA, 0x00, 0x0E, 0x01, 0xFE, 0x98, 0x00,
        0x6B, 0x01, 0x0A, 0x6D, 0x6B, 0x6B],
      .advance, .advance, .advance, .finish,
      .writer .recv, .writer .lock, .writer (.write 15),
      .writer .flush, .writer .recv, .writer .lock,
      .writer (.write 13), .writer .flush]
    (fun state : MotorCan =>
      [Order.command (.resetClogPro 1),
          .batch 0
            [.stopNow 1 false,
              .resetCurPosToZero 1]].mapM Order.frame =
        .ok (state.issued.map some) ∧
      state.stage.atRest = true ∧
      state.mode.completed = state.mode.accepted)
    (by decide +kernel)

/-
  A program that has issued the frames of readable orders,
  and whose messages have all been written, has told each
  address exactly what was ordered for it, in order: the
  commands of the calls, and of a batch those that fit.  An
  order counts for the address in its frame.  This holds in
  whatever order the processes have made their steps.
-/
theorem orders_received
    (config : WaveshareUsbCanA.Config)
    (port : SerialWrite)
    (settings : List UInt8)
    (begun : SplitMode WaveshareUsbCanA)
    (state : MotorCan)
    (orders : List Order)
    (hSplit :
      SplitMode.split WaveshareUsbCanA.protocol config port =
        .ok (.ok begun, settings))
    (hReaches :
      Reaches MotorCan.step (MotorCan.start begun) state)
    (hOrders : ∀ order ∈ orders, order.Readable)
    (hIssued :
      orders.mapM Order.frame =
        .ok (state.issued.map some))
    (hCompleted :
      state.mode.completed = state.mode.accepted)
    (hRest : state.stage.atRest = true) :
    ∃ messages,
      drain WaveshareUsbCanA.protocol
          (state.mode.wire.drop settings.length) =
        .ok messages ∧
      ∀ addr,
        List.Forall₂ Order.ReadAs
          (orders.filter (fun order => order.addr == addr))
          ((reassemble addr
              (messages.filterMap packetOf)).map
            readFrame) := by
  rcases orders_framed hSplit hReaches hOrders hIssued
      hCompleted hRest with
    ⟨messages, hDrain, hMotors⟩
  refine ⟨messages, hDrain, ?_⟩
  intro addr
  rw [List.forall₂_map_right_iff]
  exact (hMotors addr).imp fun _ _ hFramed => hFramed.readAs

/- What each motor reads in that run. -/
omit [EmbeddedCan] in
theorem orders_received_on_example :
    letI := rangedIds
    let orders : List Order :=
      [.command (.resetClogPro 1),
        .batch 0 [.stopNow 1 false, .resetCurPosToZero 1]]
    ∃ (state : MotorCan) (messages : List CanMessage),
      Reaches MotorCan.step
          (MotorCan.start SplitMode.fresh) state ∧
        drain WaveshareUsbCanA.protocol
            (state.mode.wire.drop
              (WaveshareUsbCanA.settingsFrame {}).length) =
          .ok messages ∧
        ∀ addr,
          List.Forall₂ Order.ReadAs
            (orders.filter
              (fun order => order.addr == addr))
            ((reassemble addr
                (messages.filterMap packetOf)).map
              readFrame) := by
  let _ : EmbeddedCan := rangedIds
  intro orders
  rcases exists_issued with
    ⟨state, hReaches, hIssued, hRest, hCompleted⟩
  have hOrders : ∀ order ∈ orders, order.Readable := by
    simp [orders, Order.Readable, Order.calls,
      Call.isTimedSys]
  rcases orders_received {} .complete _ SplitMode.fresh state
      orders SplitMode.split_fresh hReaches hOrders hIssued
      hCompleted hRest with
    ⟨messages, hDrain, hMotors⟩
  exact ⟨state, messages, hReaches, hDrain, hMotors⟩

/-
  At each address what is reassembled tells exactly the
  calls of the readable orders with this address in their
  frames, in order, up to the rounding of their numbers, and
  of a transaction the first calls, as many as fit.
-/
theorem orders_understood
    (config : WaveshareUsbCanA.Config)
    (port : SerialWrite)
    (settings : List UInt8)
    (begun : SplitMode WaveshareUsbCanA)
    (state : MotorCan)
    (orders : List Order)
    (hSplit :
      SplitMode.split WaveshareUsbCanA.protocol config port =
        .ok (.ok begun, settings))
    (hReaches :
      Reaches MotorCan.step (MotorCan.start begun) state)
    (hOrders : ∀ order ∈ orders, order.Readable)
    (hIssued :
      orders.mapM Order.frame =
        .ok (state.issued.map some))
    (hCompleted :
      state.mode.completed = state.mode.accepted)
    (hRest : state.stage.atRest = true) :
    ∃ messages,
      drain WaveshareUsbCanA.protocol
          (state.mode.wire.drop settings.length) =
        .ok messages ∧
      ∀ addr,
        List.Forall₂ Order.Understood
          (orders.filter (fun order => order.addr == addr))
          ((reassemble addr
              (messages.filterMap packetOf)).map
            understand) := by
  rcases orders_framed hSplit hReaches hOrders hIssued
      hCompleted hRest with
    ⟨messages, hDrain, hMotors⟩
  refine ⟨messages, hDrain, ?_⟩
  intro addr
  rw [List.forall₂_map_right_iff]
  exact (hMotors addr).imp fun _ _ hFramed =>
    hFramed.understood

/- What each motor finds in that run. -/
omit [EmbeddedCan] in
theorem orders_understood_on_example :
    letI := rangedIds
    let orders : List Order :=
      [.command (.resetClogPro 1),
        .batch 0 [.stopNow 1 false, .resetCurPosToZero 1]]
    ∃ (state : MotorCan) (messages : List CanMessage),
      Reaches MotorCan.step
          (MotorCan.start SplitMode.fresh) state ∧
        drain WaveshareUsbCanA.protocol
            (state.mode.wire.drop
              (WaveshareUsbCanA.settingsFrame {}).length) =
          .ok messages ∧
        ∀ addr,
          List.Forall₂ Order.Understood
            (orders.filter
              (fun order => order.addr == addr))
            ((reassemble addr
                (messages.filterMap packetOf)).map
              understand) := by
  let _ : EmbeddedCan := rangedIds
  intro orders
  rcases exists_issued with
    ⟨state, hReaches, hIssued, hRest, hCompleted⟩
  have hOrders : ∀ order ∈ orders, order.Readable := by
    simp [orders, Order.Readable, Order.calls,
      Call.isTimedSys]
  rcases orders_understood {} .complete _ SplitMode.fresh state
      orders SplitMode.split_fresh hReaches hOrders hIssued
      hCompleted hRest with
    ⟨messages, hDrain, hMotors⟩
  exact ⟨state, messages, hReaches, hDrain, hMotors⟩

/-
  The example program tells each motor address all that it
  asks there, whatever the processes have done in between:
  its only transaction fits into one frame.
-/
theorem demo_understood
    {config : WaveshareUsbCanA.Config}
    {port : SerialWrite}
    {settings : List UInt8}
    {begun : SplitMode WaveshareUsbCanA}
    {state : MotorCan}
    (hSplit :
      SplitMode.split WaveshareUsbCanA.protocol config port =
        .ok (.ok begun, settings))
    (hReaches :
      Reaches MotorCan.step (MotorCan.start begun) state)
    (hIssued :
      demo.mapM Order.frame = .ok (state.issued.map some))
    (hCompleted :
      state.mode.completed = state.mode.accepted)
    (hRest : state.stage.atRest = true) :
    ∃ messages,
      drain WaveshareUsbCanA.protocol
          (state.mode.wire.drop settings.length) =
        .ok messages ∧
      ∀ addr,
        (reassemble addr (messages.filterMap packetOf)).map
            understand =
          (demo.filter (fun order => order.addr == addr)).map
            fun order =>
              some (order.calls.map CallOf.sent) := by
  rcases orders_framed hSplit hReaches demo_readable hIssued
      hCompleted hRest with
    ⟨messages, hDrain, hMotors⟩
  refine ⟨messages, hDrain, ?_⟩
  intro addr
  refine map_understand ?_ ?_ (hMotors addr)
  · exact fun order hOrder =>
      demo_readable order (List.mem_of_mem_filter hOrder)
  · exact fun order hOrder =>
      demo_short order (List.mem_of_mem_filter hOrder)

end StepMotor

end UsbCan
