import UsbCan.Library.Reader
import UsbCan.StepMotor.CommandFormat

/-
  What the frames of the builders say.

  A frame is read back field by field, so it tells the call
  that it was built for, with its numbers in tenths and
  without their signs.  Only two builders write the same
  frames: both of these read the state of the system.

  Main declarations:
    * `CallOf.sent`
    * `readCall`
    * `readCall_frame`
    * `calls_told_apart`
-/

open Checked BigEndian

------------------------------------------------------------
-- Calls as They Are Sent
------------------------------------------------------------

namespace UsbCan

namespace StepMotor

namespace CommandBuilder

namespace CallOf

variable {Speed Position : Type}

/- The two builders that write the same frames, as one. -/
def merged :
    CallOf Speed Position → CallOf Speed Position
| .readSysParams addr .sys => .readSystemStateParams addr
| call => call

theorem frame_merged (call : CallOf UInt16 UInt32) :
    call.merged.frame = call.frame := by
  cases call with
  | readSysParams addr s => cases s <;> rfl
  | _ => rfl

/- What is sent of a call: tenths, without their signs. -/
def sent (call : Call) : CallOf UInt16 UInt32 :=
  (call.map tenfold16 tenfold32).merged

end CallOf

------------------------------------------------------------
-- Reading Calls
------------------------------------------------------------

open Reader

/- The kind of parameters with an information code. -/
def namedParams (code : UInt8) : Option SysParams :=
  [.vBus, .cBus, .cPha, .enco, .clkc, .encl, .clki, .tPos,
    .sPos, .vel, .cPos, .pErr, .vBat, .temp, .flag, .oFlag,
    .oaf, .pin].find? (fun s => s.timedCode == some code)

/- The type of a motor is its step angle in tenths. -/
def motType : Reader UInt8 Bool
| 25 :: rest => some (true, rest)
| 50 :: rest => some (false, rest)
| _ => none

/- A timed return; only that of `Sys` has no code. -/
def timedReturn
    (addr : UInt8) :
    Reader UInt8 (CallOf UInt16 UInt32) := do
  let left ← remaining
  if left = 3 then
    .autoReturnSysParamsTimed addr .sys <$> word16
  else do
    let code ← symbol
    let s ← require (namedParams code)
    .autoReturnSysParamsTimed addr s <$> word16

/- How to read what follows a function code. -/
def layout
    (addr : UInt8) :
    UInt8 → Option (Reader UInt8 (CallOf UInt16 UInt32))
| 0x06 => some (expect 0x45 *> pure (.trigEncoderCal addr))
| 0x08 => some (expect 0x97 *> pure (.resetMotor addr))
| 0x0A => some (expect 0x6D *> pure (.resetCurPosToZero addr))
| 0x0E => some (expect 0x52 *> pure (.resetClogPro addr))
| 0x0F => some (expect 0x5F *> pure (.restoreMotor addr))
| 0xF3 =>
    some (expect 0xAB *> .enControl addr <$> flag <*> flag)
| 0xF5 =>
    some (.torqueControl addr <$> symbol <*> word16 <*>
      word16 <*> flag)
| 0xC5 =>
    some (.torqueLvControl addr <$> symbol <*> word16 <*>
      word16 <*> flag <*> word16)
| 0xF6 =>
    some (.velControl addr <$> symbol <*> word16 <*> word16 <*>
      flag)
| 0xC6 =>
    some (.velLcControl addr <$> symbol <*> word16 <*>
      word16 <*> flag <*> word16)
| 0xFB =>
    some (.bypassPosLvControl addr <$> symbol <*> word16 <*>
      word32 <*> symbol <*> flag)
| 0xCB =>
    some (.bypassPosLvLcControl addr <$> symbol <*> word16 <*>
      word32 <*> symbol <*> flag <*> word16)
| 0xFD =>
    some (.trajPosControl addr <$> symbol <*> word16 <*>
      word16 <*> word16 <*> word32 <*> symbol <*> flag)
| 0xCD =>
    some (.trajPosLcControl addr <$> symbol <*> word16 <*>
      word16 <*> word16 <*> word32 <*> symbol <*> flag <*>
      word16)
| 0xF1 =>
    some (.setQtrajPosParams addr <$> word16 <*> word16 <*>
      word16 <*> symbol <*> flag <*> word16)
| 0xFC => some (.qtrajPosLcControl addr <$> word32)
| 0xFE => some (expect 0x98 *> .stopNow addr <$> flag)
| 0xFF => some (expect 0x66 *> pure (.synchronousMotion addr))
| 0x93 => some (expect 0x88 *> .originSetO addr <$> flag)
| 0x9A => some (.originTriggerReturn addr <$> symbol <*> flag)
| 0x9C => some (expect 0x48 *> pure (.originInterrupt addr))
| 0x22 => some (pure (.originReadParams addr))
| 0x4C =>
    some (expect 0xAE *> .originModifyParams addr <$> flag <*>
      symbol <*> symbol <*> word16 <*> word32 <*> word16 <*>
      word16 <*> word16 <*> flag)
| 0x3F => some (pure (.originReadSlRp addr))
| 0x5C =>
    some (expect 0xAC *> .originModifySlRp addr <$> flag <*>
      word16)
| 0xAE =>
    some (expect 0x4B *> .modifyMotorId addr <$> flag <*>
      symbol)
| 0x84 =>
    some (expect 0x8A *> .modifyMicroStep addr <$> flag <*>
      symbol)
| 0x50 => some (.modifyPdFlag addr <$> flag)
| 0x1A => some (pure (.readOptParamSta addr))
| 0xD7 =>
    some (expect 0x35 *> .modifyMotorType addr <$> flag <*>
      motType)
| 0xD5 =>
    some (expect 0x69 *> .modifyFirmwareType addr <$> flag <*>
      flag)
| 0x46 =>
    some (expect 0x69 *> .modifyCtrlMode addr <$> flag <*> flag)
| 0xD4 =>
    some (expect 0x60 *> .modifyMotorDir addr <$> flag <*> flag)
| 0xD0 =>
    some (expect 0xB3 *> .modifyLockBtn addr <$> flag <*> flag)
| 0x4F =>
    some (expect 0x71 *> .modifySVel addr <$> flag <*> flag)
| 0x44 =>
    some (expect 0x33 *> .modifyOmMa addr <$> flag <*> word16)
| 0x45 =>
    some (expect 0x66 *> .modifyFocMa addr <$> flag <*> word16)
| 0x21 => some (pure (.readPidParams addr))
| 0x4A =>
    some (expect 0xC3 *> .modifyPidParams addr <$> flag <*>
      word32 <*> word32 <*> word32 <*> word32)
| 0x49 => some (expect 0x78 *> pure (.readDmx512Params addr))
| 0xD9 =>
    some (expect 0x90 *> .modifyDmx512Params addr <$> flag <*>
      word16 <*> symbol <*> symbol <*> word16 <*> word16 <*>
      word16 <*> word32)
| 0x41 => some (pure (.readPosWindow addr))
| 0xD1 =>
    some (expect 0x07 *> .modifyPosWindow addr <$> flag <*>
      word16)
| 0x13 => some (pure (.readOtocp addr))
| 0xD3 =>
    some (expect 0x56 *> .modifyOtocp addr <$> flag <*>
      word16 <*> word16 <*> word16)
| 0x16 => some (pure (.readHeartProtect addr))
| 0x68 =>
    some (expect 0x38 *> .modifyHeartProtect addr <$> flag <*>
      word32)
| 0x23 => some (pure (.readIntegralLimit addr))
| 0x4B =>
    some (expect 0x57 *> .modifyIntegralLimit addr <$> flag <*>
      word32)
| 0x43 =>
    some (expect 0x7A *> pure (.readSystemStateParams addr))
| 0x42 => some (expect 0x6C *> pure (.readMotorConfParams addr))
| 0x11 => some (expect 0x18 *> timedReturn addr)
| code =>
    (namedParams code).map fun s =>
      pure (.readSysParams addr s)

/- The call of a frame. -/
def readCall :
    List UInt8 → Option (CallOf UInt16 UInt32) :=
  whole do
    let addr ← symbol
    let code ← symbol
    let args ← require (layout addr code)
    let call ← args
    expect check
    pure call

------------------------------------------------------------
-- Reading the Frames Back
------------------------------------------------------------

@[simp] theorem run_motType
    (mottype : Bool)
    (rest : List UInt8) :
    motType.run
        ((if mottype then 25 else 50) :: rest) =
      some (mottype, rest) := by
  cases mottype <;> rfl

theorem namedParams_of_timedCode
    {s : SysParams}
    {code : UInt8}
    (hCode : s.timedCode = some code) :
    namedParams code = some s := by
  cases s <;> cases hCode <;> rfl

/-
  The reader goes by the number of bytes that are left: the
  time and the check byte, behind a code or without one.
-/
theorem run_timedReturn
    (addr : UInt8)
    (s : SysParams)
    (timeMs : UInt16) :
    (timedReturn addr).run
        (s.timedCode.toList ++
          (toBeBytes16 timeMs ++ [check])) =
      some
        (.autoReturnSysParamsTimed addr s timeMs,
          [check]) := by
  cases hCode : s.timedCode with
  | none =>
      have hSys : s = .sys := by
        cases s with
        | sys => rfl
        | _ => cases hCode
      simp [timedReturn, hSys]
  | some code =>
      have hNamed := namedParams_of_timedCode hCode
      simp [timedReturn, hNamed]

/- A frame is read by the layout of its function code. -/
theorem readCall_of_layout
    {addr code : UInt8}
    {args : List UInt8}
    {call : CallOf UInt16 UInt32}
    {reader : Reader UInt8 (CallOf UInt16 UInt32)}
    (hLayout : layout addr code = some reader)
    (hArgs :
      reader.run (args ++ [check]) = some (call, [check])) :
    readCall (addr :: code :: args ++ [check]) =
      some call := by
  apply whole_eq_some
  simp only [List.cons_append, StateT.run_bind, run_symbol,
    Option.bind_eq_bind, Option.bind_some, hLayout,
    require_some, StateT.run_pure, Option.pure_def, hArgs,
    run_expect]

/- Every frame is read as the call that it belongs to. -/
theorem readCall_frame (call : CallOf UInt16 UInt32) :
    readCall call.frame = some call.merged := by
  cases call with
  | autoReturnSysParamsTimed addr s timeMs =>
      apply readCall_of_layout rfl
      have hTimed := run_timedReturn addr s timeMs
      simpa [CallOf.addr, CallOf.merged] using hTimed
  | readSysParams addr s =>
      cases s <;> exact readCall_of_layout rfl rfl
  | _ =>
      -- Field by field, each reader takes what was written.
      apply readCall_of_layout rfl
      simp [CallOf.addr, CallOf.merged]

theorem readCall_call (call : Call) :
    readCall call.frame = some call.sent :=
  readCall_frame _

/- The frame says nothing but what is sent of a call. -/
theorem frame_sent (call : Call) :
    call.sent.frame = call.frame :=
  CallOf.frame_merged _

/-
  No builder panics, and what is sent of a call is read off
  its frame.  So two calls have the same frame exactly if
  they send the same.
-/
theorem calls_told_apart :
    (∀ call : Call,
      ∃ command,
        build call = .ok command ∧
          readCall command.asBytes = some call.sent) ∧
      ∀ left right : Call,
        (build left).map Command.asBytes =
            (build right).map Command.asBytes ↔
          left.sent = right.sent := by
  refine ⟨?_, ?_⟩
  · intro call
    rcases build_frame call with ⟨command, hBuild, hBytes⟩
    refine ⟨command, hBuild, ?_⟩
    rw [hBytes]
    exact readCall_call call
  · intro left right
    rcases build_frame left with ⟨first, hFirst, hLeft⟩
    rcases build_frame right with ⟨second, hSecond, hRight⟩
    simp only [hFirst, hSecond, Except.map, hLeft, hRight,
      Except.ok.injEq]
    constructor
    · intro hSame
      have hRead := readCall_call left
      rw [hSame, readCall_call right] at hRead
      exact (Option.some.inj hRead).symm
    · intro hSame
      rw [← frame_sent left, ← frame_sent right, hSame]

end CommandBuilder

end StepMotor

end UsbCan
