import UsbCan.Library.Words
import UsbCan.StepMotor.CommandBuilder

/-
  The format of the step motor's commands.

  The builders write the frames that are listed here.  The
  function code of a command determines its length, with one
  exception: a timed return of `Sys` is one byte shorter
  than the other timed returns.  All other commands are the
  words of a grammar, so a concatenation of them is read
  back without separators.

  Main declarations:
    * `codeLength`
    * `WellFormed`
    * `CommandBuilder.CallOf.body`
    * `CommandBuilder.build_frame`
    * `CommandBuilder.build_ok`
    * `commandFormat`
    * `WellFormed.isWord`
-/

open Checked BigEndian Framing

------------------------------------------------------------
-- Lengths
------------------------------------------------------------

namespace UsbCan

namespace StepMotor

/- The length of the commands with a function code. -/
def codeLength : UInt8 → Option Nat
| 0x13 | 0x16 | 0x1A | 0x21 | 0x22 | 0x23 | 0x24 | 0x26
| 0x27 | 0x29 | 0x30 | 0x31 | 0x32 | 0x33 | 0x34 | 0x35
| 0x36 | 0x37 | 0x38 | 0x39 | 0x3A | 0x3B | 0x3C | 0x3D
| 0x3F | 0x41 => some 3
| 0x06 | 0x08 | 0x0A | 0x0E | 0x0F | 0x42 | 0x43 | 0x49
| 0x50 | 0x9C | 0xFF => some 4
| 0x93 | 0x9A | 0xFE => some 5
| 0x46 | 0x4F | 0x84 | 0xAE | 0xD0 | 0xD4 | 0xD5 | 0xD7
| 0xF3 => some 6
| 0x11 | 0x44 | 0x45 | 0x5C | 0xD1 | 0xFC => some 7
| 0x4B | 0x68 | 0xF5 | 0xF6 => some 9
| 0xC5 | 0xC6 | 0xD3 => some 11
| 0xFB => some 12
| 0xF1 => some 13
| 0xCB => some 14
| 0xFD => some 16
| 0xCD => some 18
| 0xD9 => some 19
| 0x4C => some 20
| 0x4A => some 21
| _ => none

theorem codeLength_bounds
    {code : UInt8}
    {n : Nat}
    (hCode : codeLength code = some n) :
    3 ≤ n ∧ n ≤ 21 := by
  unfold codeLength at hCode
  split at hCode <;> cases hCode <;> decide

/-
  The check byte stands last, and the length is the one of
  the function code.
-/
structure WellFormed (bytes : List UInt8) : Prop where
  ends : bytes.getLast? = some check
  sized : bytes[1]?.bind codeLength = some bytes.length

theorem WellFormed.length_bounds
    {bytes : List UInt8}
    (hBytes : WellFormed bytes) :
    3 ≤ bytes.length ∧ bytes.length ≤ 21 := by
  rcases Option.bind_eq_some_iff.mp hBytes.sized with
    ⟨code, _, hLength⟩
  exact codeLength_bounds hLength

------------------------------------------------------------
-- Frames
------------------------------------------------------------

namespace CommandBuilder

namespace CallOf

variable {Speed Position Speed' Position' : Type}

/- The same call with its numbers changed. -/
def map
    (f : Speed → Speed')
    (g : Position → Position') :
    CallOf Speed Position → CallOf Speed' Position'
| .trigEncoderCal addr => .trigEncoderCal addr
| .resetMotor addr => .resetMotor addr
| .resetCurPosToZero addr => .resetCurPosToZero addr
| .resetClogPro addr => .resetClogPro addr
| .restoreMotor addr => .restoreMotor addr
| .enControl addr state snF => .enControl addr state snF
| .torqueControl addr sign tRamp torque snF =>
    .torqueControl addr sign tRamp torque snF
| .torqueLvControl addr sign tRamp torque snF maxVel =>
    .torqueLvControl addr sign tRamp torque snF (f maxVel)
| .velControl addr dir acc vel snF =>
    .velControl addr dir acc (f vel) snF
| .velLcControl addr dir acc vel snF maxCur =>
    .velLcControl addr dir acc (f vel) snF maxCur
| .bypassPosLvControl addr dir vel pos raf snF =>
    .bypassPosLvControl addr dir (f vel) (g pos) raf snF
| .bypassPosLvLcControl addr dir vel pos raf snF maxCur =>
    .bypassPosLvLcControl addr dir (f vel) (g pos) raf snF
      maxCur
| .trajPosControl addr dir acc dec vel pos raf snF =>
    .trajPosControl addr dir acc dec (f vel) (g pos) raf snF
| .trajPosLcControl addr dir acc dec vel pos raf snF maxCur =>
    .trajPosLcControl addr dir acc dec (f vel) (g pos) raf
      snF maxCur
| .setQtrajPosParams addr acc dec vel raf snF maxCur =>
    .setQtrajPosParams addr acc dec (f vel) raf snF maxCur
| .qtrajPosLcControl addr pos => .qtrajPosLcControl addr (g pos)
| .stopNow addr snF => .stopNow addr snF
| .synchronousMotion addr => .synchronousMotion addr
| .originSetO addr svF => .originSetO addr svF
| .originTriggerReturn addr oMode snF =>
    .originTriggerReturn addr oMode snF
| .originInterrupt addr => .originInterrupt addr
| .originReadParams addr => .originReadParams addr
| .originModifyParams addr svF oMode oDir
    oVel oTm slVel slMa slMs potF =>
    .originModifyParams addr svF oMode oDir oVel
      oTm slVel slMa slMs potF
| .originReadSlRp addr => .originReadSlRp addr
| .originModifySlRp addr svF slRp =>
    .originModifySlRp addr svF slRp
| .autoReturnSysParamsTimed addr s timeMs =>
    .autoReturnSysParamsTimed addr s timeMs
| .readSysParams addr s => .readSysParams addr s
| .modifyMotorId addr svF id => .modifyMotorId addr svF id
| .modifyMicroStep addr svF mstep =>
    .modifyMicroStep addr svF mstep
| .modifyPdFlag addr pdf => .modifyPdFlag addr pdf
| .readOptParamSta addr => .readOptParamSta addr
| .modifyMotorType addr svF mottype =>
    .modifyMotorType addr svF mottype
| .modifyFirmwareType addr svF fwtype =>
    .modifyFirmwareType addr svF fwtype
| .modifyCtrlMode addr svF ctrlMode =>
    .modifyCtrlMode addr svF ctrlMode
| .modifyMotorDir addr svF dir => .modifyMotorDir addr svF dir
| .modifyLockBtn addr svF lock => .modifyLockBtn addr svF lock
| .modifySVel addr svF sVel => .modifySVel addr svF sVel
| .modifyOmMa addr svF omMa => .modifyOmMa addr svF omMa
| .modifyFocMa addr svF focMa => .modifyFocMa addr svF focMa
| .readPidParams addr => .readPidParams addr
| .modifyPidParams addr svF pTkp pBkp vkp vki =>
    .modifyPidParams addr svF pTkp pBkp vkp vki
| .readDmx512Params addr => .readDmx512Params addr
| .modifyDmx512Params addr svF tch nch
    mode vel acc velStep posStep =>
    .modifyDmx512Params addr svF tch nch mode
      vel acc velStep posStep
| .readPosWindow addr => .readPosWindow addr
| .modifyPosWindow addr svF prw => .modifyPosWindow addr svF prw
| .readOtocp addr => .readOtocp addr
| .modifyOtocp addr svF otp ocp timeMs =>
    .modifyOtocp addr svF otp ocp timeMs
| .readHeartProtect addr => .readHeartProtect addr
| .modifyHeartProtect addr svF hp =>
    .modifyHeartProtect addr svF hp
| .readIntegralLimit addr => .readIntegralLimit addr
| .modifyIntegralLimit addr svF il =>
    .modifyIntegralLimit addr svF il
| .readSystemStateParams addr => .readSystemStateParams addr
| .readMotorConfParams addr => .readMotorConfParams addr

/- The bytes between the address and the check byte. -/
def body : CallOf UInt16 UInt32 → List UInt8
| .trigEncoderCal _ => [0x06, 0x45]
| .resetMotor _ => [0x08, 0x97]
| .resetCurPosToZero _ => [0x0A, 0x6D]
| .resetClogPro _ => [0x0E, 0x52]
| .restoreMotor _ => [0x0F, 0x5F]
| .enControl _ state snF =>
    [0xF3, 0xAB, state.toUInt8, snF.toUInt8]
| .torqueControl _ sign tRamp torque snF =>
    [0xF5, sign] ++ toBeBytes16 tRamp ++ toBeBytes16 torque ++
      [snF.toUInt8]
| .torqueLvControl _ sign tRamp torque snF maxVel =>
    [0xC5, sign] ++ toBeBytes16 tRamp ++ toBeBytes16 torque ++
      [snF.toUInt8] ++ toBeBytes16 maxVel
| .velControl _ dir acc vel snF =>
    [0xF6, dir] ++ toBeBytes16 acc ++ toBeBytes16 vel ++
      [snF.toUInt8]
| .velLcControl _ dir acc vel snF maxCur =>
    [0xC6, dir] ++ toBeBytes16 acc ++ toBeBytes16 vel ++
      [snF.toUInt8] ++ toBeBytes16 maxCur
| .bypassPosLvControl _ dir vel pos raf snF =>
    [0xFB, dir] ++ toBeBytes16 vel ++ toBeBytes32 pos ++
      [raf, snF.toUInt8]
| .bypassPosLvLcControl _ dir vel pos raf snF maxCur =>
    [0xCB, dir] ++ toBeBytes16 vel ++ toBeBytes32 pos ++
      [raf, snF.toUInt8] ++ toBeBytes16 maxCur
| .trajPosControl _ dir acc dec vel pos raf snF =>
    [0xFD, dir] ++ toBeBytes16 acc ++ toBeBytes16 dec ++
      toBeBytes16 vel ++ toBeBytes32 pos ++ [raf, snF.toUInt8]
| .trajPosLcControl _ dir acc dec vel pos raf snF maxCur =>
    [0xCD, dir] ++ toBeBytes16 acc ++ toBeBytes16 dec ++
      toBeBytes16 vel ++ toBeBytes32 pos ++
      [raf, snF.toUInt8] ++ toBeBytes16 maxCur
| .setQtrajPosParams _ acc dec vel raf snF maxCur =>
    [0xF1] ++ toBeBytes16 acc ++ toBeBytes16 dec ++
      toBeBytes16 vel ++ [raf, snF.toUInt8] ++
      toBeBytes16 maxCur
| .qtrajPosLcControl _ pos =>
    [0xFC] ++ toBeBytes32 pos
| .stopNow _ snF => [0xFE, 0x98, snF.toUInt8]
| .synchronousMotion _ => [0xFF, 0x66]
| .originSetO _ svF => [0x93, 0x88, svF.toUInt8]
| .originTriggerReturn _ oMode snF => [0x9A, oMode, snF.toUInt8]
| .originInterrupt _ => [0x9C, 0x48]
| .originReadParams _ => [0x22]
| .originModifyParams _ svF oMode oDir oVel oTm
    slVel slMa slMs potF =>
    [0x4C, 0xAE, svF.toUInt8, oMode, oDir] ++
      toBeBytes16 oVel ++ toBeBytes32 oTm ++
      toBeBytes16 slVel ++ toBeBytes16 slMa ++
      toBeBytes16 slMs ++ [potF.toUInt8]
| .originReadSlRp _ => [0x3F]
| .originModifySlRp _ svF slRp =>
    [0x5C, 0xAC, svF.toUInt8] ++ toBeBytes16 slRp
| .autoReturnSysParamsTimed _ s timeMs =>
    [0x11, 0x18] ++ s.timedCode.toList ++
      toBeBytes16 timeMs
| .readSysParams _ s => s.code.1 :: s.code.2.toList
| .modifyMotorId _ svF id => [0xAE, 0x4B, svF.toUInt8, id]
| .modifyMicroStep _ svF mstep =>
    [0x84, 0x8A, svF.toUInt8, mstep]
| .modifyPdFlag _ pdf => [0x50, pdf.toUInt8]
| .readOptParamSta _ => [0x1A]
| .modifyMotorType _ svF mottype =>
    [0xD7, 0x35, svF.toUInt8, if mottype then 25 else 50]
| .modifyFirmwareType _ svF fwtype =>
    [0xD5, 0x69, svF.toUInt8, fwtype.toUInt8]
| .modifyCtrlMode _ svF ctrlMode =>
    [0x46, 0x69, svF.toUInt8, ctrlMode.toUInt8]
| .modifyMotorDir _ svF dir =>
    [0xD4, 0x60, svF.toUInt8, dir.toUInt8]
| .modifyLockBtn _ svF lock =>
    [0xD0, 0xB3, svF.toUInt8, lock.toUInt8]
| .modifySVel _ svF sVel =>
    [0x4F, 0x71, svF.toUInt8, sVel.toUInt8]
| .modifyOmMa _ svF omMa =>
    [0x44, 0x33, svF.toUInt8] ++ toBeBytes16 omMa
| .modifyFocMa _ svF focMa =>
    [0x45, 0x66, svF.toUInt8] ++ toBeBytes16 focMa
| .readPidParams _ => [0x21]
| .modifyPidParams _ svF pTkp pBkp vkp vki =>
    [0x4A, 0xC3, svF.toUInt8] ++ toBeBytes32 pTkp ++
      toBeBytes32 pBkp ++ toBeBytes32 vkp ++ toBeBytes32 vki
| .readDmx512Params _ => [0x49, 0x78]
| .modifyDmx512Params _ svF tch nch mode
    vel acc velStep posStep =>
    [0xD9, 0x90, svF.toUInt8] ++ toBeBytes16 tch ++
      [nch, mode] ++ toBeBytes16 vel ++ toBeBytes16 acc ++
      toBeBytes16 velStep ++ toBeBytes32 posStep
| .readPosWindow _ => [0x41]
| .modifyPosWindow _ svF prw =>
    [0xD1, 0x07, svF.toUInt8] ++ toBeBytes16 prw
| .readOtocp _ => [0x13]
| .modifyOtocp _ svF otp ocp timeMs =>
    [0xD3, 0x56, svF.toUInt8] ++ toBeBytes16 otp ++
      toBeBytes16 ocp ++ toBeBytes16 timeMs
| .readHeartProtect _ => [0x16]
| .modifyHeartProtect _ svF hp =>
    [0x68, 0x38, svF.toUInt8] ++ toBeBytes32 hp
| .readIntegralLimit _ => [0x23]
| .modifyIntegralLimit _ svF il =>
    [0x4B, 0x57, svF.toUInt8] ++ toBeBytes32 il
| .readSystemStateParams _ => [0x43, 0x7A]
| .readMotorConfParams _ => [0x42, 0x6C]

/- The frame of a call. -/
def frame (call : CallOf UInt16 UInt32) : List UInt8 :=
  call.addr :: call.body ++ [check]

theorem addr_map
    (f : Speed → Speed')
    (g : Position → Position')
    (call : CallOf Speed Position) :
    (call.map f g).addr = call.addr := by
  cases call <;> rfl

end CallOf

/- The frame of a call, with its numbers as tenths. -/
def Call.frame (call : Call) : List UInt8 :=
  (call.map tenfold16 tenfold32).frame

end CommandBuilder

------------------------------------------------------------
-- The Builders
------------------------------------------------------------

namespace CommandBuilder

/- A builder returns a command with these bytes. -/
def Frames
    (built : Exec Command)
    (bytes : List UInt8) :
    Prop :=
  ∃ command, built = .ok command ∧ command.asBytes = bytes

theorem frames_new
    {bytes : List UInt8}
    (hLen : bytes.length ≤ maxCmdLen) :
    Frames (Command.new bytes) bytes :=
  Command.new_ok hLen

theorem frames_filled
    {n : Nat}
    {writes : List Write}
    {bytes : List UInt8}
    (hWrites : Write.Consecutive 0 writes n)
    (hLen : n ≤ maxCmdLen)
    (hBytes : writes.flatMap Write.values = bytes) :
    Frames (Command.filled n writes) bytes :=
  hBytes ▸ Command.filled_ok hWrites hLen

/- The frame of a timed return. -/
theorem autoReturnSysParamsTimed_ok
    (addr : UInt8)
    (s : SysParams)
    (timeMs : UInt16) :
    ∃ command,
      autoReturnSysParamsTimed addr s timeMs =
          .ok command ∧
        command.asBytes =
          [addr, 0x11, 0x18] ++ s.timedCode.toList ++
            toBeBytes16 timeMs ++ [check] := by
  rcases Growing.empty_holds.push addr (by decide) with
    ⟨frame₁, hFrame₁, hHolds₁⟩
  rcases hHolds₁.push 0x11 (by simp [maxCmdLen]) with
    ⟨frame₂, hFrame₂, hHolds₂⟩
  rcases hHolds₂.push 0x18 (by simp [maxCmdLen]) with
    ⟨frame₃, hFrame₃, hHolds₃⟩
  rcases hHolds₃.pushSome s.timedCode
      (by simp [maxCmdLen]) with
    ⟨frame₄, hFrame₄, hHolds₄⟩
  have hShort := Option.length_toList_le (o := s.timedCode)
  rcases hHolds₄.extend (toBeBytes16 timeMs)
      (by simp [maxCmdLen]; omega) with
    ⟨frame₅, hFrame₅, hHolds₅⟩
  rcases hHolds₅.push check (by simp [maxCmdLen]; omega) with
    ⟨frame₆, hFrame₆, hHolds₆⟩
  rcases hHolds₆.fromParts (by simp [maxCmdLen]; omega) with
    ⟨command, hCommand, hBytes⟩
  refine ⟨command, ?_, hBytes⟩
  simp only [autoReturnSysParamsTimed, hFrame₁, hFrame₂,
    hFrame₃, hFrame₄, hFrame₅, hFrame₆, ok_bind]
  exact hCommand

/- The frame of a read. -/
theorem readSysParams_ok
    (addr : UInt8)
    (s : SysParams) :
    ∃ command,
      readSysParams addr s = .ok command ∧
        command.asBytes =
          [addr, s.code.1] ++ s.code.2.toList ++
            [check] := by
  rcases Growing.empty_holds.push addr (by decide) with
    ⟨frame₁, hFrame₁, hHolds₁⟩
  rcases hHolds₁.push s.code.1 (by simp [maxCmdLen]) with
    ⟨frame₂, hFrame₂, hHolds₂⟩
  rcases hHolds₂.pushSome s.code.2
      (by simp [maxCmdLen]) with
    ⟨frame₃, hFrame₃, hHolds₃⟩
  have hShort := Option.length_toList_le (o := s.code.2)
  rcases hHolds₃.push check (by simp [maxCmdLen]; omega) with
    ⟨frame₄, hFrame₄, hHolds₄⟩
  rcases hHolds₄.fromParts (by simp [maxCmdLen]; omega) with
    ⟨command, hCommand, hBytes⟩
  refine ⟨command, ?_, hBytes⟩
  simp only [readSysParams, hFrame₁, hFrame₂, hFrame₃,
    hFrame₄, ok_bind]
  exact hCommand

/- The builders write exactly the frames of their calls. -/
theorem build_frame (call : Call) :
    Frames (build call) call.frame := by
  cases call with
  | autoReturnSysParamsTimed addr s timeMs =>
      exact autoReturnSysParamsTimed_ok addr s timeMs
  | readSysParams addr s => exact readSysParams_ok addr s
  | torqueControl | torqueLvControl | velControl
  | velLcControl | bypassPosLvControl
  | bypassPosLvLcControl | trajPosControl
  | trajPosLcControl | setQtrajPosParams
  | qtrajPosLcControl | originModifyParams
  | originModifySlRp | modifyOmMa | modifyFocMa
  | modifyPidParams | modifyDmx512Params
  | modifyPosWindow | modifyOtocp | modifyHeartProtect
  | modifyIntegralLimit =>
      -- These fill an array statement by statement.
      simp only [build]
      apply frames_filled
      · simp [Write.Consecutive]
      · decide
      · rfl
  | _ =>
      simp only [build]
      apply frames_new
      simp [maxCmdLen]

/- A timed return of `Sys`, which has no information code. -/
def Call.isTimedSys : Call → Bool
| .autoReturnSysParamsTimed _ .sys _ => true
| _ => false

/- A builder returns a well-formed command for a motor. -/
def Builds
    (addr : UInt8)
    (built : Exec Command) :
    Prop :=
  ∃ command,
    built = .ok command ∧
      WellFormed command.asBytes ∧
        command.asBytes.head? = some addr

theorem Call.frame_wellFormed
    (call : Call)
    (hCall : call.isTimedSys = false) :
    WellFormed call.frame := by
  cases call with
  | autoReturnSysParamsTimed addr s timeMs =>
      cases s with
      | sys => cases hCall
      | _ => exact ⟨rfl, rfl⟩
  | readSysParams addr s => cases s <;> exact ⟨rfl, rfl⟩
  | _ => exact ⟨rfl, rfl⟩

/- The builders return well-formed commands for a motor. -/
theorem build_ok
    (call : Call)
    (hCall : call.isTimedSys = false) :
    Builds call.addr (build call) := by
  rcases build_frame call with ⟨command, hBuild, hBytes⟩
  refine ⟨command, hBuild, ?_, ?_⟩
  · rw [hBytes]
    exact call.frame_wellFormed hCall
  · rw [hBytes, ← CallOf.addr_map tenfold16 tenfold32 call]
    rfl

/- A timed return of `Sys` is too short for its code. -/
theorem timedSys_ok
    (addr : UInt8)
    (timeMs : UInt16) :
    ∃ command,
      build (.autoReturnSysParamsTimed addr .sys timeMs) =
          .ok command ∧
        command.asBytes.length = 6 ∧
        ¬ WellFormed command.asBytes := by
  rcases autoReturnSysParamsTimed_ok addr .sys timeMs with
    ⟨command, hCommand, hBytes⟩
  refine ⟨command, hCommand, by rw [hBytes]; rfl, ?_⟩
  intro hWell
  have hSized := hWell.sized
  rw [hBytes] at hSized
  cases hSized

end CommandBuilder

------------------------------------------------------------
-- Commands as Words
------------------------------------------------------------

/- What to make of a command of a known or unknown length. -/
def judgeSized
    (input : List UInt8) :
    Option Nat → Verdict (List UInt8)
| none => .reject
| some n =>
    if input.length < n then
      .pending
    else if (input.take n).getLast? = some check then
      .accept n (input.take n)
    else
      .reject

/-
  A reader that goes by the function codes: it knows the
  length of a command from its second byte, and accepts it
  if the check byte stands last.
-/
def judgeCommand
    (input : List UInt8) :
    Verdict (List UInt8) :=
  match input[1]? with
  | none => .pending
  | some code => judgeSized input (codeLength code)

theorem judgeSized_eq_pending
    {input : List UInt8}
    {length : Option Nat}
    (hJudge : judgeSized input length = .pending) :
    ∃ n, length = some n ∧ input.length < n := by
  cases length with
  | none => cases hJudge
  | some n =>
      rw [judgeSized] at hJudge
      split at hJudge
      · rename_i hShort
        exact ⟨n, rfl, hShort⟩
      · split at hJudge <;> cases hJudge

theorem judgeSized_eq_accept
    {input token : List UInt8}
    {length : Option Nat}
    {n : Nat}
    (hJudge : judgeSized input length = .accept n token) :
    length = some n ∧ n ≤ input.length := by
  cases length with
  | none => cases hJudge
  | some m =>
      rw [judgeSized] at hJudge
      split at hJudge
      · cases hJudge
      · rename_i hLong
        split at hJudge
        · cases hJudge
          exact ⟨rfl, Nat.not_lt.mp hLong⟩
        · cases hJudge

/- More bytes change nothing once the command is complete. -/
theorem judgeSized_append
    {input : List UInt8}
    {length : Option Nat}
    (rest : List UInt8)
    (hJudge : judgeSized input length ≠ .pending) :
    judgeSized (input ++ rest) length =
      judgeSized input length := by
  cases length with
  | none => rfl
  | some n =>
      have hLong : n ≤ input.length := by
        by_contra hShort
        rw [judgeSized, if_pos (Nat.not_le.mp hShort)]
          at hJudge
        exact hJudge rfl
      have hLonger : ¬ (input ++ rest).length < n := by
        rw [List.length_append]
        omega
      rw [judgeSized, judgeSized, if_neg hLonger,
        if_neg (Nat.not_lt.mpr hLong),
        List.take_append_of_le_length hLong]

theorem judgeCommand_of_code
    {input : List UInt8}
    {code : UInt8}
    (hCode : input[1]? = some code) :
    judgeCommand input =
      judgeSized input (codeLength code) := by
  rw [judgeCommand, hCode]

/- The second byte of an input of at least two bytes. -/
theorem exists_code
    {input : List UInt8}
    (hWindow : 2 ≤ input.length) :
    ∃ code, input[1]? = some code :=
  ⟨input[1], List.getElem?_eq_getElem hWindow⟩

theorem code_of_judgeCommand
    {input : List UInt8}
    (hJudge : judgeCommand input ≠ .pending) :
    ∃ code, input[1]? = some code := by
  unfold judgeCommand at hJudge
  cases hCode : input[1]? with
  | none =>
      rw [hCode] at hJudge
      exact absurd rfl hJudge
  | some code => exact ⟨code, rfl⟩

theorem judgeCommand_append
    {input : List UInt8}
    (rest : List UInt8)
    (hJudge : judgeCommand input ≠ .pending) :
    judgeCommand (input ++ rest) = judgeCommand input := by
  rcases code_of_judgeCommand hJudge with ⟨code, hCode⟩
  have hLength : 1 < input.length := by
    by_contra hShort
    rw [List.getElem?_eq_none (by omega)] at hCode
    cases hCode
  have hMore : (input ++ rest)[1]? = some code := by
    rw [List.getElem?_append_left hLength, hCode]
  rw [judgeCommand_of_code hCode] at hJudge ⊢
  rw [judgeCommand_of_code hMore,
    judgeSized_append rest hJudge]

theorem judgeCommand_eq_accept
    {input token : List UInt8}
    {n : Nat}
    (hJudge : judgeCommand input = .accept n token) :
    3 ≤ n ∧ n ≤ 21 ∧ n ≤ input.length := by
  have hJudged : judgeCommand input ≠ .pending := by
    rw [hJudge]
    simp
  rcases code_of_judgeCommand hJudged with ⟨code, hCode⟩
  rw [judgeCommand_of_code hCode] at hJudge
  rcases judgeSized_eq_accept hJudge with ⟨hLength, hLe⟩
  have hBounds := codeLength_bounds hLength
  exact ⟨hBounds.1, hBounds.2, hLe⟩

/- Concatenated commands. -/
def commandFormat : Grammar UInt8 (List UInt8) where
  window := 2
  reach := 21
  judge := judgeCommand
  window_pos := by decide
  window_le_reach := by decide
  pending_lt {input} hPending := by
    by_cases hWindow : 2 ≤ input.length
    · rcases exists_code hWindow with ⟨code, hCode⟩
      rw [judgeCommand_of_code hCode] at hPending
      rcases judgeSized_eq_pending hPending with
        ⟨n, hLength, hShort⟩
      have hBounds := codeLength_bounds hLength
      omega
    · omega
  accept_pos hAccept := by
    have hBounds := judgeCommand_eq_accept hAccept
    omega
  accept_le hAccept := by
    have hBounds := judgeCommand_eq_accept hAccept
    exact ⟨hBounds.2.2, hBounds.2.1⟩
  reject_append rest _ hReject := by
    rw [judgeCommand_append rest (by simp [hReject]), hReject]
  accept_append rest hAccept := by
    rw [judgeCommand_append rest (by simp [hAccept]), hAccept]

/- A well-formed command is a word of the format. -/
theorem WellFormed.isWord
    {bytes : List UInt8}
    (hBytes : WellFormed bytes) :
    commandFormat.IsWord bytes := by
  have hBounds := hBytes.length_bounds
  rcases Option.bind_eq_some_iff.mp hBytes.sized with
    ⟨code, hCode, hLength⟩
  refine ⟨?_, ?_⟩
  · change 2 ≤ bytes.length
    omega
  · change judgeCommand bytes = _
    rw [judgeCommand_of_code hCode, hLength, judgeSized,
      if_neg (Nat.lt_irrefl _), List.take_length,
      if_pos hBytes.ends]

end StepMotor

end UsbCan
