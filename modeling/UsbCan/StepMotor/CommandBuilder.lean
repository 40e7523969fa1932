import UsbCan.StepMotor.Command

/-
  The builders of the step motor's commands.

  Speeds and positions are sent times ten and without their
  sign.

  Key definitions include:
    * `UsbCan.StepMotor.SysParams.code`
    * `UsbCan.StepMotor.CommandBuilder.readSysParams`
    * `UsbCan.StepMotor.CommandBuilder.CallOf`
-/

open Checked BigEndian

------------------------------------------------------------
-- Kinds of System Parameters
------------------------------------------------------------

namespace UsbCan

namespace StepMotor

inductive SysParams where
| vBus
| cBus
| cPha
| enco
| clkc
| encl
| clki
| tPos
| sPos
| vel
| cPos
| pErr
| vBat
| temp
| flag
| oFlag
| oaf
| pin
| sys
deriving DecidableEq

namespace SysParams

/- The function code of a read; `Sys` adds a second byte. -/
def code : SysParams → UInt8 × Option UInt8
| .vBus => (0x24, none)
| .cBus => (0x26, none)
| .cPha => (0x27, none)
| .enco => (0x29, none)
| .clkc => (0x30, none)
| .encl => (0x31, none)
| .clki => (0x32, none)
| .tPos => (0x33, none)
| .sPos => (0x34, none)
| .vel => (0x35, none)
| .cPos => (0x36, none)
| .pErr => (0x37, none)
| .vBat => (0x38, none)
| .temp => (0x39, none)
| .flag => (0x3A, none)
| .oFlag => (0x3B, none)
| .oaf => (0x3C, none)
| .pin => (0x3D, none)
| .sys => (0x43, some 0x7A)

/- The information code of a timed return; `Sys` has none. -/
def timedCode : SysParams → Option UInt8
| .sys => none
| s => some s.code.1

end SysParams

/- A value times ten, as `u16` without its sign. -/
def tenfold16 (value : Float32) : UInt16 :=
  (value * 10.0).abs.toUInt16

/- A value times ten, as `u32` without its sign. -/
def tenfold32 (value : Float32) : UInt32 :=
  (value * 10.0).abs.toUInt32

namespace CommandBuilder

------------------------------------------------------------
-- Triggered Actions
------------------------------------------------------------

def trigEncoderCal (addr : UInt8) : Exec Command :=
  Command.new [addr, 0x06, 0x45, check]

def resetMotor (addr : UInt8) : Exec Command :=
  Command.new [addr, 0x08, 0x97, check]

def resetCurPosToZero (addr : UInt8) : Exec Command :=
  Command.new [addr, 0x0A, 0x6D, check]

def resetClogPro (addr : UInt8) : Exec Command :=
  Command.new [addr, 0x0E, 0x52, check]

def restoreMotor (addr : UInt8) : Exec Command :=
  Command.new [addr, 0x0F, 0x5F, check]

------------------------------------------------------------
-- Motion
------------------------------------------------------------

def enControl
    (addr : UInt8)
    (state snF : Bool) :
    Exec Command :=
  Command.new
    [addr, 0xF3, 0xAB, state.toUInt8, snF.toUInt8, check]

def torqueControl
    (addr sign : UInt8)
    (tRamp torque : UInt16)
    (snF : Bool) :
    Exec Command :=
  Command.filled 9
    [.byte 0 addr, .byte 1 0xF5, .byte 2 sign,
      .bytes 3 5 (toBeBytes16 tRamp),
      .bytes 5 7 (toBeBytes16 torque), .byte 7 snF.toUInt8,
      .byte 8 check]

def torqueLvControl
    (addr sign : UInt8)
    (tRamp torque : UInt16)
    (snF : Bool)
    (maxVel : Float32) :
    Exec Command :=
  let v := tenfold16 maxVel
  Command.filled 11
    [.byte 0 addr, .byte 1 0xC5, .byte 2 sign,
      .bytes 3 5 (toBeBytes16 tRamp),
      .bytes 5 7 (toBeBytes16 torque), .byte 7 snF.toUInt8,
      .bytes 8 10 (toBeBytes16 v), .byte 10 check]

def velControl
    (addr dir : UInt8)
    (acc : UInt16)
    (vel : Float32)
    (snF : Bool) :
    Exec Command :=
  let v := tenfold16 vel
  Command.filled 9
    [.byte 0 addr, .byte 1 0xF6, .byte 2 dir,
      .bytes 3 5 (toBeBytes16 acc),
      .bytes 5 7 (toBeBytes16 v), .byte 7 snF.toUInt8,
      .byte 8 check]

def velLcControl
    (addr dir : UInt8)
    (acc : UInt16)
    (vel : Float32)
    (snF : Bool)
    (maxCur : UInt16) :
    Exec Command :=
  let v := tenfold16 vel
  Command.filled 11
    [.byte 0 addr, .byte 1 0xC6, .byte 2 dir,
      .bytes 3 5 (toBeBytes16 acc),
      .bytes 5 7 (toBeBytes16 v), .byte 7 snF.toUInt8,
      .bytes 8 10 (toBeBytes16 maxCur), .byte 10 check]

def bypassPosLvControl
    (addr dir : UInt8)
    (vel pos : Float32)
    (raf : UInt8)
    (snF : Bool) :
    Exec Command :=
  let v := tenfold16 vel
  let p := tenfold32 pos
  Command.filled 12
    [.byte 0 addr, .byte 1 0xFB, .byte 2 dir,
      .bytes 3 5 (toBeBytes16 v), .bytes 5 9 (toBeBytes32 p),
      .byte 9 raf, .byte 10 snF.toUInt8, .byte 11 check]

def bypassPosLvLcControl
    (addr dir : UInt8)
    (vel pos : Float32)
    (raf : UInt8)
    (snF : Bool)
    (maxCur : UInt16) :
    Exec Command :=
  let v := tenfold16 vel
  let p := tenfold32 pos
  Command.filled 14
    [.byte 0 addr, .byte 1 0xCB, .byte 2 dir,
      .bytes 3 5 (toBeBytes16 v), .bytes 5 9 (toBeBytes32 p),
      .byte 9 raf, .byte 10 snF.toUInt8,
      .bytes 11 13 (toBeBytes16 maxCur), .byte 13 check]

def trajPosControl
    (addr dir : UInt8)
    (acc dec : UInt16)
    (vel pos : Float32)
    (raf : UInt8)
    (snF : Bool) :
    Exec Command :=
  let v := tenfold16 vel
  let p := tenfold32 pos
  Command.filled 16
    [.byte 0 addr, .byte 1 0xFD, .byte 2 dir,
      .bytes 3 5 (toBeBytes16 acc),
      .bytes 5 7 (toBeBytes16 dec),
      .bytes 7 9 (toBeBytes16 v), .bytes 9 13 (toBeBytes32 p),
      .byte 13 raf, .byte 14 snF.toUInt8, .byte 15 check]

def trajPosLcControl
    (addr dir : UInt8)
    (acc dec : UInt16)
    (vel pos : Float32)
    (raf : UInt8)
    (snF : Bool)
    (maxCur : UInt16) :
    Exec Command :=
  let v := tenfold16 vel
  let p := tenfold32 pos
  Command.filled 18
    [.byte 0 addr, .byte 1 0xCD, .byte 2 dir,
      .bytes 3 5 (toBeBytes16 acc),
      .bytes 5 7 (toBeBytes16 dec),
      .bytes 7 9 (toBeBytes16 v), .bytes 9 13 (toBeBytes32 p),
      .byte 13 raf, .byte 14 snF.toUInt8,
      .bytes 15 17 (toBeBytes16 maxCur), .byte 17 check]

def setQtrajPosParams
    (addr : UInt8)
    (acc dec : UInt16)
    (vel : Float32)
    (raf : UInt8)
    (snF : Bool)
    (maxCur : UInt16) :
    Exec Command :=
  let v := tenfold16 vel
  Command.filled 13
    [.byte 0 addr, .byte 1 0xF1, .bytes 2 4 (toBeBytes16 acc),
      .bytes 4 6 (toBeBytes16 dec),
      .bytes 6 8 (toBeBytes16 v), .byte 8 raf,
      .byte 9 snF.toUInt8, .bytes 10 12 (toBeBytes16 maxCur),
      .byte 12 check]

def qtrajPosLcControl
    (addr : UInt8)
    (pos : Float32) :
    Exec Command :=
  let p := tenfold32 pos
  Command.filled 7
    [.byte 0 addr, .byte 1 0xFC, .bytes 2 6 (toBeBytes32 p),
      .byte 6 check]

def stopNow (addr : UInt8) (snF : Bool) : Exec Command :=
  Command.new [addr, 0xFE, 0x98, snF.toUInt8, check]

def synchronousMotion (addr : UInt8) : Exec Command :=
  Command.new [addr, 0xFF, 0x66, check]

------------------------------------------------------------
-- Returning to the Origin
------------------------------------------------------------

def originSetO (addr : UInt8) (svF : Bool) : Exec Command :=
  Command.new [addr, 0x93, 0x88, svF.toUInt8, check]

def originTriggerReturn
    (addr oMode : UInt8)
    (snF : Bool) :
    Exec Command :=
  Command.new [addr, 0x9A, oMode, snF.toUInt8, check]

def originInterrupt (addr : UInt8) : Exec Command :=
  Command.new [addr, 0x9C, 0x48, check]

def originReadParams (addr : UInt8) : Exec Command :=
  Command.new [addr, 0x22, check]

def originModifyParams
    (addr : UInt8)
    (svF : Bool)
    (oMode oDir : UInt8)
    (oVel : UInt16)
    (oTm : UInt32)
    (slVel slMa slMs : UInt16)
    (potF : Bool) :
    Exec Command :=
  Command.filled 20
    [.byte 0 addr, .byte 1 0x4C, .byte 2 0xAE,
      .byte 3 svF.toUInt8, .byte 4 oMode, .byte 5 oDir,
      .bytes 6 8 (toBeBytes16 oVel),
      .bytes 8 12 (toBeBytes32 oTm),
      .bytes 12 14 (toBeBytes16 slVel),
      .bytes 14 16 (toBeBytes16 slMa),
      .bytes 16 18 (toBeBytes16 slMs), .byte 18 potF.toUInt8,
      .byte 19 check]

def originReadSlRp (addr : UInt8) : Exec Command :=
  Command.new [addr, 0x3F, check]

def originModifySlRp
    (addr : UInt8)
    (svF : Bool)
    (slRp : UInt16) :
    Exec Command :=
  Command.filled 7
    [.byte 0 addr, .byte 1 0x5C, .byte 2 0xAC,
      .byte 3 svF.toUInt8, .bytes 4 6 (toBeBytes16 slRp),
      .byte 6 check]

------------------------------------------------------------
-- System Parameters
------------------------------------------------------------

def autoReturnSysParamsTimed
    (addr : UInt8)
    (s : SysParams)
    (timeMs : UInt16) :
    Exec Command := do
  let frame ← Growing.empty.push addr
  let frame ← frame.push 0x11
  let frame ← frame.push 0x18
  -- `Sys` has no information code: none is sent for it.
  let frame ← frame.pushSome s.timedCode
  let frame ← frame.extend (toBeBytes16 timeMs)
  let frame ← frame.push check
  Command.fromParts frame.buf frame.len

def readSysParams
    (addr : UInt8)
    (s : SysParams) :
    Exec Command := do
  let frame ← Growing.empty.push addr
  let (code, aux) := s.code
  let frame ← frame.push code
  let frame ← frame.pushSome aux
  let frame ← frame.push check
  Command.fromParts frame.buf frame.len

------------------------------------------------------------
-- Driver Parameters
------------------------------------------------------------

def modifyMotorId
    (addr : UInt8)
    (svF : Bool)
    (id : UInt8) :
    Exec Command :=
  Command.new [addr, 0xAE, 0x4B, svF.toUInt8, id, check]

def modifyMicroStep
    (addr : UInt8)
    (svF : Bool)
    (mstep : UInt8) :
    Exec Command :=
  Command.new [addr, 0x84, 0x8A, svF.toUInt8, mstep, check]

def modifyPdFlag (addr : UInt8) (pdf : Bool) : Exec Command :=
  Command.new [addr, 0x50, pdf.toUInt8, check]

def readOptParamSta (addr : UInt8) : Exec Command :=
  Command.new [addr, 0x1A, check]

def modifyMotorType
    (addr : UInt8)
    (svF mottype : Bool) :
    Exec Command :=
  let motType : UInt8 := if mottype then 25 else 50
  Command.new [addr, 0xD7, 0x35, svF.toUInt8, motType, check]

def modifyFirmwareType
    (addr : UInt8)
    (svF fwtype : Bool) :
    Exec Command :=
  Command.new
    [addr, 0xD5, 0x69, svF.toUInt8, fwtype.toUInt8, check]

def modifyCtrlMode
    (addr : UInt8)
    (svF ctrlMode : Bool) :
    Exec Command :=
  Command.new
    [addr, 0x46, 0x69, svF.toUInt8, ctrlMode.toUInt8, check]

def modifyMotorDir
    (addr : UInt8)
    (svF dir : Bool) :
    Exec Command :=
  Command.new
    [addr, 0xD4, 0x60, svF.toUInt8, dir.toUInt8, check]

def modifyLockBtn
    (addr : UInt8)
    (svF lock : Bool) :
    Exec Command :=
  Command.new
    [addr, 0xD0, 0xB3, svF.toUInt8, lock.toUInt8, check]

def modifySVel
    (addr : UInt8)
    (svF sVel : Bool) :
    Exec Command :=
  Command.new
    [addr, 0x4F, 0x71, svF.toUInt8, sVel.toUInt8, check]

def modifyOmMa
    (addr : UInt8)
    (svF : Bool)
    (omMa : UInt16) :
    Exec Command :=
  Command.filled 7
    [.byte 0 addr, .byte 1 0x44, .byte 2 0x33,
      .byte 3 svF.toUInt8, .bytes 4 6 (toBeBytes16 omMa),
      .byte 6 check]

def modifyFocMa
    (addr : UInt8)
    (svF : Bool)
    (focMa : UInt16) :
    Exec Command :=
  Command.filled 7
    [.byte 0 addr, .byte 1 0x45, .byte 2 0x66,
      .byte 3 svF.toUInt8, .bytes 4 6 (toBeBytes16 focMa),
      .byte 6 check]

def readPidParams (addr : UInt8) : Exec Command :=
  Command.new [addr, 0x21, check]

def modifyPidParams
    (addr : UInt8)
    (svF : Bool)
    (pTkp pBkp vkp vki : UInt32) :
    Exec Command :=
  Command.filled 21
    [.byte 0 addr, .byte 1 0x4A, .byte 2 0xC3,
      .byte 3 svF.toUInt8, .bytes 4 8 (toBeBytes32 pTkp),
      .bytes 8 12 (toBeBytes32 pBkp),
      .bytes 12 16 (toBeBytes32 vkp),
      .bytes 16 20 (toBeBytes32 vki), .byte 20 check]

def readDmx512Params (addr : UInt8) : Exec Command :=
  Command.new [addr, 0x49, 0x78, check]

def modifyDmx512Params
    (addr : UInt8)
    (svF : Bool)
    (tch : UInt16)
    (nch mode : UInt8)
    (vel acc velStep : UInt16)
    (posStep : UInt32) :
    Exec Command :=
  Command.filled 19
    [.byte 0 addr, .byte 1 0xD9, .byte 2 0x90,
      .byte 3 svF.toUInt8, .bytes 4 6 (toBeBytes16 tch),
      .byte 6 nch, .byte 7 mode,
      .bytes 8 10 (toBeBytes16 vel),
      .bytes 10 12 (toBeBytes16 acc),
      .bytes 12 14 (toBeBytes16 velStep),
      .bytes 14 18 (toBeBytes32 posStep), .byte 18 check]

def readPosWindow (addr : UInt8) : Exec Command :=
  Command.new [addr, 0x41, check]

def modifyPosWindow
    (addr : UInt8)
    (svF : Bool)
    (prw : UInt16) :
    Exec Command :=
  Command.filled 7
    [.byte 0 addr, .byte 1 0xD1, .byte 2 0x07,
      .byte 3 svF.toUInt8, .bytes 4 6 (toBeBytes16 prw),
      .byte 6 check]

def readOtocp (addr : UInt8) : Exec Command :=
  Command.new [addr, 0x13, check]

def modifyOtocp
    (addr : UInt8)
    (svF : Bool)
    (otp ocp timeMs : UInt16) :
    Exec Command :=
  Command.filled 11
    [.byte 0 addr, .byte 1 0xD3, .byte 2 0x56,
      .byte 3 svF.toUInt8, .bytes 4 6 (toBeBytes16 otp),
      .bytes 6 8 (toBeBytes16 ocp),
      .bytes 8 10 (toBeBytes16 timeMs), .byte 10 check]

def readHeartProtect (addr : UInt8) : Exec Command :=
  Command.new [addr, 0x16, check]

def modifyHeartProtect
    (addr : UInt8)
    (svF : Bool)
    (hp : UInt32) :
    Exec Command :=
  Command.filled 9
    [.byte 0 addr, .byte 1 0x68, .byte 2 0x38,
      .byte 3 svF.toUInt8, .bytes 4 8 (toBeBytes32 hp),
      .byte 8 check]

def readIntegralLimit (addr : UInt8) : Exec Command :=
  Command.new [addr, 0x23, check]

def modifyIntegralLimit
    (addr : UInt8)
    (svF : Bool)
    (il : UInt32) :
    Exec Command :=
  Command.filled 9
    [.byte 0 addr, .byte 1 0x4B, .byte 2 0x57,
      .byte 3 svF.toUInt8, .bytes 4 8 (toBeBytes32 il),
      .byte 8 check]

------------------------------------------------------------
-- All Parameters
------------------------------------------------------------

def readSystemStateParams (addr : UInt8) : Exec Command :=
  Command.new [addr, 0x43, 0x7A, check]

def readMotorConfParams (addr : UInt8) : Exec Command :=
  Command.new [addr, 0x42, 0x6C, check]

------------------------------------------------------------
-- Calls
------------------------------------------------------------

/- A call of one of the builders, over types of numbers. -/
inductive CallOf (Speed Position : Type) where
| trigEncoderCal (addr : UInt8)
| resetMotor (addr : UInt8)
| resetCurPosToZero (addr : UInt8)
| resetClogPro (addr : UInt8)
| restoreMotor (addr : UInt8)
| enControl (addr : UInt8) (state snF : Bool)
| torqueControl
    (addr sign : UInt8) (tRamp torque : UInt16) (snF : Bool)
| torqueLvControl
    (addr sign : UInt8) (tRamp torque : UInt16) (snF : Bool)
    (maxVel : Speed)
| velControl
    (addr dir : UInt8) (acc : UInt16) (vel : Speed)
    (snF : Bool)
| velLcControl
    (addr dir : UInt8) (acc : UInt16) (vel : Speed)
    (snF : Bool) (maxCur : UInt16)
| bypassPosLvControl
    (addr dir : UInt8) (vel : Speed) (pos : Position)
    (raf : UInt8) (snF : Bool)
| bypassPosLvLcControl
    (addr dir : UInt8) (vel : Speed) (pos : Position)
    (raf : UInt8) (snF : Bool) (maxCur : UInt16)
| trajPosControl
    (addr dir : UInt8) (acc dec : UInt16) (vel : Speed)
    (pos : Position) (raf : UInt8) (snF : Bool)
| trajPosLcControl
    (addr dir : UInt8) (acc dec : UInt16) (vel : Speed)
    (pos : Position) (raf : UInt8) (snF : Bool) (maxCur : UInt16)
| setQtrajPosParams
    (addr : UInt8) (acc dec : UInt16) (vel : Speed)
    (raf : UInt8) (snF : Bool) (maxCur : UInt16)
| qtrajPosLcControl (addr : UInt8) (pos : Position)
| stopNow (addr : UInt8) (snF : Bool)
| synchronousMotion (addr : UInt8)
| originSetO (addr : UInt8) (svF : Bool)
| originTriggerReturn (addr oMode : UInt8) (snF : Bool)
| originInterrupt (addr : UInt8)
| originReadParams (addr : UInt8)
| originModifyParams
    (addr : UInt8) (svF : Bool) (oMode oDir : UInt8)
    (oVel : UInt16) (oTm : UInt32) (slVel slMa slMs : UInt16)
    (potF : Bool)
| originReadSlRp (addr : UInt8)
| originModifySlRp (addr : UInt8) (svF : Bool) (slRp : UInt16)
| autoReturnSysParamsTimed
    (addr : UInt8) (s : SysParams) (timeMs : UInt16)
| readSysParams (addr : UInt8) (s : SysParams)
| modifyMotorId (addr : UInt8) (svF : Bool) (id : UInt8)
| modifyMicroStep (addr : UInt8) (svF : Bool) (mstep : UInt8)
| modifyPdFlag (addr : UInt8) (pdf : Bool)
| readOptParamSta (addr : UInt8)
| modifyMotorType (addr : UInt8) (svF mottype : Bool)
| modifyFirmwareType (addr : UInt8) (svF fwtype : Bool)
| modifyCtrlMode (addr : UInt8) (svF ctrlMode : Bool)
| modifyMotorDir (addr : UInt8) (svF dir : Bool)
| modifyLockBtn (addr : UInt8) (svF lock : Bool)
| modifySVel (addr : UInt8) (svF sVel : Bool)
| modifyOmMa (addr : UInt8) (svF : Bool) (omMa : UInt16)
| modifyFocMa (addr : UInt8) (svF : Bool) (focMa : UInt16)
| readPidParams (addr : UInt8)
| modifyPidParams
    (addr : UInt8) (svF : Bool) (pTkp pBkp vkp vki : UInt32)
| readDmx512Params (addr : UInt8)
| modifyDmx512Params
    (addr : UInt8) (svF : Bool) (tch : UInt16)
    (nch mode : UInt8) (vel acc velStep : UInt16)
    (posStep : UInt32)
| readPosWindow (addr : UInt8)
| modifyPosWindow (addr : UInt8) (svF : Bool) (prw : UInt16)
| readOtocp (addr : UInt8)
| modifyOtocp
    (addr : UInt8) (svF : Bool) (otp ocp timeMs : UInt16)
| readHeartProtect (addr : UInt8)
| modifyHeartProtect (addr : UInt8) (svF : Bool) (hp : UInt32)
| readIntegralLimit (addr : UInt8)
| modifyIntegralLimit
    (addr : UInt8) (svF : Bool) (il : UInt32)
| readSystemStateParams (addr : UInt8)
| readMotorConfParams (addr : UInt8)

abbrev Call : Type :=
  CallOf Float32 Float32

/- The address that a call is given. -/
def CallOf.addr
    {Speed Position : Type} :
    CallOf Speed Position → UInt8
| .trigEncoderCal addr | .resetMotor addr
| .resetCurPosToZero addr | .resetClogPro addr
| .restoreMotor addr | .enControl addr ..
| .torqueControl addr .. | .torqueLvControl addr ..
| .velControl addr .. | .velLcControl addr ..
| .bypassPosLvControl addr ..
| .bypassPosLvLcControl addr .. | .trajPosControl addr ..
| .trajPosLcControl addr .. | .setQtrajPosParams addr ..
| .qtrajPosLcControl addr .. | .stopNow addr ..
| .synchronousMotion addr | .originSetO addr ..
| .originTriggerReturn addr .. | .originInterrupt addr
| .originReadParams addr | .originModifyParams addr ..
| .originReadSlRp addr | .originModifySlRp addr ..
| .autoReturnSysParamsTimed addr .. | .readSysParams addr ..
| .modifyMotorId addr .. | .modifyMicroStep addr ..
| .modifyPdFlag addr .. | .readOptParamSta addr
| .modifyMotorType addr .. | .modifyFirmwareType addr ..
| .modifyCtrlMode addr .. | .modifyMotorDir addr ..
| .modifyLockBtn addr .. | .modifySVel addr ..
| .modifyOmMa addr .. | .modifyFocMa addr ..
| .readPidParams addr | .modifyPidParams addr ..
| .readDmx512Params addr | .modifyDmx512Params addr ..
| .readPosWindow addr | .modifyPosWindow addr ..
| .readOtocp addr | .modifyOtocp addr ..
| .readHeartProtect addr | .modifyHeartProtect addr ..
| .readIntegralLimit addr | .modifyIntegralLimit addr ..
| .readSystemStateParams addr
| .readMotorConfParams addr => addr

/- The command that a call returns. -/
def build : Call → Exec Command
| .trigEncoderCal addr => trigEncoderCal addr
| .resetMotor addr => resetMotor addr
| .resetCurPosToZero addr => resetCurPosToZero addr
| .resetClogPro addr => resetClogPro addr
| .restoreMotor addr => restoreMotor addr
| .enControl addr state snF => enControl addr state snF
| .torqueControl addr sign tRamp torque snF =>
    torqueControl addr sign tRamp torque snF
| .torqueLvControl addr sign tRamp torque snF maxVel =>
    torqueLvControl addr sign tRamp torque snF maxVel
| .velControl addr dir acc vel snF =>
    velControl addr dir acc vel snF
| .velLcControl addr dir acc vel snF maxCur =>
    velLcControl addr dir acc vel snF maxCur
| .bypassPosLvControl addr dir vel pos raf snF =>
    bypassPosLvControl addr dir vel pos raf snF
| .bypassPosLvLcControl addr dir vel pos raf snF maxCur =>
    bypassPosLvLcControl addr dir vel pos raf snF maxCur
| .trajPosControl addr dir acc dec vel pos raf snF =>
    trajPosControl addr dir acc dec vel pos raf snF
| .trajPosLcControl addr dir acc dec vel pos raf snF maxCur =>
    trajPosLcControl addr dir acc dec vel pos raf snF maxCur
| .setQtrajPosParams addr acc dec vel raf snF maxCur =>
    setQtrajPosParams addr acc dec vel raf snF maxCur
| .qtrajPosLcControl addr pos => qtrajPosLcControl addr pos
| .stopNow addr snF => stopNow addr snF
| .synchronousMotion addr => synchronousMotion addr
| .originSetO addr svF => originSetO addr svF
| .originTriggerReturn addr oMode snF =>
    originTriggerReturn addr oMode snF
| .originInterrupt addr => originInterrupt addr
| .originReadParams addr => originReadParams addr
| .originModifyParams addr svF oMode oDir oVel
    oTm slVel slMa slMs potF =>
    originModifyParams addr svF oMode oDir oVel
      oTm slVel slMa slMs potF
| .originReadSlRp addr => originReadSlRp addr
| .originModifySlRp addr svF slRp =>
    originModifySlRp addr svF slRp
| .autoReturnSysParamsTimed addr s timeMs =>
    autoReturnSysParamsTimed addr s timeMs
| .readSysParams addr s => readSysParams addr s
| .modifyMotorId addr svF id => modifyMotorId addr svF id
| .modifyMicroStep addr svF mstep =>
    modifyMicroStep addr svF mstep
| .modifyPdFlag addr pdf => modifyPdFlag addr pdf
| .readOptParamSta addr => readOptParamSta addr
| .modifyMotorType addr svF mottype =>
    modifyMotorType addr svF mottype
| .modifyFirmwareType addr svF fwtype =>
    modifyFirmwareType addr svF fwtype
| .modifyCtrlMode addr svF ctrlMode =>
    modifyCtrlMode addr svF ctrlMode
| .modifyMotorDir addr svF dir => modifyMotorDir addr svF dir
| .modifyLockBtn addr svF lock => modifyLockBtn addr svF lock
| .modifySVel addr svF sVel => modifySVel addr svF sVel
| .modifyOmMa addr svF omMa => modifyOmMa addr svF omMa
| .modifyFocMa addr svF focMa => modifyFocMa addr svF focMa
| .readPidParams addr => readPidParams addr
| .modifyPidParams addr svF pTkp pBkp vkp vki =>
    modifyPidParams addr svF pTkp pBkp vkp vki
| .readDmx512Params addr => readDmx512Params addr
| .modifyDmx512Params addr svF tch nch
    mode vel acc velStep posStep =>
    modifyDmx512Params addr svF tch nch
      mode vel acc velStep posStep
| .readPosWindow addr => readPosWindow addr
| .modifyPosWindow addr svF prw =>
    modifyPosWindow addr svF prw
| .readOtocp addr => readOtocp addr
| .modifyOtocp addr svF otp ocp timeMs =>
    modifyOtocp addr svF otp ocp timeMs
| .readHeartProtect addr => readHeartProtect addr
| .modifyHeartProtect addr svF hp =>
    modifyHeartProtect addr svF hp
| .readIntegralLimit addr => readIntegralLimit addr
| .modifyIntegralLimit addr svF il =>
    modifyIntegralLimit addr svF il
| .readSystemStateParams addr => readSystemStateParams addr
| .readMotorConfParams addr => readMotorConfParams addr

end CommandBuilder

end StepMotor

end UsbCan
