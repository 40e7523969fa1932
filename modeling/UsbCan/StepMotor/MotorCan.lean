import UsbCan.Adapters.Split
import UsbCan.Protocol.WaveshareUsbCanA
import UsbCan.StepMotor.CanTx

/-
  The motors' bus on top of split mode.

  The example program owns the only sender of a split mode.
  Each packet of a command becomes an extended data frame,
  and sending it waits while the channel is full.  Another
  task takes the received messages and drops them.

  Key definitions include:
    * `UsbCan.StepMotor.Expect`
    * `UsbCan.StepMotor.sendFrame`
    * `UsbCan.StepMotor.MotorCan`
    * `UsbCan.StepMotor.MotorCan.step`
-/

open Checked

------------------------------------------------------------
-- Sending a Packet
------------------------------------------------------------

namespace UsbCan

namespace StepMotor

variable [EmbeddedCan]

/- The calls of `expect` that can panic. -/
inductive Expect where
| extId
| data
| closed (error : ClientError)

/- What `expect` makes of the outcome of a `send`. -/
def expectSent
    {P : Type} :
    Except ClientError Unit × SplitMode P →
      Except Expect (SplitMode P)
| (.ok (), mode) => .ok mode
| (.error error, _) => .error (.closed error)

/-
  Send a packet as an extended data frame: nothing while the
  channel is full, an error for a panic.
-/
def sendFrame
    {P : Type}
    (mode : SplitMode P)
    (packet : Packet) :
    Exec (Option (Except Expect (SplitMode P))) :=
  match ExtendedId.new packet.extId with
  | none => pure (some (.error .extId))
  | some id => do
      match ← CanMessage.new (.extended id) packet.data with
      | none => pure (some (.error .data))
      | some message => do
          let outcome ← mode.send message
          pure (outcome.map expectSent)

------------------------------------------------------------
-- The Program
------------------------------------------------------------

/-
  Where the program is: between two commands, inside
  `send_cmd`, at its end with the sender dropped, or stopped
  by a panic.
-/
inductive Stage where
| idle
| sending (cmd : List UInt8) (progress : Progress)
| finished
| panicked (cause : Expect)

/- Between two commands or at the end. -/
def Stage.atRest : Stage → Bool
| .idle => true
| .finished => true
| _ => false

/- The split mode, the program, and the commands so far. -/
structure MotorCan where
  mode : SplitMode WaveshareUsbCanA
  stage : Stage
  issued : List (List UInt8)

namespace MotorCan

/- The program before its first command. -/
def start (mode : SplitMode WaveshareUsbCanA) :
    MotorCan where
  mode := mode
  stage := .idle
  issued := []

/-
  The program calls `send_cmd`, goes on with it or ends, the
  tasks of split mode take steps, and the other task takes a
  received message or ends.
-/
inductive Action where
| call (cmd : List UInt8)
| advance
| finish
| reader (action : SplitMode.ReadAction)
| writer (action : SplitMode.WriteAction)
| receive
| dropReceiver

/- A step of split mode that leaves the program alone. -/
def background
    (state : MotorCan)
    (action : SplitMode.Action) :
    Exec (Option MotorCan) := do
  let mode ← state.mode.step action
  pure (mode.map fun mode => { state with mode := mode })

/- One turn of the loop of `send_cmd`. -/
def turn
    (state : MotorCan)
    (cmd : List UInt8)
    (progress : Progress) :
    Exec (Option MotorCan) := do
  match ← nextPacket cmd progress with
  | none => pure (some { state with stage := .idle })
  | some (packet, progress) => do
      match ← sendFrame state.mode packet with
      | none => pure none
      | some (.error cause) =>
          pure (some { state with stage := .panicked cause })
      | some (.ok mode) =>
          pure (some
            { state with
              mode := mode
              stage := .sending cmd progress })

/- Any process makes a step. -/
def step
    (state : MotorCan) :
    Action → Exec (Option MotorCan)
| .call cmd =>
    match state.stage with
    | .idle =>
        pure (some
          { state with
            stage :=
              if cmd.length < 2 then
                .idle
              else
                .sending cmd Progress.start
            issued := state.issued ++ [cmd] })
    | _ => pure none
| .advance =>
    match state.stage with
    | .sending cmd progress => state.turn cmd progress
    | _ => pure none
| .finish =>
    match state.stage with
    | .idle => do
        let mode ← state.mode.step (.user .dropSender)
        pure (mode.map fun mode =>
          { state with
            mode := mode
            stage := .finished })
    | _ => pure none
| .reader action => state.background (.reader action)
| .writer action => state.background (.writer action)
| .receive => state.background (.user .receive)
| .dropReceiver => state.background (.user .dropReceiver)

end MotorCan

end StepMotor

end UsbCan
