import UsbCan.Adapters.Transport
import UsbCan.Library.Machine

/-
  The exclusive client as a state machine.

  A `read` call is pending from its start to its result and
  can be dropped where it waits for the serial port; no
  other call is made meanwhile.  The state also records what
  has happened so far: the messages the calls have returned
  and the bytes taken from and written to the port.

  Key definitions include:
    * `UsbCan.CanUsbClient.State`
    * `UsbCan.CanUsbClient.Action`
    * `UsbCan.CanUsbClient.step`
-/

open Checked

------------------------------------------------------------
-- Client States
------------------------------------------------------------

namespace UsbCan

/-
  Where a `read_frame` call is: about to look into the
  buffer, or waiting for the serial port.
-/
inductive ReadPhase where
| scanning
| waiting
deriving DecidableEq, Repr

namespace CanUsbClient

variable [EmbeddedCan]

/-
  The client's transport, its pending read, the error of the
  last call if that was a failed read, and its history.
-/
structure State (P : Type) where
  transport : Transport P
  reading : Option ReadPhase
  readError : Option ClientError
  returned : List CanMessage
  taken : List UInt8
  written : List UInt8

variable {P : Type} [Protocol P]

/- Create a client; it has written the settings frame. -/
def new
    (protocol : P)
    (config : Protocol.Config P)
    (port : SerialWrite) :
    Exec (Except ClientError (State P) × List UInt8) := do
  let (result, written) ←
    Transport.new protocol config port
  match result with
  | .error error => pure (.error error, written)
  | .ok transport =>
      pure
        (.ok
          { transport := transport
            reading := none
            readError := none
            returned := []
            taken := []
            written := written },
          written)

------------------------------------------------------------
-- Client Steps
------------------------------------------------------------

/-
  The caller starts a call or drops a waiting read; a
  pending read looks into the buffer or is done waiting.
-/
inductive Action : Type 1 where
| read
| tryRead
| write {F : Type} [Frame F] (frame : F) (port : SerialWrite)
| cancel
| scan
| wait (event : ReadEvent)

/- The call of `try_read`. -/
def tryRead (state : State P) : Exec (State P) := do
  let (message, transport) ← state.transport.tryReadFrame
  pure
    { state with
      transport := transport
      readError := none
      returned := state.returned ++ message.toList }

/- The call of `write`. -/
def write
    {F : Type} [Frame F]
    (state : State P)
    (frame : F)
    (port : SerialWrite) :
    Exec (State P) := do
  let (_, bytes) ← state.transport.writeFrame frame port
  pure
    { state with
      readError := none
      written := state.written ++ bytes }

/- A pending read returns a buffered frame or has to wait. -/
def scan (state : State P) : Exec (State P) := do
  let (message, transport) ← state.transport.tryReadFrame
  match message with
  | some message =>
      pure
        { state with
          transport := transport
          reading := none
          returned := state.returned ++ [message] }
  | none =>
      pure
        { state with
          transport := transport
          reading := some .waiting }

/- A pending read goes around its loop or returns an error. -/
def wait
    (state : State P)
    (event : ReadEvent) :
    Exec (State P) := do
  let taken := state.taken ++ event.bytes
  match ← state.transport.awaitSerial event with
  | .next transport =>
      pure
        { state with
          transport := transport
          reading := some .scanning
          taken := taken }
  | .done error =>
      pure
        { state with
          reading := none
          readError := some error
          taken := taken }

/- Perform an action where it is possible. -/
def step
    (state : State P) :
    Action → Exec (Option (State P))
| .read =>
    match state.reading with
    | none =>
        pure (some
          { state with
            reading := some .scanning
            readError := none })
    | some _ => pure none
| .tryRead =>
    match state.reading with
    | none => some <$> tryRead state
    | some _ => pure none
| @Action.write _ _ _ frame port =>
    match state.reading with
    | none => some <$> write state frame port
    | some _ => pure none
| .cancel =>
    match state.reading with
    | some .waiting =>
        pure (some { state with reading := none })
    | _ => pure none
| .scan =>
    match state.reading with
    | some .scanning => some <$> scan state
    | _ => pure none
| .wait event =>
    match state.reading with
    | some .waiting => some <$> wait state event
    | _ => pure none

end CanUsbClient

end UsbCan
