import UsbCan.Adapters.Split
import UsbCan.Interfaces.ZencanTokioSerial

/-
  The sender and receiver for zencan's bus manager.

  Both wrap the ends of split mode and convert messages on
  the way.  The one sender is used exclusively; so is the
  receiver, whose `flush` takes one message after the other
  while the other processes go on.  The state also records
  what was sent and what the receiver has converted.

  Key definitions include:
    * `UsbCan.ZenCanSender.send`
    * `UsbCan.ZenCanReceiver.tryRecv`
    * `UsbCan.ZenCanReceiver.recv`
    * `UsbCan.Bus`
    * `UsbCan.Bus.step`
-/

open Checked

------------------------------------------------------------
-- Errors
------------------------------------------------------------

namespace UsbCan

/- Texts of errors that other crates write. -/
structure ErrorTexts where
  device : String
  sendError : String

variable [EmbeddedCan] [ZencanCommon]

/- The text of an I/O error. -/
def IoError.display (texts : ErrorTexts) : IoError → String
| .unexpectedEof message => message
| .device => texts.device

/- The text of a client error. -/
def ClientError.display
    (texts : ErrorTexts) :
    ClientError → String
| .io error => "IO error: " ++ error.display texts
| .protocol message => "Protocol error: " ++ message
| .readTimeout => "Read timeout"
| .sendError _ => "Send error: " ++ texts.sendError
| .channelClosed => "Channel closed"

/- A failed send, with the message if it was kept. -/
structure ZenCanSendError where
  msg : String
  undelivered : Option ZenCanMessage

namespace ZenCanSendError

def new
    (msg : String)
    (undelivered : Option ZenCanMessage) :
    ZenCanSendError :=
  ⟨msg, undelivered⟩

/- The message that was not sent, or an empty placeholder. -/
def intoCanMessage
    (error : ZenCanSendError) :
    Exec ZenCanMessage :=
  match error.undelivered with
  | some message => pure message
  | none => ZencanCommon.new (.std 0) []

def message (error : ZenCanSendError) : String :=
  error.msg

end ZenCanSendError

/- A receive error, with its text. -/
structure ZenCanRecvError where
  text : String
deriving DecidableEq, Repr

------------------------------------------------------------
-- Sender and Receiver
------------------------------------------------------------

namespace ZenCanSender

variable {P : Type} [Protocol P]

/- Send a message; a failed send gives it back. -/
def send
    (texts : ErrorTexts)
    (inner : SplitMode P)
    (msg : ZenCanMessage) :
    Exec (Option
      (Except ZenCanSendError Unit × SplitMode P)) :=
  if inner.frames.senders = 0 then
    pure none
  else do
    match ← fromZencan msg with
    | none =>
        pure (some
          (.error (.new "Invalid CAN message" (some msg)),
            inner))
    | some converted =>
        match ← inner.send converted with
        | none => pure none
        | some (.ok (), inner) =>
            pure (some (.ok (), inner))
        | some (.error error, inner) =>
            pure (some
              (.error
                (.new (error.display texts) (some msg)),
                inner))

end ZenCanSender

namespace ZenCanReceiver

/- Receive a message if there is one. -/
def tryRecv
    (inner : Channel CanMessage) :
    Exec (Option ZenCanMessage × Channel CanMessage) :=
  match inner.tryRecv with
  | none => pure (none, inner)
  | some (message, inner) => do
      let converted ← toZencan message
      pure (some converted, inner)

/- Receive a message, waiting for one. -/
def recv
    (inner : Channel CanMessage) :
    Exec (Option
      (Except ZenCanRecvError ZenCanMessage ×
        Channel CanMessage)) :=
  match inner.recv with
  | none => pure none
  | some (none, inner) =>
      pure (some (.error ⟨"Channel closed"⟩, inner))
  | some (some message, inner) => do
      let converted ← toZencan message
      pure (some (.ok converted, inner))

end ZenCanReceiver

------------------------------------------------------------
-- The Bus
------------------------------------------------------------

/- What became of a message the receiver has converted. -/
inductive Delivery where
| delivered
| flushed
deriving DecidableEq, Repr

/-
  Split mode, whether the receiver is flushing, the messages
  that were sent and those the receiver has converted.
-/
structure Bus (P : Type) where
  mode : SplitMode P
  flushing : Bool
  sent : List ZenCanMessage
  received : List (ZenCanMessage × Delivery)

namespace Bus

variable {P : Type} [Protocol P]

/- Create the sender and the receiver. -/
def split
    (protocol : P)
    (config : Protocol.Config P)
    (port : SerialWrite) :
    Exec (Except ClientError (Bus P) × List UInt8) := do
  let (result, written) ←
    SplitMode.split protocol config port
  match result with
  | .error error => pure (.error error, written)
  | .ok mode =>
      pure
        (.ok
          { mode := mode
            flushing := false
            sent := []
            received := [] },
          written)

/- The messages handed to the bus manager, in order. -/
def delivered (bus : Bus P) : List ZenCanMessage :=
  (bus.received.filter
    (fun entry => entry.2 == .delivered)).map Prod.fst

/- The receiver has taken a message from its channel. -/
def took
    (bus : Bus P)
    (converted : ZenCanMessage)
    (delivery : Delivery)
    (inner : Channel CanMessage) :
    Bus P :=
  { bus with
    mode :=
      { bus.mode with
        messages := inner
        consumed :=
          bus.mode.consumed ++
            bus.mode.messages.queue.take 1 }
    received := bus.received ++ [(converted, delivery)] }

/-
  The bus manager sends, drops the sender, receives with or
  without waiting, starts to flush or drops the receiver; a
  flush takes its next message; the two tasks go on.
-/
inductive Action where
| send (msg : ZenCanMessage)
| dropSender
| tryRecv
| recv
| flush
| flushNext
| dropReceiver
| reader (action : SplitMode.ReadAction)
| writer (action : SplitMode.WriteAction)

/- The receiver is there, and flushing or not. -/
def Receiver (bus : Bus P) (flushing : Bool) : Prop :=
  bus.mode.messages.receiverAlive = true ∧
    bus.flushing = flushing

instance (bus : Bus P) (flushing : Bool) :
    Decidable (bus.Receiver flushing) :=
  inferInstanceAs (Decidable (_ ∧ _))

/- One step of the bus manager or of one of the tasks. -/
def step
    (texts : ErrorTexts)
    (bus : Bus P) :
    Action → Exec (Option (Bus P))
| .send msg => do
    match ← ZenCanSender.send texts bus.mode msg with
    | none => pure none
    | some (.error _, mode) =>
        pure (some { bus with mode := mode })
    | some (.ok (), mode) =>
        pure (some
          { bus with
            mode := mode
            sent := bus.sent ++ [msg] })
| .dropSender => do
    let mode ← bus.mode.user .dropSender
    pure (mode.map (fun mode => { bus with mode := mode }))
| .tryRecv =>
    if bus.Receiver false then do
      let (result, inner) ←
        ZenCanReceiver.tryRecv bus.mode.messages
      match result with
      | none => pure (some bus)
      | some converted =>
          pure (some (bus.took converted .delivered inner))
    else
      pure none
| .recv =>
    if bus.Receiver false then do
      match ← ZenCanReceiver.recv bus.mode.messages with
      | none => pure none
      | some (.error _, _) => pure (some bus)
      | some (.ok converted, inner) =>
          pure (some (bus.took converted .delivered inner))
    else
      pure none
| .flush =>
    if bus.Receiver false then
      pure (some { bus with flushing := true })
    else
      pure none
| .flushNext =>
    if bus.Receiver true then do
      let (result, inner) ←
        ZenCanReceiver.tryRecv bus.mode.messages
      match result with
      | none => pure (some { bus with flushing := false })
      | some converted =>
          pure (some (bus.took converted .flushed inner))
    else
      pure none
| .dropReceiver =>
    if bus.Receiver false then do
      let mode ← bus.mode.user .dropReceiver
      pure (mode.map (fun mode => { bus with mode := mode }))
    else
      pure none
| .reader action => do
    let mode ← bus.mode.readTask action
    pure (mode.map (fun mode => { bus with mode := mode }))
| .writer action => do
    let mode ← bus.mode.writeTask action
    pure (mode.map (fun mode => { bus with mode := mode }))

end Bus

end UsbCan
