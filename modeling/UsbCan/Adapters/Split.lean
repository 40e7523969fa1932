import UsbCan.Adapters.Sender
import UsbCan.Library.Machine

/-
  Split mode as a state machine.

  The read task and the write task share the transport under
  a lock, the senders feed the write task through one
  channel, and the read task feeds the consumer through
  another.  Each task is cut at the points where it waits;
  between two such points it runs alone.  The state also
  records what has happened so far.

  Key definitions include:
    * `UsbCan.SplitMode`
    * `UsbCan.SplitMode.readTask`
    * `UsbCan.SplitMode.writeTask`
    * `UsbCan.SplitMode.user`
    * `UsbCan.SplitMode.step`
-/

open Checked

------------------------------------------------------------
-- Tasks and Shared State
------------------------------------------------------------

namespace UsbCan

/- Who holds the lock on the transport. -/
inductive Lock where
| free
| readTask
| writeTask
deriving DecidableEq, Repr

/- Why the read task has returned. -/
inductive ReadEnd where
| serialError
| channelClosed
deriving DecidableEq, Repr

/- What became of a message the write task is done with. -/
inductive Fate where
| written
| timedOut
deriving DecidableEq, Repr

variable [EmbeddedCan]

/-
  Where the read task is: waiting for the lock, about to
  look into the buffer, waiting for the serial port, waiting
  for a place in the message channel, or at its end.
-/
inductive ReadTask where
| acquiring
| scanning
| waiting
| pushing (message : CanMessage)
| ended (cause : ReadEnd)
deriving DecidableEq

/-
  Why the write task has returned: all senders are gone, a
  message has no encoding, the port has failed after some
  bytes of a message, or it has failed to flush.
-/
inductive WriteEnd where
| channelClosed
| protocolError (message : CanMessage)
| writeError (message : CanMessage) (sent : List UInt8)
| flushError
deriving DecidableEq

/-
  Where the write task is: waiting for a message or for the
  lock, writing the rest of a message, flushing, or at its
  end.
-/
inductive WriteTask where
| receiving
| locking (message : CanMessage)
| writing (message : CanMessage) (sent rest : List UInt8)
| flushing
| ended (cause : WriteEnd)
deriving DecidableEq

/-
  The lock and the transport, the two tasks, the channels
  from the senders and to the consumer, and the history:
  bytes taken from and written to the port, messages
  accepted from the senders, those the write task is done
  with or never received, and those the consumer has got.
-/
structure SplitMode (P : Type) where
  lock : Lock
  transport : Transport P
  reader : ReadTask
  writer : WriteTask
  frames : Channel CanMessage
  messages : Channel CanMessage
  taken : List UInt8
  wire : List UInt8
  accepted : List CanMessage
  handled : List (CanMessage × Fate)
  discarded : List CanMessage
  consumed : List CanMessage

namespace SplitMode

variable {P : Type} [Protocol P]

/- Capacity of both channels. -/
def channelSize : Nat := 100

/- Create split mode; the settings frame has been written. -/
def split
    (protocol : P)
    (config : Protocol.Config P)
    (port : SerialWrite) :
    Exec (Except ClientError (SplitMode P) ×
      List UInt8) := do
  let (result, written) ←
    Transport.new protocol config port
  match result with
  | .error error => pure (.error error, written)
  | .ok transport =>
      pure
        (.ok
          { lock := .free
            transport := transport
            reader := .acquiring
            writer := .receiving
            frames := Channel.bounded channelSize
            messages := Channel.bounded channelSize
            taken := []
            wire := written
            accepted := []
            handled := []
            discarded := []
            consumed := [] },
          written)

------------------------------------------------------------
-- The Read Task
------------------------------------------------------------

inductive ReadAction where
| lock
| lockTimeout
| scan
| wait (event : ReadEvent)
| push
deriving DecidableEq, Repr

/- One step of the read task, if it can make that step. -/
def readTask
    (state : SplitMode P) :
    ReadAction → Exec (Option (SplitMode P))
| .lock =>
    match state.reader, state.lock with
    | .acquiring, .free =>
        pure (some
          { state with
            lock := .readTask
            reader := .scanning })
    | _, _ => pure none
| .lockTimeout =>
    match state.reader with
    | .acquiring => pure (some state)
    | _ => pure none
| .scan =>
    match state.reader with
    | .scanning => do
        let (message, transport) ←
          state.transport.tryReadFrame
        match message with
        | some message =>
            pure (some
              { state with
                lock := .free
                transport := transport
                reader := .pushing message })
        | none =>
            pure (some
              { state with
                transport := transport
                reader := .waiting })
    | _ => pure none
| .wait event =>
    match state.reader with
    | .waiting => do
        let taken := state.taken ++ event.bytes
        match ← state.transport.awaitSerial event with
        | .next transport =>
            pure (some
              { state with
                transport := transport
                reader := .scanning
                taken := taken })
        | .done .readTimeout =>
            pure (some
              { state with
                lock := .free
                reader := .acquiring
                taken := taken })
        | .done _ =>
            pure (some
              { state with
                lock := .free
                reader := .ended .serialError
                messages := state.messages.dropSender
                taken := taken })
    | _ => pure none
| .push =>
    match state.reader with
    | .pushing message =>
        match state.messages.send message with
        | none => pure none
        | some (.ok messages) =>
            pure (some
              { state with
                reader := .acquiring
                messages := messages })
        | some (.error _) =>
            pure (some
              { state with
                reader := .ended .channelClosed
                messages := state.messages.dropSender })
    | _ => pure none

------------------------------------------------------------
-- The Write Task
------------------------------------------------------------

inductive WriteAction where
| recv
| lock
| lockTimeout
| write (count : Nat)
| writeError
| flush
| flushError
deriving DecidableEq, Repr

/- The write task returns; its channel and lock are gone. -/
def endWriter
    (state : SplitMode P)
    (cause : WriteEnd) :
    SplitMode P :=
  { state with
    lock := if state.lock = .writeTask then .free else state.lock
    writer := .ended cause
    frames := state.frames.dropReceiver
    discarded := state.frames.queue }

/- Go on with a message, or flush when nothing is left. -/
def continueWriting
    (state : SplitMode P)
    (message : CanMessage)
    (sent rest : List UInt8) :
    SplitMode P :=
  if rest = [] then
    { state with
      writer := .flushing
      handled := state.handled ++ [(message, .written)] }
  else
    { state with writer := .writing message sent rest }

/- One step of the write task, if it can make that step. -/
def writeTask
    (state : SplitMode P) :
    WriteAction → Exec (Option (SplitMode P))
| .recv =>
    match state.writer with
    | .receiving =>
        match state.frames.recv with
        | none => pure none
        | some (none, _) =>
            pure (some (state.endWriter .channelClosed))
        | some (some message, frames) =>
            pure (some
              { state with
                writer := .locking message
                frames := frames })
    | _ => pure none
| .lock =>
    match state.writer, state.lock with
    | .locking message, .free => do
        match ← state.transport.frameBytes message with
        | .error _ =>
            pure (some
              (state.endWriter (.protocolError message)))
        | .ok bytes =>
            pure (some
              ({ state with
                lock := .writeTask }.continueWriting
                  message [] bytes))
    | _, _ => pure none
| .lockTimeout =>
    match state.writer with
    | .locking message =>
        pure (some
          { state with
            writer := .receiving
            handled :=
              state.handled ++ [(message, .timedOut)] })
    | _ => pure none
| .write count =>
    match state.writer with
    | .writing message sent rest =>
        if 0 < count ∧ count ≤ rest.length then
          pure (some
            ({ state with
              wire := state.wire ++ rest.take count
            }.continueWriting message
                (sent ++ rest.take count)
                (rest.drop count)))
        else
          pure none
    | _ => pure none
| .writeError =>
    match state.writer with
    | .writing message sent _ =>
        pure (some
          (state.endWriter (.writeError message sent)))
    | _ => pure none
| .flush =>
    match state.writer with
    | .flushing =>
        pure (some
          { state with
            lock := .free
            writer := .receiving })
    | _ => pure none
| .flushError =>
    match state.writer with
    | .flushing =>
        pure (some (state.endWriter .flushError))
    | _ => pure none

------------------------------------------------------------
-- Senders and the Consumer
------------------------------------------------------------

/- The write task's channel after a call of a sender. -/
def enqueued
    (state : SplitMode P)
    (frames : Channel CanMessage) :
    SplitMode P :=
  { state with
    frames := frames
    accepted :=
      state.accepted ++
        frames.queue.drop state.frames.queue.length }

/- A sender's `send`, with what its caller is told. -/
def send
    {F : Type} [Frame F]
    (state : SplitMode P)
    (frame : F) :
    Exec (Option (Except ClientError Unit × SplitMode P)) :=
  if state.frames.senders = 0 then
    pure none
  else do
    match ← CanUsbSender.send frame state.frames with
    | none => pure none
    | some (result, frames) =>
        pure (some (result, state.enqueued frames))

/- A sender's `try_send`, with what its caller is told. -/
def trySend
    {F : Type} [Frame F]
    (state : SplitMode P)
    (frame : F) :
    Exec (Option (Except ClientError Unit × SplitMode P)) :=
  if state.frames.senders = 0 then
    pure none
  else do
    let (result, frames) ←
      CanUsbSender.trySend frame state.frames
    pure (some (result, state.enqueued frames))

inductive UserAction : Type 1 where
| send {F : Type} [Frame F] (frame : F)
| trySend {F : Type} [Frame F] (frame : F)
| cloneSender
| dropSender
| receive
| dropReceiver

/- One step of a sender or of the consumer. -/
def user
    (state : SplitMode P) :
    UserAction → Exec (Option (SplitMode P))
| @UserAction.send _ _ _ frame => do
    let outcome ← state.send frame
    pure (outcome.map Prod.snd)
| @UserAction.trySend _ _ _ frame => do
    let outcome ← state.trySend frame
    pure (outcome.map Prod.snd)
| .cloneSender =>
    if state.frames.senders = 0 then
      pure none
    else
      pure (some
        { state with frames := state.frames.addSender })
| .dropSender =>
    if state.frames.senders = 0 then
      pure none
    else
      pure (some
        { state with frames := state.frames.dropSender })
| .receive =>
    if state.messages.receiverAlive then
      match state.messages.recv with
      | none => pure none
      | some (none, _) => pure (some state)
      | some (some message, messages) =>
          pure (some
            { state with
              messages := messages
              consumed := state.consumed ++ [message] })
    else
      pure none
| .dropReceiver =>
    if state.messages.receiverAlive then
      pure (some
        { state with
          messages := state.messages.dropReceiver })
    else
      pure none

------------------------------------------------------------
-- Interleavings
------------------------------------------------------------

inductive Action : Type 1 where
| reader (action : ReadAction)
| writer (action : WriteAction)
| user (action : UserAction)

/- Any process makes a step. -/
def step
    (state : SplitMode P) :
    Action → Exec (Option (SplitMode P))
| .reader action => state.readTask action
| .writer action => state.writeTask action
| .user action => state.user action

end SplitMode

end UsbCan
