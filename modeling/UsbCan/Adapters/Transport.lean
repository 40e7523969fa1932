import UsbCan.Protocol.Basic

/-
  The serial transport shared by the exclusive client and
  split mode.

  The serial port itself is outside the repository: what it
  yields is an argument of the functions below, and what is
  written to it is part of their results.  Receiving is cut
  at the one point where `read_frame` waits for the port, so
  that other tasks can be interleaved there.

  Key definitions include:
    * `UsbCan.Transport`
    * `UsbCan.Transport.tryReadFrame`
    * `UsbCan.Transport.awaitSerial`
    * `UsbCan.Transport.writeFrame`
    * `UsbCan.drain`
-/

open Checked

------------------------------------------------------------
-- Errors and Port Behaviour
------------------------------------------------------------

namespace UsbCan

/- I/O errors: the port closed, or the device failed. -/
inductive IoError where
| unexpectedEof (message : String)
| device
deriving DecidableEq, Repr

/- Client errors. -/
inductive ClientError [EmbeddedCan] where
| io (error : IoError)
| protocol (message : String)
| readTimeout
| sendError (message : CanMessage)
| channelClosed
deriving DecidableEq

/- Capacity of the receive buffer. -/
def rxSize : Nat := 1024

/- Capacity of the buffer for one serial read. -/
def tempSize : Nat := 256

/- Bytes that one serial read has put into `temp`. -/
structure Chunk where
  bytes : List UInt8
  length_le : bytes.length ≤ tempSize
deriving DecidableEq, Repr

/-
  How the wait for the serial port ends: the deadline had
  already passed, it passed while waiting, the port yielded
  bytes (none at end of file), or the read failed.
-/
inductive ReadEvent where
| deadlinePassed
| elapsed
| data (chunk : Chunk)
| failed
deriving DecidableEq, Repr

/- The bytes that are taken from the port. -/
def ReadEvent.bytes : ReadEvent → List UInt8
| .deadlinePassed => []
| .elapsed => []
| .data chunk => chunk.bytes
| .failed => []

/-
  How writing a buffer to the port ends: everything is
  written and flushed, the write fails after some bytes, or
  the flush fails.
-/
inductive SerialWrite where
| complete
| writeFails (count : Nat)
| flushFails
deriving DecidableEq, Repr

namespace SerialWrite

/- The bytes that reach the port. -/
def sent (bytes : List UInt8) : SerialWrite → List UInt8
| .complete => bytes
| .writeFails count => bytes.take count
| .flushFails => bytes

/- What the writer is told. -/
def result [EmbeddedCan] :
    SerialWrite → Except ClientError Unit
| .complete => .ok ()
| .writeFails _ => .error (.io .device)
| .flushFails => .error (.io .device)

end SerialWrite

end UsbCan

------------------------------------------------------------
-- Transport State
------------------------------------------------------------

namespace UsbCan

variable [EmbeddedCan]

/- Wire protocol and receive buffering. -/
structure Transport (P : Type) where
  protocol : P
  rxBuffer : FixedArray UInt8 rxSize
  rxLength : Nat
  temp : FixedArray UInt8 tempSize
deriving DecidableEq

namespace Transport

variable {P : Type}

/- The received bytes that have not been consumed. -/
def buffered (transport : Transport P) : List UInt8 :=
  transport.rxBuffer.toList.take transport.rxLength

variable [Protocol P]

/- Build the settings frame and write it to the port. -/
def sendSettings
    (transport : Transport P)
    (config : Protocol.Config P)
    (port : SerialWrite) :
    Exec (Except ClientError Unit × List UInt8) := do
  let buf := List.replicate 64 0
  let (result, buf) ←
    Protocol.buildSettingsFrame transport.protocol config buf
  match result with
  | .error message =>
      pure (.error (.protocol message), [])
  | .ok len => do
      let bytes ← slice buf 0 len
      pure (port.result, port.sent bytes)

/- Create the transport and send the settings frame. -/
def new
    (protocol : P)
    (config : Protocol.Config P)
    (port : SerialWrite) :
    Exec (Except ClientError (Transport P) × List UInt8) := do
  let transport : Transport P :=
    { protocol := protocol
      rxBuffer := FixedArray.replicate rxSize 0
      rxLength := 0
      temp := FixedArray.replicate tempSize 0 }
  let (result, written) ←
    transport.sendSettings config port
  match result with
  | .error error => pure (.error error, written)
  | .ok () => pure (.ok transport, written)

------------------------------------------------------------
-- Writing
------------------------------------------------------------

/- The bytes `write_frame` hands to the port. -/
def frameBytes
    {F : Type} [Frame F]
    (transport : Transport P)
    (frame : F) :
    Exec (Except ClientError (List UInt8)) := do
  let buf := List.replicate 64 0
  let (result, buf) ←
    Protocol.buildDataFrame transport.protocol frame buf
  match result with
  | .error message => pure (.error (.protocol message))
  | .ok len => do
      let bytes ← slice buf 0 len
      pure (.ok bytes)

/- Build the wire frame and write it to the port. -/
def writeFrame
    {F : Type} [Frame F]
    (transport : Transport P)
    (frame : F)
    (port : SerialWrite) :
    Exec (Except ClientError Unit × List UInt8) := do
  match ← transport.frameBytes frame with
  | .error error => pure (.error error, [])
  | .ok bytes => pure (port.result, port.sent bytes)

------------------------------------------------------------
-- Reading
------------------------------------------------------------

/- Convert a parsed wire frame into a message. -/
def parsedToMessage
    (frameMeta : ParsedFrameMeta)
    (data : FixedArray UInt8 8) :
    Exec (Option CanMessage) :=
  let canId :=
    if frameMeta.isExtended then
      (ExtendedId.new frameMeta.id).map Id.extended
    else
      (StandardId.new frameMeta.id.toUInt16).map Id.standard
  match canId with
  | none => pure none
  | some canId => do
      let payload ←
        slice data.toList 0 frameMeta.dlc.toNat
      CanMessage.new canId payload

/- Drop consumed bytes from the front of the buffer. -/
def dropConsumed
    (transport : Transport P)
    (consumed : Nat) :
    Exec (Transport P) :=
  if consumed > 0 then do
    let rxBuffer ←
      transport.rxBuffer.copyWithin consumed
        transport.rxLength 0
    let rxLength ← sub transport.rxLength consumed
    pure
      { transport with
        rxBuffer := rxBuffer
        rxLength := rxLength }
  else
    pure transport

/- One iteration of `try_read_frame`. -/
def tryReadIteration
    (transport : Transport P) :
    Exec (Control (Transport P)
      (Option CanMessage × Transport P)) := do
  let dataOut := FixedArray.replicate 8 0
  let front ←
    slice transport.rxBuffer.toList 0 transport.rxLength
  let ((consumed, frameMeta), dataOut) ←
    Protocol.parseNextFrame transport.protocol front dataOut
  let transport ← transport.dropConsumed consumed
  match frameMeta with
  | none => pure (.done (none, transport))
  | some frameMeta => do
      let message ← parsedToMessage frameMeta dataOut
      match message with
      | some message =>
          pure (.done (some message, transport))
      | none => pure (.next transport)

/- Return the next buffered frame, if one is complete. -/
def tryReadFrame
    (transport : Transport P) :
    Exec (Option CanMessage × Transport P) :=
  loop tryReadIteration (transport.rxLength + 1) transport

/-
  Append the bytes of one serial read to the buffer.  A read
  that does not fit discards what was buffered.
-/
def receive
    (transport : Transport P)
    (chunk : Chunk) :
    Exec (Transport P) := do
  let n := chunk.bytes.length
  let temp ← transport.temp.copyFromSlice 0 n chunk.bytes
  let rxLength :=
    if transport.rxLength + n > rxSize then
      0
    else
      transport.rxLength
  let source ← slice temp.toList 0 n
  let rxBuffer ←
    transport.rxBuffer.copyFromSlice rxLength (rxLength + n)
      source
  pure
    { transport with
      rxBuffer := rxBuffer
      rxLength := rxLength + n
      temp := temp }

/-
  The rest of a `read_frame` iteration, from the deadline
  check on: go around the loop again or return an error.
-/
def awaitSerial
    (transport : Transport P) :
    ReadEvent → Exec (Control (Transport P) ClientError)
| .deadlinePassed => pure (.done .readTimeout)
| .elapsed => pure (.done .readTimeout)
| .failed => pure (.done (.io .device))
| .data chunk =>
    if chunk.bytes.length = 0 then
      pure (.done
        (.io (.unexpectedEof "Serial port closed")))
    else do
      let transport ← transport.receive chunk
      pure (.next transport)

end Transport

------------------------------------------------------------
-- Draining a Byte String
------------------------------------------------------------

variable {P : Type} [Protocol P]

/-
  Parse from the front of a byte string, dropping consumed
  bytes, keeping the frames that become messages and
  skipping the others, until no frame is returned.
-/
def drainLoop
    (protocol : P) :
    Nat → List UInt8 → Exec (List CanMessage)
| 0, _ => .error .outOfFuel
| fuel + 1, bytes => do
    let ((consumed, frameMeta), dataOut) ←
      Protocol.parseNextFrame protocol bytes
        (FixedArray.replicate 8 0)
    match frameMeta with
    | none => pure []
    | some frameMeta => do
        let message ←
          Transport.parsedToMessage frameMeta dataOut
        let rest ←
          drainLoop protocol fuel (bytes.drop consumed)
        pure (message.toList ++ rest)

/- All messages of a byte string. -/
def drain
    (protocol : P)
    (bytes : List UInt8) :
    Exec (List CanMessage) :=
  drainLoop protocol (bytes.length + 1) bytes

/-
  The messages of the first `calls` parser calls and the
  bytes left after them; nothing if a call has no frame.
-/
def drainCalls
    (protocol : P) :
    Nat → List UInt8 →
      Exec (Option (List CanMessage × List UInt8))
| 0, bytes => pure (some ([], bytes))
| calls + 1, bytes => do
    let ((consumed, frameMeta), dataOut) ←
      Protocol.parseNextFrame protocol bytes
        (FixedArray.replicate 8 0)
    match frameMeta with
    | none => pure none
    | some frameMeta => do
        let message ←
          Transport.parsedToMessage frameMeta dataOut
        let rest ←
          drainCalls protocol calls (bytes.drop consumed)
        pure (rest.map (fun (messages, left) =>
          (message.toList ++ messages, left)))

end UsbCan
