import UsbCan.Protocol.Basic
import UsbCan.Library.LittleEndian

/-
  The USB-CAN-A wire protocol.

  Every function follows the source line by line: reads,
  slices and subtractions are checked, mutable buffers are
  passed in and returned, and the scan over the receive
  buffer is a loop over an offset.

  Key definitions include:
    * `UsbCan.WaveshareUsbCanA.buildSettingsFrame`
    * `UsbCan.WaveshareUsbCanA.buildDataFrameInto`
    * `UsbCan.WaveshareUsbCanA.parseNextFrame`
-/

open Checked

------------------------------------------------------------
-- Constants and Configuration
------------------------------------------------------------

namespace UsbCan

namespace WaveshareUsbCanA

/- Command frame size. -/
def cmdFrameSize : Nat := 20

/- Data frame footer byte. -/
def frameFooter : UInt8 := 0x55

/- Command frame marker. -/
def cmdFrameMarker : UInt8 := 0x55

/- Frame start byte. -/
def frameStart : UInt8 := 0xAA

/- Header, extended identifier, eight bytes and footer. -/
def dataFrameMaxSize : Nat := 15

/- CAN bus speeds. -/
inductive CanSpeed where
| bps1000000
| bps800000
| bps500000
| bps400000
| bps250000
| bps200000
| bps125000
| bps100000
| bps50000
| bps20000
| bps10000
| bps5000
deriving DecidableEq, Repr

/- The wire value of a speed. -/
def CanSpeed.toU8 : CanSpeed → UInt8
| .bps1000000 => 0x01
| .bps800000 => 0x02
| .bps500000 => 0x03
| .bps400000 => 0x04
| .bps250000 => 0x05
| .bps200000 => 0x06
| .bps125000 => 0x07
| .bps100000 => 0x08
| .bps50000 => 0x09
| .bps20000 => 0x0a
| .bps10000 => 0x0b
| .bps5000 => 0x0c

/- A bit rate that is none of the speeds. -/
structure InvalidCanSpeed where
  value : UInt32
deriving DecidableEq, Repr

instance : ToString InvalidCanSpeed where
  toString error := s!"Invalid CAN speed: {error.value}"

/- The speed with a number of bits per second. -/
def CanSpeed.tryFrom
    (value : UInt32) :
    Except InvalidCanSpeed CanSpeed :=
  match value with
  | 1000000 => .ok .bps1000000
  | 800000 => .ok .bps800000
  | 500000 => .ok .bps500000
  | 400000 => .ok .bps400000
  | 250000 => .ok .bps250000
  | 200000 => .ok .bps200000
  | 125000 => .ok .bps125000
  | 100000 => .ok .bps100000
  | 50000 => .ok .bps50000
  | 20000 => .ok .bps20000
  | 10000 => .ok .bps10000
  | 5000 => .ok .bps5000
  | _ => .error ⟨value⟩

/- The bits per second of a speed. -/
def CanSpeed.asBps : CanSpeed → UInt32
| .bps1000000 => 1000000
| .bps800000 => 800000
| .bps500000 => 500000
| .bps400000 => 400000
| .bps250000 => 250000
| .bps200000 => 200000
| .bps125000 => 125000
| .bps100000 => 100000
| .bps50000 => 50000
| .bps20000 => 20000
| .bps10000 => 10000
| .bps5000 => 5000

/- CAN bus operation modes. -/
inductive CanMode where
| normal
| silent
| loopback
| loopbackSilent
deriving DecidableEq, Repr

/- The wire value of a mode. -/
def CanMode.toU8 : CanMode → UInt8
| .normal => 0x00
| .silent => 0x01
| .loopback => 0x02
| .loopbackSilent => 0x03

/- Configuration of the adapter, with its defaults. -/
structure Config where
  canSpeed : CanSpeed := .bps500000
  canMode : CanMode := .normal
  extendedIds : Bool := false
  filterId : UInt32 := 0
  maskId : UInt32 := 0
  autoRetransmit : Bool := true
deriving DecidableEq, Repr

end WaveshareUsbCanA

------------------------------------------------------------
-- Settings Frames
------------------------------------------------------------

namespace WaveshareUsbCanA

/- Sum of `length` bytes from `offset`, masked to 8 bits. -/
def generateChecksum
    (data : List UInt8)
    (offset length : Nat) :
    Exec UInt8 := do
  let window ← slice data offset (offset + length)
  let sum := (window.map UInt8.toNat).sum
  pure (UInt8.ofNat (sum &&& 0xFF))

/- The 20-byte frame that configures the adapter. -/
def buildSettingsFrame
    (speed mode : UInt8)
    (extendedIds : Bool)
    (filterId maskId : UInt32)
    (autoRetransmit : Bool) :
    Exec (FixedArray UInt8 cmdFrameSize) := do
  let frame := FixedArray.replicate cmdFrameSize 0
  let frame ← frame.set 0 frameStart
  let frame ← frame.set 1 cmdFrameMarker
  let frame ← frame.set 2 0x12
  let frame ← frame.set 3 speed
  let frame ←
    frame.set 4 (if extendedIds then 0x02 else 0x01)
  let frame ← frame.set 5 (filterId &&& 0xFF).toUInt8
  let frame ←
    frame.set 6 ((filterId >>> 8) &&& 0xFF).toUInt8
  let frame ←
    frame.set 7 ((filterId >>> 16) &&& 0xFF).toUInt8
  let frame ←
    frame.set 8 ((filterId >>> 24) &&& 0xFF).toUInt8
  let frame ← frame.set 9 (maskId &&& 0xFF).toUInt8
  let frame ←
    frame.set 10 ((maskId >>> 8) &&& 0xFF).toUInt8
  let frame ←
    frame.set 11 ((maskId >>> 16) &&& 0xFF).toUInt8
  let frame ←
    frame.set 12 ((maskId >>> 24) &&& 0xFF).toUInt8
  let frame ← frame.set 13 mode
  let frame ←
    frame.set 14 (if autoRetransmit then 0x00 else 0x01)
  let checksum ← generateChecksum frame.toList 2 17
  frame.set 19 checksum

end WaveshareUsbCanA

------------------------------------------------------------
-- Data Frames
------------------------------------------------------------

namespace WaveshareUsbCanA

variable [EmbeddedCan]

/- The raw identifier and whether it is extended. -/
def rawId : Id → UInt32 × Bool
| .standard id => ((StandardId.asRaw id).toUInt32, false)
| .extended id => (ExtendedId.asRaw id, true)

/- Build a data frame into a caller-provided array. -/
def buildDataFrameInto
    (id : Id)
    (data : List UInt8)
    (out : FixedArray UInt8 dataFrameMaxSize) :
    Exec (Except String Nat ×
      FixedArray UInt8 dataFrameMaxSize) :=
  if data.length > 8 then
    pure (.error "Data too long (max 8 bytes)", out)
  else do
    let (raw, isExtended) := rawId id
    let out ← out.set 0 frameStart
    let info : UInt8 := 0xC0
    let info := if isExtended then info ||| 0x20 else info
    let info := info ||| UInt8.ofNat data.length
    let out ← out.set 1 info
    let idLen := if isExtended then 4 else 2
    let idBytes ←
      slice (LittleEndian.toLeBytes raw).toList 0 idLen
    let out ← out.copyFromSlice 2 (2 + idLen) idBytes
    let dataStart := 2 + idLen
    let out ←
      out.copyFromSlice dataStart (dataStart + data.length)
        data
    let out ← out.set (dataStart + data.length) frameFooter
    pure (.ok (dataStart + data.length + 1), out)

end WaveshareUsbCanA

------------------------------------------------------------
-- Scanning the Receive Buffer
------------------------------------------------------------

namespace WaveshareUsbCanA

/-
  One iteration of the scan at `offset`.  The scan is done
  when fewer than five bytes are left, when a frame is not
  complete yet, or when one has been parsed; in all other
  cases the byte at `offset` is junk.
-/
def parseIteration
    (buffer : List UInt8)
    (dataOut : FixedArray UInt8 8)
    (offset : Nat) :
    Exec (Control Nat ParseResult) := do
  let remaining ← sub buffer.length offset
  if remaining < 5 then
    pure (.done ((offset, none), dataOut))
  else do
    let start ← index buffer offset
    if start ≠ frameStart then
      pure (.next (offset + 1))
    else do
      let info ← index buffer (offset + 1)
      let frameTypeNibble := info >>> 4
      if frameTypeNibble ≠ 0x0C ∧ frameTypeNibble ≠ 0x0E then
        pure (.next (offset + 1))
      else do
        let isExtended := frameTypeNibble == 0x0E
        let idLen := if isExtended then 4 else 2
        let dlc := (info &&& 0x0F).toNat
        if dlc > 8 then
          pure (.next (offset + 1))
        else do
          let frameLen := 2 + idLen + dlc + 1
          let remaining ← sub buffer.length offset
          if remaining < frameLen then
            pure (.done ((offset, none), dataOut))
          else do
            let last ← sub (offset + frameLen) 1
            let footer ← index buffer last
            if footer ≠ frameFooter then
              pure (.next (offset + 1))
            else do
              let idSource ←
                slice buffer (offset + 2)
                  (offset + 2 + idLen)
              let idBytes ←
                (FixedArray.replicate 4 0).copyFromSlice
                  0 idLen idSource
              let id := LittleEndian.fromLeBytes idBytes
              let dataStart := offset + 2 + idLen
              let payload ←
                slice buffer dataStart (dataStart + dlc)
              let dataOut ←
                dataOut.copyFromSlice 0 dlc payload
              pure (.done
                ((offset + frameLen,
                    some
                      { id := id
                        dlc := UInt8.ofNat dlc
                        isExtended := isExtended }),
                  dataOut))

/- Scan the buffer for the next complete frame. -/
def parseNextFrame
    (buffer : List UInt8)
    (dataOut : FixedArray UInt8 8) :
    Exec ParseResult :=
  loop (parseIteration buffer dataOut)
    (buffer.length + 1) 0

end WaveshareUsbCanA

------------------------------------------------------------
-- The Protocol Instance
------------------------------------------------------------

/- The USB-CAN-A protocol; it has no state. -/
inductive WaveshareUsbCanA where
| protocol
deriving DecidableEq, Repr

namespace WaveshareUsbCanA

variable [EmbeddedCan]

/- Build the settings frame at the front of `out`. -/
def buildSettingsFrameInto
    (config : Config)
    (out : List UInt8) :
    Exec BuildResult :=
  if out.length < cmdFrameSize then
    pure
      (.error "Output buffer too small for settings frame",
        out)
  else do
    let frame ←
      buildSettingsFrame config.canSpeed.toU8
        config.canMode.toU8 config.extendedIds
        config.filterId config.maskId config.autoRetransmit
    pure (.ok cmdFrameSize,
      frame.toList ++ out.drop cmdFrameSize)

/- Build the data frame of `frame` at the front of `out`. -/
def buildDataFrame
    {F : Type} [Frame F]
    (frame : F)
    (out : List UInt8) :
    Exec BuildResult :=
  if hSize : out.length < dataFrameMaxSize then
    pure
      (.error "Output buffer too small for data frame", out)
  else do
    let front : FixedArray UInt8 dataFrameMaxSize :=
      ⟨out.take dataFrameMaxSize, by
        simp
        omega⟩
    let data ← Frame.data frame
    let (result, front) ←
      buildDataFrameInto (Frame.id frame) data front
    pure (result,
      front.toList ++ out.drop dataFrameMaxSize)

instance : Protocol WaveshareUsbCanA where
  Config := Config
  settingsFrameMaxSize := cmdFrameSize
  dataFrameMaxSize := dataFrameMaxSize
  buildSettingsFrame _ := buildSettingsFrameInto
  buildDataFrame _ := buildDataFrame
  parseNextFrame _ := parseNextFrame

end WaveshareUsbCanA

end UsbCan
