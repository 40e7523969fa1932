import UsbCan.Protocol.Basic
import UsbCan.Library.Drain

/-
  What the transport can rely on in a protocol.

  `EncodingProtocol` says which bytes a frame is built as,
  whatever type the frame has.  `ScanningProtocol` ties a
  protocol's parser to a grammar: on every buffer the parser
  returns what the scan of the grammar finds, and it writes
  to the caller's data buffer exactly the payload of the
  frame it returns.

  Key definitions include:
    * `UsbCan.EncodingProtocol`
    * `UsbCan.ParsedFrame`
    * `UsbCan.parseOutcome`
    * `UsbCan.ScanningProtocol`
-/

open Checked

------------------------------------------------------------
-- Encoding Protocols
------------------------------------------------------------

namespace UsbCan

variable [EmbeddedCan]

/-
  A protocol that encodes every frame of at most eight data
  bytes, in any buffer of at least its maximum size.
-/
class EncodingProtocol (P : Type) [Protocol P] where
  encoding : P → DataFrame → List UInt8
  encoding_ne_nil :
    ∀ protocol frame, encoding protocol frame ≠ []
  dataFrameMaxSize_le :
    Protocol.dataFrameMaxSize P ≤ 64
  build_eq :
    ∀ (protocol : P) {F : Type} [Frame F] {source : F}
      {frame : DataFrame} {out : List UInt8},
      Frame.id source = frame.id →
        Frame.data source = .ok frame.data →
          Protocol.dataFrameMaxSize P ≤ out.length →
            Protocol.buildDataFrame protocol source out =
              .ok (.ok (encoding protocol frame).length,
                encoding protocol frame ++
                  out.drop
                    (encoding protocol frame).length)

end UsbCan

------------------------------------------------------------
-- Parsed Frames
------------------------------------------------------------

namespace UsbCan

/- A parsed frame: its identifier, width and payload. -/
@[ext] structure ParsedFrame where
  id : UInt32
  isExtended : Bool
  payload : List UInt8
  payload_le : payload.length ≤ 8

namespace ParsedFrame

/- The metadata the parser returns for a frame. -/
def frameMeta (frame : ParsedFrame) : ParsedFrameMeta where
  id := frame.id
  dlc := UInt8.ofNat frame.payload.length
  isExtended := frame.isExtended

/- The data buffer after the parser has written to it. -/
def writtenTo
    (frame : ParsedFrame)
    (dataOut : FixedArray UInt8 8) :
    FixedArray UInt8 8 where
  toList :=
    frame.payload ++
      dataOut.toList.drop frame.payload.length
  length_toList := by
    have hLe := frame.payload_le
    simp
    omega

@[simp] theorem toNat_dlc (frame : ParsedFrame) :
    frame.frameMeta.dlc.toNat = frame.payload.length := by
  have hLe := frame.payload_le
  simp only [frameMeta, UInt8.toNat_ofNat']
  omega

/- The written buffer starts with the payload. -/
theorem take_writtenTo
    (frame : ParsedFrame)
    (dataOut : FixedArray UInt8 8) :
    (frame.writtenTo dataOut).toList.take
        frame.frameMeta.dlc.toNat =
      frame.payload := by
  rw [toNat_dlc, writtenTo, List.take_left]

end ParsedFrame

/- What a parser returns for the result of a scan. -/
def parseOutcome
    (dataOut : FixedArray UInt8 8) :
    Nat × Option ParsedFrame → ParseResult
| (consumed, none) => ((consumed, none), dataOut)
| (consumed, some frame) =>
    ((consumed, some frame.frameMeta),
      frame.writtenTo dataOut)

/- A parser result with a frame comes from a scanned frame. -/
theorem parseOutcome_eq_some
    {dataOut dataOut' : FixedArray UInt8 8}
    {scanned : Nat × Option ParsedFrame}
    {consumed : Nat}
    {frameMeta : ParsedFrameMeta}
    (hOutcome :
      parseOutcome dataOut scanned =
        ((consumed, some frameMeta), dataOut')) :
    ∃ frame : ParsedFrame,
      scanned = (consumed, some frame) ∧
        frameMeta = frame.frameMeta ∧
        dataOut' = frame.writtenTo dataOut := by
  rcases scanned with ⟨c, _ | frame⟩
  · simp [parseOutcome] at hOutcome
  · simp only [parseOutcome, Prod.mk.injEq,
      Option.some.injEq] at hOutcome
    rcases hOutcome with ⟨⟨rfl, rfl⟩, rfl⟩
    exact ⟨frame, rfl, rfl, rfl⟩

/- A parser result without a frame comes from such a scan. -/
theorem parseOutcome_eq_none
    {dataOut dataOut' : FixedArray UInt8 8}
    {scanned : Nat × Option ParsedFrame}
    {consumed : Nat}
    (hOutcome :
      parseOutcome dataOut scanned =
        ((consumed, none), dataOut')) :
    scanned = (consumed, none) ∧ dataOut' = dataOut := by
  rcases scanned with ⟨c, _ | frame⟩
  · simp only [parseOutcome, Prod.mk.injEq,
      and_true] at hOutcome
    exact ⟨by rw [hOutcome.1], hOutcome.2.symm⟩
  · simp [parseOutcome] at hOutcome

------------------------------------------------------------
-- Scanning Protocols
------------------------------------------------------------

variable [EmbeddedCan]

/-
  A protocol whose parser scans with a grammar of frames of
  at most 64 bytes.
-/
class ScanningProtocol (P : Type) [Protocol P] where
  grammar : P → Framing.Grammar UInt8 ParsedFrame
  reach_le : ∀ protocol, (grammar protocol).reach ≤ 64
  parse_eq :
    ∀ (protocol : P) (buffer : List UInt8)
      (dataOut : FixedArray UInt8 8),
      Protocol.parseNextFrame protocol buffer dataOut =
        .ok (parseOutcome dataOut
          ((grammar protocol).scan buffer))

end UsbCan
