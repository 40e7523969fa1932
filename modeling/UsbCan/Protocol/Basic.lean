import UsbCan.Message

/-
  The wire-protocol interface of a CAN adapter.

  Key definitions include:
    * `UsbCan.ParsedFrameMeta`
    * `UsbCan.Protocol`
-/

open Checked

------------------------------------------------------------
-- Wire Protocols
------------------------------------------------------------

namespace UsbCan

/- Metadata of one parsed frame; its data is kept apart. -/
structure ParsedFrameMeta where
  id : UInt32
  dlc : UInt8
  isExtended : Bool
deriving DecidableEq, Repr

/-
  A caller's output buffer after a build, with the number of
  bytes written or the reason the build was refused.
-/
abbrev BuildResult : Type :=
  Except String Nat × List UInt8

/-
  The consumed byte count, the metadata of the parsed frame
  if there is one, and the caller's data buffer.
-/
abbrev ParseResult : Type :=
  (Nat × Option ParsedFrameMeta) × FixedArray UInt8 8

variable [EmbeddedCan]

/- Wire protocol of a CAN adapter. -/
class Protocol (P : Type) where
  Config : Type
  settingsFrameMaxSize : Nat
  dataFrameMaxSize : Nat
  buildSettingsFrame :
    P → Config → List UInt8 → Exec BuildResult
  buildDataFrame {F : Type} [Frame F] :
    P → F → List UInt8 → Exec BuildResult
  parseNextFrame :
    P → List UInt8 → FixedArray UInt8 8 → Exec ParseResult

end UsbCan
