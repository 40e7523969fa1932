import UsbCan.Adapters.Sender
import UsbCan.Adapters.TransportContract
import UsbCan.Interfaces.ZencanTokioSerial
import UsbCan.Protocol.Parser

/-
  The representation of messages is canonical.

  Equality of messages compares all eight stored bytes, but
  a reader sees only those within the length.  All ways to
  make a message leave the hidden bytes zero, also the one
  that reads a scratch buffer the parser has only partly
  overwritten, so messages that look alike are equal.

  Main declarations:
    * `CanMessage.Reachable`
    * `CanMessage.Canonical`
    * `Transport.tryReadFrameWith`
    * `reachable_canonical`
-/

open Checked

------------------------------------------------------------
-- Canonical Messages
------------------------------------------------------------

namespace UsbCan

variable [EmbeddedCan]

namespace CanMessage

/- A message from any of the five ways to make one. -/
inductive Reachable [ZencanCommon] : CanMessage → Prop
| new
    {id : Id} {data : List UInt8} {message : CanMessage} :
    CanMessage.new id data = .ok (some message) →
      Reachable message
| newRemote
    {id : Id} {dlc : Nat} {message : CanMessage} :
    CanMessage.newRemote id dlc = some message →
      Reachable message
| toMessage
    {F : Type} [Frame F] {frame : F}
    {message : CanMessage} :
    CanUsbSender.toMessage frame = .ok (some message) →
      Reachable message
| fromZencan
    {msg : ZenCanMessage} {message : CanMessage} :
    ZenCanSender.fromZencan msg = .ok (some message) →
      Reachable message
| parsedToMessage
    {frameMeta : ParsedFrameMeta}
    {data : FixedArray UInt8 8} {message : CanMessage} :
    Transport.parsedToMessage frameMeta data =
        .ok (some message) →
      Reachable message

/-
  The length is legal, the stored bytes behind it are zero,
  for a remote frame all of them, and the bytes that are
  shown are in bounds.
-/
structure Canonical (message : CanMessage) : Prop where
  dlc_le : message.dlc.toNat ≤ 8
  padding :
    ∀ i, i < 8 →
      message.rtr = true ∨ message.dlc.toNat ≤ i →
        message.data.toList[i]? = some 0
  shown :
    ∃ bytes,
      message.shownData = .ok bytes ∧
        bytes.length =
          if message.rtr then 0 else message.dlc.toNat

/- The message of a data frame is padded with zeros. -/
theorem canonical_message (frame : DataFrame) :
    frame.message.Canonical := by
  have hLe := frame.data_le
  have hDlc := frame.message_dlc
  refine ⟨by omega, ?_, frame.data,
    frame.message_shownData, hDlc.symm⟩
  rintro i hi (hRemote | hBehind)
  · cases hRemote
  · change
      (frame.data ++
          List.replicate (8 - frame.data.length) 0)[i]? =
        some 0
    rw [List.getElem?_append_right (by omega),
      List.getElem?_replicate, if_pos (by omega)]

/- Both constructors make canonical messages. -/
theorem Built.canonical
    {message : CanMessage}
    (hBuilt : message.Built) :
    message.Canonical := by
  cases hBuilt with
  | new hNew =>
      rcases new_eq_some hNew with ⟨frame, _, _, rfl⟩
      exact canonical_message frame
  | newRemote hNew =>
      rcases newRemote_eq_some hNew with
        ⟨hLe, _, hDlc, hRemote, hData⟩
      refine ⟨by omega, ?_, [],
        message.shownData_of_rtr hRemote, ?_⟩
      · intro i hi _
        rw [hData, FixedArray.toList_replicate,
          List.getElem?_replicate, if_pos hi]
      · rw [if_pos hRemote]
        rfl

end CanMessage

/- A parsed frame becomes a message by the constructor. -/
theorem Transport.parsedToMessage_built
    {frameMeta : ParsedFrameMeta}
    {data : FixedArray UInt8 8}
    {message : CanMessage}
    (hMessage :
      Transport.parsedToMessage frameMeta data =
        .ok (some message)) :
    message.Built := by
  simp only [Transport.parsedToMessage] at hMessage
  generalize
    (if frameMeta.isExtended then
        (ExtendedId.new frameMeta.id).map Id.extended
      else
        (StandardId.new frameMeta.id.toUInt16).map
          Id.standard) =
      canId at hMessage
  cases canId with
  | none => cases hMessage
  | some id =>
      rcases bind_eq_ok_iff.mp hMessage with
        ⟨payload, _, hNew⟩
      exact .new hNew

/- All ways to make a message use the two constructors. -/
theorem CanMessage.Reachable.built
    [ZencanCommon]
    {message : CanMessage}
    (hReachable : message.Reachable) :
    message.Built := by
  cases hReachable with
  | new hNew => exact .new hNew
  | newRemote hNew => exact .newRemote hNew
  | toMessage hCopied =>
      exact CanUsbSender.toMessage_built hCopied
  | fromZencan hConverted =>
      exact ZenCanSender.fromZencan_built hConverted
  | parsedToMessage hParsed =>
      exact Transport.parsedToMessage_built hParsed

end UsbCan

------------------------------------------------------------
-- Messages That Look Alike
------------------------------------------------------------

namespace UsbCan

variable [EmbeddedCan]

/- A copy depends only on what a frame shows. -/
theorem CanUsbSender.toMessage_congr
    {F G : Type} [Frame F] [Frame G]
    {frame : F} {other : G}
    (hId : Frame.id frame = Frame.id other)
    (hKind :
      Frame.isRemoteFrame frame = Frame.isRemoteFrame other)
    (hDlc : Frame.dlc frame = Frame.dlc other)
    (hData : Frame.data frame = Frame.data other) :
    toMessage frame = toMessage other := by
  unfold toMessage
  rw [hId, hKind, hDlc, hData]

/- Constructed messages that look alike are equal. -/
theorem CanMessage.Built.eq_iff
    {message₁ message₂ : CanMessage}
    (hBuilt₁ : message₁.Built)
    (hBuilt₂ : message₂.Built) :
    message₁ = message₂ ↔
      Frame.id message₁ = Frame.id message₂ ∧
        Frame.isRemoteFrame message₁ =
          Frame.isRemoteFrame message₂ ∧
        Frame.dlc message₁ = Frame.dlc message₂ ∧
        Frame.data message₁ = Frame.data message₂ := by
  constructor
  · rintro rfl
    exact ⟨rfl, rfl, rfl, rfl⟩
  · rintro ⟨hId, hKind, hDlc, hData⟩
    -- Each message is the copy of itself.
    have hCopy :=
      CanUsbSender.toMessage_congr hId hKind hDlc hData
    rw [CanUsbSender.toMessage_self hBuilt₁,
      CanUsbSender.toMessage_self hBuilt₂] at hCopy
    exact Option.some.inj (Except.ok.inj hCopy)

------------------------------------------------------------
-- The Scratch Buffer
------------------------------------------------------------

namespace Transport

/- Conversion reads only the bytes within the length. -/
theorem parsedToMessage_congr
    {frameMeta : ParsedFrameMeta}
    {data₁ data₂ : FixedArray UInt8 8}
    (hFront :
      data₁.toList.take frameMeta.dlc.toNat =
        data₂.toList.take frameMeta.dlc.toNat) :
    parsedToMessage frameMeta data₁ =
      parsedToMessage frameMeta data₂ := by
  have hSlice :
      slice data₁.toList 0 frameMeta.dlc.toNat =
        slice data₂.toList 0 frameMeta.dlc.toNat := by
    simp only [slice, FixedArray.length_toList,
      List.drop_zero, Nat.sub_zero, hFront]
  simp only [parsedToMessage, hSlice]

variable {P : Type} [Protocol P]

/-
  One iteration of `try_read_frame` whose `data_out` holds
  arbitrary bytes instead of zeros before the parser runs.
-/
def tryReadIterationWith
    (scratch : Transport P → FixedArray UInt8 8)
    (transport : Transport P) :
    Exec (Control (Transport P)
      (Option CanMessage × Transport P)) := do
  let dataOut := scratch transport
  let front ←
    slice transport.rxBuffer.toList 0 transport.rxLength
  let ((consumed, frameMeta), dataOut) ←
    Protocol.parseNextFrame transport.protocol front dataOut
  let transport ← transport.dropConsumed consumed
  match frameMeta with
  | none => pure (.done (none, transport))
  | some frameMeta => do
      let message ← parsedToMessage frameMeta dataOut
      match message with
      | some message =>
          pure (.done (some message, transport))
      | none => pure (.next transport)

/- `try_read_frame` with such a `data_out`. -/
def tryReadFrameWith
    (scratch : Transport P → FixedArray UInt8 8)
    (transport : Transport P) :
    Exec (Option CanMessage × Transport P) :=
  loop (tryReadIterationWith scratch)
    (transport.rxLength + 1) transport

/- No iteration lets a byte of the scratch buffer through. -/
theorem tryReadIterationWith_eq
    [ScanningProtocol P]
    (scratch : Transport P → FixedArray UInt8 8) :
    tryReadIterationWith scratch =
      (tryReadIteration : Transport P → _) := by
  funext transport
  have hParse :
      ∀ front dataOut,
        Protocol.parseNextFrame transport.protocol front
            dataOut =
          .ok (parseOutcome dataOut
            (transport.rxGrammar.scan front)) :=
    ScanningProtocol.parse_eq transport.protocol
  unfold tryReadIterationWith tryReadIteration
  cases slice transport.rxBuffer.toList 0
      transport.rxLength with
  | error fault => rfl
  | ok front =>
      simp only [ok_bind, hParse]
      rcases transport.rxGrammar.scan front with
        ⟨consumed, _ | frame⟩
      · rfl
      · cases hDeliver : deliver frame with
        | none =>
            simp only [parseOutcome, parsedToMessage_deliver,
              hDeliver, ok_bind]
        | some message =>
            simp only [parseOutcome, parsedToMessage_deliver,
              hDeliver, ok_bind]

theorem tryReadFrameWith_eq
    [ScanningProtocol P]
    (scratch : Transport P → FixedArray UInt8 8)
    (transport : Transport P) :
    transport.tryReadFrameWith scratch =
      transport.tryReadFrame := by
  rw [tryReadFrameWith, tryReadIterationWith_eq]
  rfl

end Transport

end UsbCan

------------------------------------------------------------
-- Reachable Messages
------------------------------------------------------------

namespace UsbCan

namespace CanMessage

variable [EmbeddedCan] [ZencanCommon]

/-
  Reachable messages are canonical, so they are equal when
  they look alike, and copying one changes nothing.  What
  the scratch buffer of a parse holds beyond the length of
  the parsed frame does not matter.
-/
theorem reachable_canonical
    (message₁ message₂ : CanMessage)
    (hReachable₁ : message₁.Reachable)
    (hReachable₂ : message₂.Reachable)
    (transport : Transport WaveshareUsbCanA)
    (scratch :
      Transport WaveshareUsbCanA → FixedArray UInt8 8) :
    message₁.Canonical ∧
      (message₁ = message₂ ↔
        Frame.id message₁ = Frame.id message₂ ∧
          Frame.isRemoteFrame message₁ =
            Frame.isRemoteFrame message₂ ∧
          Frame.dlc message₁ = Frame.dlc message₂ ∧
          Frame.data message₁ = Frame.data message₂) ∧
      CanUsbSender.toMessage message₁ =
        .ok (some message₁) ∧
      (∀ frameMeta (data₁ data₂ : FixedArray UInt8 8),
        data₁.toList.take frameMeta.dlc.toNat =
            data₂.toList.take frameMeta.dlc.toNat →
          Transport.parsedToMessage frameMeta data₁ =
            Transport.parsedToMessage frameMeta data₂) ∧
      transport.tryReadFrameWith scratch =
        transport.tryReadFrame :=
  ⟨hReachable₁.built.canonical,
    hReachable₁.built.eq_iff hReachable₂.built,
    CanUsbSender.toMessage_self hReachable₁.built,
    fun _ _ _ => Transport.parsedToMessage_congr,
    transport.tryReadFrameWith_eq scratch⟩

end CanMessage

end UsbCan

namespace UsbCan

namespace CanMessage

/- A converted message and one parsed over stale bytes. -/
theorem reachable_canonical_on_example :
    letI := rangedIds
    letI := zenRecords
    ∃ converted parsed : CanMessage,
      ZenCanSender.fromZencan
          (⟨.std 0x123, 1, false,
            ⟨[0x11, 1, 2, 3, 4, 5, 6, 7], rfl⟩⟩ :
              ZenRecord) =
        .ok (some converted) ∧
      Transport.parsedToMessage ⟨0x123, 1, false⟩
          ⟨[0x11, 7, 6, 5, 4, 3, 2, 1], rfl⟩ =
        .ok (some parsed) ∧
      converted.Canonical ∧ converted = parsed := by
  let _ : EmbeddedCan := rangedIds
  let _ : ZencanCommon := zenRecords
  let message : CanMessage :=
    ⟨.standard ⟨0x123, by decide⟩,
      ⟨[0x11, 0, 0, 0, 0, 0, 0, 0], rfl⟩, 1, false⟩
  let record : ZenRecord :=
    ⟨.std 0x123, 1, false,
      ⟨[0x11, 1, 2, 3, 4, 5, 6, 7], rfl⟩⟩
  let transport : Transport WaveshareUsbCanA :=
    ⟨.protocol, FixedArray.replicate rxSize 0, 0,
      FixedArray.replicate tempSize 0⟩
  have hConverted :
      ZenCanSender.fromZencan record = .ok (some message) :=
    rfl
  have hParsed :
      Transport.parsedToMessage ⟨0x123, 1, false⟩
          ⟨[0x11, 7, 6, 5, 4, 3, 2, 1], rfl⟩ =
        .ok (some message) :=
    rfl
  rcases reachable_canonical message message
      (.fromZencan hConverted) (.parsedToMessage hParsed)
      transport (fun _ => FixedArray.replicate 8 1) with
    ⟨hCanonical, hEqual, _⟩
  exact
    ⟨message, message, hConverted, hParsed, hCanonical,
      hEqual.mpr ⟨rfl, rfl, rfl, rfl⟩⟩

end CanMessage

end UsbCan
