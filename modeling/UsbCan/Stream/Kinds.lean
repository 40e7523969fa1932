import UsbCan.Stream.RoundTrip
import UsbCan.Adapters.Sender

/-
  Frame kinds on the wire.

  The encoder reads the identifier and the shown data of a
  frame, and nothing else.  Data frames are recovered from
  their encoding; a remote frame is encoded as the empty
  data frame with its identifier.

  Key definitions include:
    * `UsbCan.WaveshareUsbCanA.Recovers`
    * `UsbCan.WaveshareUsbCanA.Faithful`
    * `UsbCan.WaveshareUsbCanA.Confused`

  Main declarations:
    * `faithful_iff`
-/

open Checked

------------------------------------------------------------
-- Faithful Encodings
------------------------------------------------------------

namespace UsbCan

namespace WaveshareUsbCanA

variable [EmbeddedCan]

/- Parsing and converting the bytes gives the message. -/
def Recovers
    (bytes : List UInt8)
    (message : CanMessage) :
    Prop :=
  ∃ consumed frameMeta dataOut,
    parseNextFrame bytes (FixedArray.replicate 8 0) =
        .ok ((consumed, some frameMeta), dataOut) ∧
      Transport.parsedToMessage frameMeta dataOut =
        .ok (some message)

/-
  Writing a message: it is refused and no byte is written,
  or the written bytes give the original back.
-/
def WrittenFaithfully
    (transport : Transport WaveshareUsbCanA)
    (written original : CanMessage) :
    Prop :=
  (∃ error,
      transport.writeFrame written .complete =
        .ok (.error error, [])) ∨
    ∃ bytes,
      transport.writeFrame written .complete =
          .ok (.ok (), bytes) ∧
        Recovers bytes original

/-
  The exclusive client writes the message itself; a sender
  refuses it or queues a copy for the write task.
-/
def Faithful
    (transport : Transport WaveshareUsbCanA)
    (message : CanMessage) :
    Prop :=
  WrittenFaithfully transport message message ∧
    (CanUsbSender.toMessage message = .ok none ∨
      ∃ queued,
        CanUsbSender.toMessage message =
            .ok (some queued) ∧
          WrittenFaithfully transport queued message)

/- Both messages are encoded, as the same bytes. -/
def SameBytes (message₁ message₂ : CanMessage) : Prop :=
  ∃ bytes,
    Encodes protocol message₁ bytes ∧
      Encodes protocol message₂ bytes

/- Same identifier, kind, length and data. -/
def SameContent (message₁ message₂ : CanMessage) : Prop :=
  message₁.id = message₂.id ∧
    message₁.rtr = message₂.rtr ∧
    message₁.dlc = message₂.dlc ∧
    message₁.shownData = message₂.shownData

/- A remote frame or an empty data frame. -/
def ShowsNothing (message : CanMessage) : Prop :=
  message.rtr = true ∨ message.dlc = 0

/-
  Two messages with one identifier and no data to show that
  differ in kind or length.
-/
def Confused (message₁ message₂ : CanMessage) : Prop :=
  message₁.id = message₂.id ∧
    ShowsNothing message₁ ∧ ShowsNothing message₂ ∧
    (message₁.rtr ≠ message₂.rtr ∨
      message₁.dlc ≠ message₂.dlc)

------------------------------------------------------------
-- What Is Encoded
------------------------------------------------------------

/- Only the message of a wire form is recovered from it. -/
theorem recovers_wire_iff
    {frame : DataFrame}
    {message : CanMessage} :
    Recovers (wire frame) message ↔
      message = frame.message := by
  have hBounds := wire_length_le frame
  have hScan :
      dataFrames.scan (wire frame) =
        ((wire frame).length, some (parsed frame)) := by
    have hJudge := judge_wire frame []
    rw [List.append_nil] at hJudge
    exact dataFrames.scan_of_accept hBounds.1 hJudge
  have hParse :
      parseNextFrame (wire frame)
          (FixedArray.replicate 8 0) =
        .ok (((wire frame).length,
            some (parsed frame).frameMeta),
          (parsed frame).writtenTo
            (FixedArray.replicate 8 0)) := by
    rw [parseNextFrame_scan, hScan]
    rfl
  have hMessage :
      Transport.parsedToMessage (parsed frame).frameMeta
          ((parsed frame).writtenTo
            (FixedArray.replicate 8 0)) =
        .ok (some frame.message) := by
    rw [parsedToMessage_deliver, deliver_parsed]
  constructor
  · rintro ⟨consumed, frameMeta, dataOut, hFound, hGiven⟩
    rw [hParse] at hFound
    cases hFound
    rw [hMessage] at hGiven
    cases hGiven
    rfl
  · rintro rfl
    exact ⟨_, _, _, hParse, hMessage⟩

/- Different data frames have different wire forms. -/
theorem wire_injective :
    Function.Injective (wire : DataFrame → List UInt8) := by
  intro frame₁ frame₂ hWire
  have hRecovers :
      Recovers (wire frame₂) frame₁.message := by
    rw [← hWire]
    exact recovers_wire_iff.mpr rfl
  exact DataFrame.message_injective
    (recovers_wire_iff.mp hRecovers)

/- The data frame that a message is encoded as. -/
theorem encodes_built
    {message : CanMessage}
    (hBuilt : message.Built) :
    ∃ frame : DataFrame,
      frame.id = message.id ∧
        message.shownData = .ok frame.data ∧
        (∀ bytes, Encodes protocol message bytes ↔
          bytes = wire frame) ∧
        ∀ transport : Transport WaveshareUsbCanA,
          transport.writeFrame message .complete =
            .ok (.ok (), wire frame) := by
  rcases hBuilt.exists_shownData with
    ⟨data, hShown, hLe⟩
  let frame : DataFrame := ⟨message.id, data, hLe⟩
  have hBuild :
      Protocol.buildDataFrame protocol message
          (List.replicate 64 0) =
        .ok (.ok (wire frame).length,
          wire frame ++
            (List.replicate 64 0).drop
              (wire frame).length) :=
    buildDataFrame_wire frame rfl hShown (by decide)
  refine ⟨frame, rfl, hShown, ?_, ?_⟩
  · intro bytes
    constructor
    · rintro ⟨n, out, hOut, rfl⟩
      rw [hBuild] at hOut
      cases hOut
      exact List.take_left
    · rintro rfl
      exact ⟨_, _, hBuild, List.take_left⟩
  · intro transport
    have hBytes :
        transport.frameBytes message =
          .ok (.ok (wire frame)) :=
      transport.frameBytes_encoding rfl hShown
    unfold Transport.writeFrame
    rw [hBytes]
    rfl

/- A message is faithful exactly when it is a data frame. -/
theorem faithful_iff_data
    (transport : Transport WaveshareUsbCanA)
    {message : CanMessage}
    (hBuilt : message.Built) :
    Faithful transport message ↔ message.rtr = false := by
  rcases encodes_built hBuilt with
    ⟨frame, hId, hShown, _, hWrite⟩
  have hSelf := CanUsbSender.toMessage_self hBuilt
  have hWritten :
      WrittenFaithfully transport message message ↔
        message = frame.message := by
    rw [← recovers_wire_iff]
    constructor
    · rintro (⟨error, hRefused⟩ | ⟨bytes, hSent, hBytes⟩)
      · rw [hWrite] at hRefused
        cases hRefused
      · rw [hWrite] at hSent
        cases hSent
        exact hBytes
    · intro hBytes
      exact Or.inr ⟨_, hWrite transport, hBytes⟩
  constructor
  · rintro ⟨hDirect, _⟩
    rw [hWritten.mp hDirect]
    exact frame.message_rtr
  · intro hData
    have hMessage : message = frame.message := by
      rcases hBuilt.exists_frame hData with
        ⟨source, rfl⟩
      rw [source.message_shownData] at hShown
      have hFrame : frame = source :=
        DataFrame.ext hId (Except.ok.inj hShown).symm
      rw [hFrame]
    have hDirect := hWritten.mpr hMessage
    exact ⟨hDirect, Or.inr ⟨message, hSelf, hDirect⟩⟩

/- A message that shows no data is remote or empty. -/
theorem showsNothing_iff
    {message : CanMessage}
    (hBuilt : message.Built) :
    ShowsNothing message ↔ message.shownData = .ok [] := by
  constructor
  · rintro (hRemote | hEmpty)
    · exact message.shownData_of_rtr hRemote
    · simp [CanMessage.shownData, hEmpty, slice]
  · intro hShown
    cases hRemote : message.rtr with
    | true => exact Or.inl hRemote
    | false =>
        rcases hBuilt.exists_frame hRemote with
          ⟨frame, rfl⟩
        rw [frame.message_shownData] at hShown
        have hLength :=
          congrArg List.length (Except.ok.inj hShown)
        refine Or.inr (UInt8.toNat_inj.mp ?_)
        rw [frame.message_dlc, hLength]
        rfl

/- Equal bytes are equal identifiers and equal shown data. -/
theorem sameBytes_iff
    {message₁ message₂ : CanMessage}
    (hBuilt₁ : message₁.Built)
    (hBuilt₂ : message₂.Built) :
    SameBytes message₁ message₂ ↔
      message₁.id = message₂.id ∧
        message₁.shownData = message₂.shownData := by
  rcases encodes_built hBuilt₁ with
    ⟨frame₁, hId₁, hShown₁, hEncodes₁, _⟩
  rcases encodes_built hBuilt₂ with
    ⟨frame₂, hId₂, hShown₂, hEncodes₂, _⟩
  constructor
  · rintro ⟨bytes, hBytes₁, hBytes₂⟩
    have hWire : wire frame₁ = wire frame₂ := by
      rw [← (hEncodes₁ bytes).mp hBytes₁,
        (hEncodes₂ bytes).mp hBytes₂]
    have hFrame := wire_injective hWire
    subst hFrame
    exact ⟨hId₁.symm.trans hId₂,
      hShown₁.trans hShown₂.symm⟩
  · rintro ⟨hId, hShown⟩
    rw [hShown₁, hShown₂] at hShown
    have hFrame : frame₁ = frame₂ :=
      DataFrame.ext
        (by rw [hId₁, hId₂, hId])
        (Except.ok.inj hShown)
    subst hFrame
    exact ⟨wire frame₁, (hEncodes₁ _).mpr rfl,
      (hEncodes₂ _).mpr rfl⟩

/- Messages that show the same data and are not alike. -/
theorem showsNothing_of_differ
    {message₁ message₂ : CanMessage}
    (hBuilt₁ : message₁.Built)
    (hBuilt₂ : message₂.Built)
    (hShown : message₁.shownData = message₂.shownData)
    (hDiffer :
      message₁.rtr ≠ message₂.rtr ∨
        message₁.dlc ≠ message₂.dlc) :
    ShowsNothing message₁ := by
  rw [showsNothing_iff hBuilt₁]
  cases hRemote₁ : message₁.rtr with
  | true => exact message₁.shownData_of_rtr hRemote₁
  | false =>
      cases hRemote₂ : message₂.rtr with
      | true =>
          rw [hShown]
          exact message₂.shownData_of_rtr hRemote₂
      | false =>
          rcases hBuilt₁.exists_frame hRemote₁ with
            ⟨frame₁, rfl⟩
          rcases hBuilt₂.exists_frame hRemote₂ with
            ⟨frame₂, rfl⟩
          rw [frame₁.message_shownData,
            frame₂.message_shownData] at hShown
          have hDlc :
              frame₁.message.dlc = frame₂.message.dlc := by
            apply UInt8.toNat_inj.mp
            rw [frame₁.message_dlc, frame₂.message_dlc,
              Except.ok.inj hShown]
          rcases hDiffer with hKind | hLength
          · exact absurd rfl hKind
          · exact absurd hDlc hLength

/-
  Exactly when the encoding is faithful: for one message,
  when it is a data frame; for two, unless they are
  confused.
-/
theorem faithful_iff
    (transport : Transport WaveshareUsbCanA)
    (message₁ message₂ : CanMessage)
    (hBuilt₁ : message₁.Built)
    (hBuilt₂ : message₂.Built) :
    (Faithful transport message₁ ↔
        message₁.rtr = false) ∧
      ((SameBytes message₁ message₂ →
          SameContent message₁ message₂) ↔
        ¬ Confused message₁ message₂) := by
  have hSame := sameBytes_iff hBuilt₁ hBuilt₂
  refine ⟨faithful_iff_data transport hBuilt₁, ?_, ?_⟩
  · rintro hFaithful
      ⟨hId, hNothing₁, hNothing₂, hDiffer⟩
    have hShown :
        message₁.shownData = message₂.shownData := by
      rw [(showsNothing_iff hBuilt₁).mp hNothing₁,
        (showsNothing_iff hBuilt₂).mp hNothing₂]
    rcases hFaithful (hSame.mpr ⟨hId, hShown⟩) with
      ⟨_, hKind, hLength, _⟩
    rcases hDiffer with hOther | hOther
    · exact hOther hKind
    · exact hOther hLength
  · intro hConfused hBytes
    rcases hSame.mp hBytes with ⟨hId, hShown⟩
    by_cases hDiffer :
        message₁.rtr ≠ message₂.rtr ∨
          message₁.dlc ≠ message₂.dlc
    · have hNothing₁ :=
        showsNothing_of_differ hBuilt₁ hBuilt₂ hShown
          hDiffer
      have hNothing₂ :=
        showsNothing_of_differ hBuilt₂ hBuilt₁ hShown.symm
          (hDiffer.imp Ne.symm Ne.symm)
      exact absurd ⟨hId, hNothing₁, hNothing₂, hDiffer⟩
        hConfused
    · rw [not_or, not_not, not_not] at hDiffer
      exact ⟨hId, hDiffer.1, hDiffer.2, hShown⟩

end WaveshareUsbCanA

end UsbCan

namespace UsbCan

namespace WaveshareUsbCanA

/- A data frame is faithful, a remote frame is not. -/
theorem faithful_iff_on_examples :
    letI := rangedIds
    ∃ (transport : Transport WaveshareUsbCanA)
      (remote data : CanMessage),
      CanMessage.newRemote (.standard ⟨0x123, by decide⟩) 4 =
          some remote ∧
        CanMessage.new (.standard ⟨0x123, by decide⟩)
            [0x11] =
          .ok (some data) ∧
        ¬ Faithful transport remote ∧
        Faithful transport data ∧
        (SameBytes remote data → SameContent remote data) := by
  let _ : EmbeddedCan := rangedIds
  let id : Id := .standard ⟨0x123, by decide⟩
  let transport : Transport WaveshareUsbCanA :=
    ⟨protocol, FixedArray.replicate rxSize 0, 0,
      FixedArray.replicate tempSize 0⟩
  let remote : CanMessage :=
    ⟨id, FixedArray.replicate 8 0, 4, true⟩
  let data : CanMessage :=
    ⟨id, ⟨[0x11, 0, 0, 0, 0, 0, 0, 0], rfl⟩, 1, false⟩
  have hRemote : CanMessage.newRemote id 4 = some remote :=
    rfl
  have hData : CanMessage.new id [0x11] = .ok (some data) :=
    rfl
  rcases faithful_iff transport remote data
      (.newRemote hRemote) (.new hData) with
    ⟨hRemoteIff, hPair⟩
  have hDataIff :=
    (faithful_iff transport data remote (.new hData)
      (.newRemote hRemote)).1
  refine
    ⟨transport, remote, data, hRemote, hData, ?_,
      hDataIff.mpr rfl, hPair.mpr ?_⟩
  · intro hFaithful
    cases hRemoteIff.mp hFaithful
  · rintro ⟨_, _, hNothing | hNothing, _⟩
    · cases hNothing
    · cases hNothing

/- A remote frame with the bytes of an empty data frame. -/
theorem remote_sent_as_data :
    letI := rangedIds
    ∃ remote data : CanMessage,
      CanMessage.newRemote (.standard ⟨0x123, by decide⟩) 4 =
          some remote ∧
        CanMessage.new (.standard ⟨0x123, by decide⟩) [] =
          .ok (some data) ∧
        Encodes protocol remote
          [0xAA, 0xC0, 0x23, 0x01, 0x55] ∧
        Encodes protocol data
          [0xAA, 0xC0, 0x23, 0x01, 0x55] ∧
        Recovers [0xAA, 0xC0, 0x23, 0x01, 0x55] data ∧
        remote.rtr ≠ data.rtr ∧ remote.dlc ≠ data.dlc ∧
        ¬ ∀ message₁ message₂ : CanMessage,
          message₁.Built → message₂.Built →
            SameBytes message₁ message₂ →
              SameContent message₁ message₂ := by
  let _ : EmbeddedCan := rangedIds
  let id : Id := .standard ⟨0x123, by decide⟩
  let remote : CanMessage :=
    ⟨id, FixedArray.replicate 8 0, 4, true⟩
  let data : CanMessage :=
    ⟨id, FixedArray.replicate 8 0, 0, false⟩
  have hRemote : CanMessage.newRemote id 4 = some remote :=
    rfl
  have hData : CanMessage.new id [] = .ok (some data) := rfl
  have hRemoteBytes :
      Encodes protocol remote
        [0xAA, 0xC0, 0x23, 0x01, 0x55] :=
    ⟨5,
      [0xAA, 0xC0, 0x23, 0x01, 0x55] ++
        List.replicate 59 0,
      by decide, by decide⟩
  have hDataBytes :
      Encodes protocol data
        [0xAA, 0xC0, 0x23, 0x01, 0x55] :=
    ⟨5,
      [0xAA, 0xC0, 0x23, 0x01, 0x55] ++
        List.replicate 59 0,
      by decide, by decide⟩
  have hRecovers :
      Recovers [0xAA, 0xC0, 0x23, 0x01, 0x55] data :=
    ⟨5, ⟨0x123, 0, false⟩, FixedArray.replicate 8 0,
      by decide, by decide⟩
  refine
    ⟨remote, data, hRemote, hData, hRemoteBytes, hDataBytes,
      hRecovers, by decide, by decide, ?_⟩
  intro hFaithful
  rcases hFaithful remote data (.newRemote hRemote)
      (.new hData) ⟨_, hRemoteBytes, hDataBytes⟩ with
    ⟨_, hKind, _⟩
  cases hKind

end WaveshareUsbCanA

end UsbCan
