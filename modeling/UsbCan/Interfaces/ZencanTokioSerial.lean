import UsbCan.Message

/-
  Conversion between the crate's messages and those of the
  `zencan_common` crate.

  `zencan_common` is not part of the repository.
  `ZencanCommon` is what the code relies on: the fields of
  its message type, what its two constructors set them to,
  and which bytes a message shows.

  Key definitions include:
    * `UsbCan.ZencanCommon`
    * `UsbCan.ZenCanSender.fromZencan`
    * `UsbCan.ZenCanReceiver.toZencan`

  Key theorems include:
    * `UsbCan.ZenCanReceiver.returns_iff`
    * `UsbCan.ZenCanSender.preserves_iff`
    * `UsbCan.ZenCanSender.zencan_inverse_iff`
-/

open Checked

------------------------------------------------------------
-- The Other Message Type
------------------------------------------------------------

namespace UsbCan

/- An identifier of either kind, as a raw number. -/
inductive CanId where
| std (raw : UInt16)
| extended (raw : UInt32)
deriving DecidableEq, Repr

/- The raw number fits the kind: 11 or 29 bits. -/
def CanId.Fits : CanId → Prop
| .std raw => raw ≤ 0x7FF
| .extended raw => raw ≤ 0x1FFFFFFF

instance : DecidablePred CanId.Fits
| .std raw => inferInstanceAs (Decidable (raw ≤ 0x7FF))
| .extended raw =>
    inferInstanceAs (Decidable (raw ≤ 0x1FFFFFFF))

/-
  The message type of `zencan_common`.  `new` panics when
  there are more than eight bytes; `data` can panic when the
  length field is out of range.
-/
class ZencanCommon where
  Message : Type
  id : Message → CanId
  dlc : Message → UInt8
  rtr : Message → Bool
  stored : Message → FixedArray UInt8 8
  data : Message → Exec (List UInt8)
  new : CanId → List UInt8 → Exec Message
  newRtr : CanId → Message
  data_of_data :
    ∀ {message}, rtr message = false →
      data message =
        slice (stored message).toList 0
          (dlc message).toNat
  data_of_empty :
    ∀ {message}, dlc message = 0 → data message = .ok []
  new_ok :
    ∀ canId (bytes : List UInt8), bytes.length ≤ 8 →
      ∃ message,
        new canId bytes = .ok message ∧
          id message = canId ∧
          (dlc message).toNat = bytes.length ∧
          rtr message = false ∧
          (stored message).toList.take bytes.length = bytes
  newRtr_id : ∀ canId, id (newRtr canId) = canId
  newRtr_dlc : ∀ canId, dlc (newRtr canId) = 0
  newRtr_rtr : ∀ canId, rtr (newRtr canId) = true

abbrev ZenCanMessage [ZencanCommon] : Type :=
  ZencanCommon.Message

/- A new message shows the bytes it was made from. -/
theorem ZencanCommon.new_data
    [ZencanCommon]
    (canId : CanId)
    {bytes : List UInt8}
    (hLe : bytes.length ≤ 8) :
    ∃ message : ZenCanMessage,
      ZencanCommon.new canId bytes = .ok message ∧
        ZencanCommon.id message = canId ∧
        (ZencanCommon.dlc message).toNat = bytes.length ∧
        ZencanCommon.rtr message = false ∧
        ZencanCommon.data message = .ok bytes := by
  rcases ZencanCommon.new_ok canId bytes hLe with
    ⟨message, hNew, hId, hDlc, hKind, hStored⟩
  refine ⟨message, hNew, hId, hDlc, hKind, ?_⟩
  rw [ZencanCommon.data_of_data hKind, hDlc,
    slice_zero (by
      rw [FixedArray.length_toList]
      exact hLe), hStored]

/- A message as a record of its fields. -/
structure ZenRecord where
  id : CanId
  dlc : UInt8
  rtr : Bool
  stored : FixedArray UInt8 8
deriving DecidableEq

namespace ZenRecord

/- The first bytes, as many as the length says. -/
def data (message : ZenRecord) : Exec (List UInt8) :=
  slice message.stored.toList 0 message.dlc.toNat

def new
    (canId : CanId)
    (bytes : List UInt8) :
    Exec ZenRecord := do
  let stored ←
    (FixedArray.replicate 8 0).copyFromSlice 0 bytes.length
      bytes
  pure ⟨canId, UInt8.ofNat bytes.length, false, stored⟩

def newRtr (canId : CanId) : ZenRecord :=
  ⟨canId, 0, true, FixedArray.replicate 8 0⟩

theorem data_of_empty
    {message : ZenRecord}
    (hDlc : message.dlc = 0) :
    message.data = .ok [] := by
  simp [data, hDlc, slice]

theorem new_ok
    (canId : CanId)
    (bytes : List UInt8)
    (hLe : bytes.length ≤ 8) :
    ∃ message,
      new canId bytes = .ok message ∧
        message.id = canId ∧
        message.dlc.toNat = bytes.length ∧
        message.rtr = false ∧
        message.stored.toList.take bytes.length =
          bytes := by
  rcases
    (FixedArray.replicate 8 (0 : UInt8)).copyFromSlice_ok 0
      bytes.length bytes hLe (by omega) with
    ⟨stored, hStored, hList⟩
  refine
    ⟨⟨canId, UInt8.ofNat bytes.length, false, stored⟩,
      ?_, rfl, ?_, rfl, ?_⟩
  · rw [new, hStored]
    rfl
  · simp only [UInt8.toNat_ofNat']
    omega
  · rw [hList, List.take_zero, List.nil_append,
      List.take_left]

end ZenRecord

/- The message type of `zencan_common` as records. -/
@[reducible] def zenRecords : ZencanCommon where
  Message := ZenRecord
  id := ZenRecord.id
  dlc := ZenRecord.dlc
  rtr := ZenRecord.rtr
  stored := ZenRecord.stored
  data := ZenRecord.data
  new := ZenRecord.new
  newRtr := ZenRecord.newRtr
  data_of_data _ := rfl
  data_of_empty := ZenRecord.data_of_empty
  new_ok := ZenRecord.new_ok
  newRtr_id _ := rfl
  newRtr_dlc _ := rfl
  newRtr_rtr _ := rfl

end UsbCan

------------------------------------------------------------
-- Conversions
------------------------------------------------------------

namespace UsbCan

variable [EmbeddedCan] [ZencanCommon]

/- The identifier of a raw number that fits its kind. -/
def CanId.toId : CanId → Option Id
| .std raw => (StandardId.new raw).map Id.standard
| .extended raw => (ExtendedId.new raw).map Id.extended

/- The raw number of an identifier, with its kind. -/
def CanId.ofId : Id → CanId
| .standard id => .std (StandardId.asRaw id)
| .extended id => .extended (ExtendedId.asRaw id)

namespace ZenCanSender

/-
  Convert a zencan message; nothing if the identifier or the
  length is out of range.
-/
def fromZencan
    (msg : ZenCanMessage) :
    Exec (Option CanMessage) :=
  match (ZencanCommon.id msg).toId with
  | none => pure none
  | some id =>
      if ZencanCommon.rtr msg then
        pure (CanMessage.newRemote id
          (ZencanCommon.dlc msg).toNat)
      else do
        let data ← ZencanCommon.data msg
        CanMessage.new id data

end ZenCanSender

namespace ZenCanReceiver

/- Convert any frame into a zencan message. -/
def toZencan
    {F : Type} [Frame F]
    (msg : F) :
    Exec ZenCanMessage :=
  let id := CanId.ofId (Frame.id msg)
  if Frame.isRemoteFrame msg then
    pure (ZencanCommon.newRtr id)
  else do
    let data ← Frame.data msg
    ZencanCommon.new id data

end ZenCanReceiver

end UsbCan

------------------------------------------------------------
-- Identifiers
------------------------------------------------------------

namespace UsbCan

namespace CanId

variable [EmbeddedCan]

/- A raw number has an identifier when it fits its kind. -/
theorem toId_isSome_iff (canId : CanId) :
    canId.toId.isSome = true ↔ canId.Fits := by
  cases canId with
  | std raw =>
      rw [toId, Option.isSome_map]
      exact EmbeddedCan.standard.new_isSome raw
  | extended raw =>
      rw [toId, Option.isSome_map]
      exact EmbeddedCan.extended.new_isSome raw

theorem toId_eq_none_iff {canId : CanId} :
    canId.toId = none ↔ ¬ canId.Fits := by
  rw [← toId_isSome_iff, Option.not_isSome_iff_eq_none]

/- Every identifier comes back from its raw number. -/
theorem toId_ofId (id : Id) :
    (ofId id).toId = some id := by
  cases id with
  | standard id =>
      have hNew :
          StandardId.new (StandardId.asRaw id) = some id :=
        EmbeddedCan.standard.new_asRaw id
      rw [ofId, toId, hNew]
      rfl
  | extended id =>
      have hNew :
          ExtendedId.new (ExtendedId.asRaw id) = some id :=
        EmbeddedCan.extended.new_asRaw id
      rw [ofId, toId, hNew]
      rfl

/- A raw number comes back from its identifier. -/
theorem ofId_of_toId
    {canId : CanId}
    {id : Id}
    (hId : canId.toId = some id) :
    ofId id = canId := by
  cases canId with
  | std raw =>
      rcases Option.map_eq_some_iff.mp hId with
        ⟨standard, hNew, rfl⟩
      have hRaw : StandardId.asRaw standard = raw :=
        EmbeddedCan.standard.asRaw_of_new hNew
      rw [ofId, hRaw]
  | extended raw =>
      rcases Option.map_eq_some_iff.mp hId with
        ⟨extended, hNew, rfl⟩
      have hRaw : ExtendedId.asRaw extended = raw :=
        EmbeddedCan.extended.asRaw_of_new hNew
      rw [ofId, hRaw]

end CanId

end UsbCan

------------------------------------------------------------
-- One Conversion at a Time
------------------------------------------------------------

namespace UsbCan

variable [EmbeddedCan] [ZencanCommon]

namespace ZenCanReceiver

/- A remote frame becomes a remote message of length zero. -/
theorem toZencan_remote
    {message : CanMessage}
    (hRemote : message.rtr = true) :
    toZencan message =
      .ok (ZencanCommon.newRtr (CanId.ofId message.id)) := by
  unfold toZencan
  exact if_pos hRemote

/- A data frame becomes a message with its bytes. -/
theorem toZencan_data (frame : DataFrame) :
    ∃ converted : ZenCanMessage,
      toZencan frame.message = .ok converted ∧
        ZencanCommon.id converted = CanId.ofId frame.id ∧
        (ZencanCommon.dlc converted).toNat =
          frame.data.length ∧
        ZencanCommon.rtr converted = false ∧
        ZencanCommon.data converted = .ok frame.data := by
  rcases ZencanCommon.new_data (CanId.ofId frame.id)
      frame.data_le with
    ⟨converted, hNew, hFields⟩
  have hShown :
      Frame.data frame.message = .ok frame.data :=
    frame.message_shownData
  have hKind :
      ¬ Frame.isRemoteFrame frame.message = true := by
    rw [Bool.not_eq_true]
    exact frame.message_rtr
  refine ⟨converted, ?_, hFields⟩
  unfold toZencan
  simp only [if_neg hKind, hShown, ok_bind]
  exact hNew

end ZenCanReceiver

namespace ZenCanSender

variable {msg : ZenCanMessage}

theorem fromZencan_of_none
    (hId : (ZencanCommon.id msg).toId = none) :
    fromZencan msg = .ok none := by
  rw [fromZencan, hId]
  rfl

/- A remote message keeps its identifier and length. -/
theorem fromZencan_remote
    {id : Id}
    (hId : (ZencanCommon.id msg).toId = some id)
    (hRemote : ZencanCommon.rtr msg = true) :
    fromZencan msg =
      .ok (CanMessage.newRemote id
        (ZencanCommon.dlc msg).toNat) := by
  rw [fromZencan, hId]
  exact if_pos hRemote

/- A data message keeps its identifier and bytes. -/
theorem fromZencan_data
    (frame : DataFrame)
    (hId : (ZencanCommon.id msg).toId = some frame.id)
    (hKind : ZencanCommon.rtr msg = false)
    (hData : ZencanCommon.data msg = .ok frame.data) :
    fromZencan msg = .ok (some frame.message) := by
  have hNotRemote : ¬ ZencanCommon.rtr msg = true := by
    rw [Bool.not_eq_true]
    exact hKind
  rw [fromZencan, hId]
  simp only [if_neg hNotRemote, hData, ok_bind]
  exact CanMessage.new_eq_message frame

/- Every converted message is made by a constructor. -/
theorem fromZencan_built
    {message : CanMessage}
    (hMessage : fromZencan msg = .ok (some message)) :
    message.Built := by
  cases hId : (ZencanCommon.id msg).toId with
  | none =>
      rw [fromZencan_of_none hId] at hMessage
      cases hMessage
  | some id =>
      cases hRemote : ZencanCommon.rtr msg with
      | true =>
          rw [fromZencan_remote hId hRemote] at hMessage
          exact .newRemote (Except.ok.inj hMessage)
      | false =>
          rw [fromZencan, hId] at hMessage
          simp only [hRemote] at hMessage
          rcases bind_eq_ok_iff.mp hMessage with
            ⟨data, _, hNew⟩
          exact .new hNew

end ZenCanSender

end UsbCan

------------------------------------------------------------
-- There and Back
------------------------------------------------------------

namespace UsbCan

variable [EmbeddedCan] [ZencanCommon]

namespace ZenCanReceiver

/- A message that comes back from its zencan form. -/
def Returns (message : CanMessage) : Prop :=
  (toZencan message >>= ZenCanSender.fromZencan) =
    .ok (some message)

/-
  Exactly the data messages and the remote messages of
  length zero come back: `to_zencan` drops the length of a
  remote frame, which `from_zencan` would keep.
-/
theorem returns_iff
    {message : CanMessage}
    (hBuilt : message.Built) :
    Returns message ↔
      message.rtr = false ∨ message.dlc = 0 := by
  unfold Returns
  cases hRemote : message.rtr with
  | false =>
      refine iff_of_true ?_ (Or.inl rfl)
      rcases hBuilt.exists_frame hRemote with ⟨frame, rfl⟩
      rcases toZencan_data frame with
        ⟨converted, hConverted, hId, _, hKind, hData⟩
      have hBack :
          (ZencanCommon.id converted).toId =
            some frame.id := by
        rw [hId, CanId.toId_ofId]
      rw [hConverted, ok_bind,
        ZenCanSender.fromZencan_data frame hBack hKind hData]
  | true =>
      have hBack :
          (ZencanCommon.id (ZencanCommon.newRtr
              (CanId.ofId message.id))).toId =
            some message.id := by
        rw [ZencanCommon.newRtr_id, CanId.toId_ofId]
      have hOwn := hBuilt.newRemote_eq hRemote
      rw [toZencan_remote hRemote, ok_bind,
        ZenCanSender.fromZencan_remote hBack
          (ZencanCommon.newRtr_rtr _),
        ZencanCommon.newRtr_dlc]
      constructor
      · intro hSame
        have hDlc :=
          (CanMessage.newRemote_eq_some
            (Except.ok.inj hSame)).2.2.1
        exact Or.inr (UInt8.toNat_inj.mp hDlc)
      · rintro (hKind | hDlc)
        · cases hKind
        · rw [hDlc] at hOwn
          rw [hOwn]

end ZenCanReceiver

namespace ZenCanSender

/- Two zencan messages with the same content. -/
structure Agrees (left right : ZenCanMessage) : Prop where
  id_eq : ZencanCommon.id left = ZencanCommon.id right
  rtr_eq : ZencanCommon.rtr left = ZencanCommon.rtr right
  dlc_eq : ZencanCommon.dlc left = ZencanCommon.dlc right
  data_eq : ZencanCommon.data left = ZencanCommon.data right

/-
  A zencan message is refused exactly when its identifier
  does not fit; otherwise its content comes back.
-/
def Preserves (msg : ZenCanMessage) : Prop :=
  ∃ converted,
    fromZencan msg = .ok converted ∧
      (converted = none ↔ ¬ (ZencanCommon.id msg).Fits) ∧
      ∀ message, converted = some message →
        ∃ back,
          ZenCanReceiver.toZencan message = .ok back ∧
            Agrees back msg

/- A message whose identifier does not fit is refused. -/
theorem preserves_of_not_fits
    {msg : ZenCanMessage}
    (hFits : ¬ (ZencanCommon.id msg).Fits) :
    Preserves msg := by
  have hNone :=
    fromZencan_of_none (CanId.toId_eq_none_iff.mpr hFits)
  refine ⟨none, hNone, iff_of_true rfl hFits, ?_⟩
  intro message hMessage
  cases hMessage

/- The bytes of a data message come back. -/
theorem preserves_of_data
    {msg : ZenCanMessage}
    {id : Id}
    (hDlc : (ZencanCommon.dlc msg).toNat ≤ 8)
    (hId : (ZencanCommon.id msg).toId = some id)
    (hKind : ZencanCommon.rtr msg = false) :
    Preserves msg := by
  have hFits : (ZencanCommon.id msg).Fits := by
    rw [← CanId.toId_isSome_iff, hId]
    rfl
  have hLength :
      ((ZencanCommon.stored msg).toList.take
          (ZencanCommon.dlc msg).toNat).length =
        (ZencanCommon.dlc msg).toNat := by
    rw [List.length_take, FixedArray.length_toList]
    omega
  let frame : DataFrame :=
    ⟨id,
      (ZencanCommon.stored msg).toList.take
        (ZencanCommon.dlc msg).toNat,
      by omega⟩
  have hData :
      ZencanCommon.data msg = .ok frame.data := by
    rw [ZencanCommon.data_of_data hKind]
    exact slice_zero (by
      rw [FixedArray.length_toList]
      exact hDlc)
  have hConverted := fromZencan_data frame hId hKind hData
  rcases ZenCanReceiver.toZencan_data frame with
    ⟨back, hBack, hBackId, hBackDlc, hBackKind, hBackData⟩
  refine
    ⟨some frame.message, hConverted,
      iff_of_false (Option.some_ne_none _)
        (not_not.mpr hFits), ?_⟩
  intro message hMessage
  cases hMessage
  refine ⟨back, hBack, ?_, ?_, ?_, ?_⟩
  · rw [hBackId]
    exact CanId.ofId_of_toId hId
  · rw [hBackKind, hKind]
  · apply UInt8.toNat_inj.mp
    rw [hBackDlc]
    exact hLength
  · rw [hBackData, hData]

/- A remote message comes back exactly with length zero. -/
theorem preserves_remote_iff
    {msg : ZenCanMessage}
    {id : Id}
    (hDlc : (ZencanCommon.dlc msg).toNat ≤ 8)
    (hId : (ZencanCommon.id msg).toId = some id)
    (hRemote : ZencanCommon.rtr msg = true) :
    Preserves msg ↔ ZencanCommon.dlc msg = 0 := by
  have hFits : (ZencanCommon.id msg).Fits := by
    rw [← CanId.toId_isSome_iff, hId]
    rfl
  have hConverted := fromZencan_remote hId hRemote
  cases hMessage :
      CanMessage.newRemote id
        (ZencanCommon.dlc msg).toNat with
  | none =>
      unfold CanMessage.newRemote at hMessage
      rw [if_neg (by omega)] at hMessage
      cases hMessage
  | some message =>
      rcases CanMessage.newRemote_eq_some hMessage with
        ⟨_, hOwnId, _, hOwnKind, _⟩
      have hBack := ZenCanReceiver.toZencan_remote hOwnKind
      rw [hMessage] at hConverted
      constructor
      · rintro ⟨converted, hSame, _, hReturn⟩
        rw [hConverted] at hSame
        rcases hReturn message (Except.ok.inj hSame).symm with
          ⟨back, hBack', hAgrees⟩
        rw [hBack] at hBack'
        cases hBack'
        have hZero := hAgrees.dlc_eq
        rw [ZencanCommon.newRtr_dlc] at hZero
        exact hZero.symm
      · intro hZero
        refine
          ⟨some message, hConverted,
            iff_of_false (Option.some_ne_none _)
              (not_not.mpr hFits), ?_⟩
        intro other hOther
        cases hOther
        refine ⟨_, hBack, ?_, ?_, ?_, ?_⟩
        · rw [ZencanCommon.newRtr_id, hOwnId]
          exact CanId.ofId_of_toId hId
        · rw [ZencanCommon.newRtr_rtr, hRemote]
        · rw [ZencanCommon.newRtr_dlc, hZero]
        · rw [ZencanCommon.data_of_empty
              (ZencanCommon.newRtr_dlc _),
            ZencanCommon.data_of_empty hZero]

/- Which zencan messages the conversions preserve. -/
theorem preserves_iff
    {msg : ZenCanMessage}
    (hDlc : (ZencanCommon.dlc msg).toNat ≤ 8) :
    Preserves msg ↔
      ((ZencanCommon.id msg).Fits →
        ZencanCommon.rtr msg = false ∨
          ZencanCommon.dlc msg = 0) := by
  cases hId : (ZencanCommon.id msg).toId with
  | none =>
      have hFits := CanId.toId_eq_none_iff.mp hId
      exact iff_of_true (preserves_of_not_fits hFits)
        (fun h => absurd h hFits)
  | some id =>
      have hFits : (ZencanCommon.id msg).Fits := by
        rw [← CanId.toId_isSome_iff, hId]
        rfl
      rw [forall_prop_of_true hFits]
      cases hKind : ZencanCommon.rtr msg with
      | false =>
          exact iff_of_true
            (preserves_of_data hDlc hId hKind) (Or.inl rfl)
      | true =>
          rw [preserves_remote_iff hDlc hId hKind]
          exact (or_iff_right (Bool.noConfusion ·)).symm

/-
  Exactly when the two conversions are inverse: for a
  message of the crate, and for a zencan message.
-/
theorem zencan_inverse_iff
    (message : CanMessage)
    (hBuilt : message.Built)
    (msg : ZenCanMessage)
    (hDlc : (ZencanCommon.dlc msg).toNat ≤ 8) :
    (ZenCanReceiver.Returns message ↔
        message.rtr = false ∨ message.dlc = 0) ∧
      (Preserves msg ↔
        ((ZencanCommon.id msg).Fits →
          ZencanCommon.rtr msg = false ∨
            ZencanCommon.dlc msg = 0)) :=
  ⟨ZenCanReceiver.returns_iff hBuilt, preserves_iff hDlc⟩

end ZenCanSender

end UsbCan

namespace UsbCan

namespace ZenCanSender

/- A remote message of length zero and a data message. -/
theorem zencan_inverse_iff_on_example :
    letI := rangedIds
    letI := zenRecords
    ∃ (message : CanMessage) (msg : ZenCanMessage),
      CanMessage.newRemote (.standard ⟨0x123, by decide⟩) 0 =
          some message ∧
        ZencanCommon.new (.extended 0x7FF) [0x11] =
          .ok msg ∧
        ZenCanReceiver.Returns message ∧
        Preserves msg := by
  let _ : EmbeddedCan := rangedIds
  let _ : ZencanCommon := zenRecords
  let id : Id := .standard ⟨0x123, by decide⟩
  let message : CanMessage :=
    ⟨id, FixedArray.replicate 8 0, 0, true⟩
  let msg : ZenRecord :=
    ⟨.extended 0x7FF, 1, false,
      ⟨[0x11, 0, 0, 0, 0, 0, 0, 0], rfl⟩⟩
  have hMessage : CanMessage.newRemote id 0 = some message :=
    rfl
  rcases zencan_inverse_iff message (.newRemote hMessage)
      msg (by decide) with
    ⟨hReturns, hPreserves⟩
  exact
    ⟨message, msg, hMessage, rfl,
      hReturns.mpr (Or.inr rfl),
      hPreserves.mpr (fun _ => Or.inl rfl)⟩

/- The length of a remote frame is lost on the way. -/
theorem remote_length_lost :
    letI := rangedIds
    letI := zenRecords
    ∃ (message back : CanMessage) (msg : ZenCanMessage),
      CanMessage.newRemote (.standard ⟨0x123, by decide⟩) 4 =
          some message ∧
        (ZenCanReceiver.toZencan message >>= fromZencan) =
          .ok (some back) ∧
        back.dlc = 0 ∧ back ≠ message ∧
        ¬ ZenCanReceiver.Returns message ∧
        ZencanCommon.dlc msg = 4 ∧
        fromZencan msg = .ok (some message) ∧
        ¬ Preserves msg := by
  let _ : EmbeddedCan := rangedIds
  let _ : ZencanCommon := zenRecords
  let id : Id := .standard ⟨0x123, by decide⟩
  let message : CanMessage :=
    ⟨id, FixedArray.replicate 8 0, 4, true⟩
  let back : CanMessage :=
    ⟨id, FixedArray.replicate 8 0, 0, true⟩
  let msg : ZenRecord :=
    ⟨.std 0x123, 4, true, FixedArray.replicate 8 0⟩
  have hMessage : CanMessage.newRemote id 4 = some message :=
    rfl
  have hBack :
      (ZenCanReceiver.toZencan message >>= fromZencan) =
        .ok (some back) :=
    rfl
  have hOther : back ≠ message := by decide
  have hLost : ¬ ZenCanReceiver.Returns message := by
    intro hReturns
    rw [ZenCanReceiver.Returns, hBack] at hReturns
    exact hOther (Option.some.inj (Except.ok.inj hReturns))
  have hMsg : ¬ Preserves msg := by
    rw [preserves_iff (by decide)]
    intro hWhen
    exact absurd (hWhen (by decide)) (by decide)
  exact
    ⟨message, back, msg, hMessage, hBack, rfl, hOther, hLost,
      rfl, rfl, hMsg⟩

end ZenCanSender

end UsbCan
