import UsbCan.Library.Checked
import Mathlib.Data.UInt

/-
  CAN frames and the crate's owned message type.

  The identifier types come from the `embedded_can` crate,
  which is not part of the repository.  `EmbeddedCan` is
  what the code relies on: each identifier type holds the
  raw numbers up to a maximum, and its constructor refuses
  all others.

  Key definitions include:
    * `UsbCan.EmbeddedCan`
    * `UsbCan.Frame`
    * `UsbCan.CanMessage`
    * `UsbCan.DataFrame`

  Key theorems include:
    * `UsbCan.CanMessage.new_eq_message`
    * `UsbCan.DataFrame.message_injective`
    * `UsbCan.CanMessage.idFromRaw_rawId`
-/

open Checked

------------------------------------------------------------
-- Identifier Types
------------------------------------------------------------

namespace UsbCan

/-
  An identifier type over raw numbers.  Its values are the
  raw numbers up to `max`; the constructor returns nothing
  for a larger number.
-/
structure IdType
    (Raw : Type) [LE Raw]
    (max : Raw) where
  Carrier : Type
  decidableEq : DecidableEq Carrier
  new : Raw → Option Carrier
  asRaw : Carrier → Raw
  new_isSome :
    ∀ raw, (new raw).isSome = true ↔ raw ≤ max
  asRaw_of_new :
    ∀ {raw id}, new raw = some id → asRaw id = raw
  new_asRaw :
    ∀ id, new (asRaw id) = some id

namespace IdType

variable {Raw : Type} [LE Raw]

/- The raw numbers up to `max` themselves. -/
def upTo
    [DecidableEq Raw] [DecidableLE Raw]
    (max : Raw) :
    IdType Raw max where
  Carrier := {raw : Raw // raw ≤ max}
  decidableEq := inferInstance
  new raw :=
    if hLe : raw ≤ max then some ⟨raw, hLe⟩ else none
  asRaw := Subtype.val
  new_isSome raw := by
    by_cases hLe : raw ≤ max <;> simp [hLe]
  asRaw_of_new {raw id} hNew := by
    by_cases hLe : raw ≤ max
    · simp only [hLe, dif_pos, Option.some.injEq] at hNew
      simp [← hNew]
    · simp [hLe] at hNew
  new_asRaw id := by
    simp [id.property]

end IdType

/- The identifier types of `embedded_can`. -/
class EmbeddedCan where
  standard : IdType UInt16 0x7FF
  extended : IdType UInt32 0x1FFFFFFF

/- Both identifier types as ranges of raw numbers. -/
@[reducible] def rangedIds : EmbeddedCan where
  standard := IdType.upTo 0x7FF
  extended := IdType.upTo 0x1FFFFFFF

variable [EmbeddedCan]

abbrev StandardId : Type :=
  EmbeddedCan.standard.Carrier

abbrev ExtendedId : Type :=
  EmbeddedCan.extended.Carrier

instance : DecidableEq StandardId :=
  EmbeddedCan.standard.decidableEq

instance : DecidableEq ExtendedId :=
  EmbeddedCan.extended.decidableEq

namespace StandardId

def new (raw : UInt16) : Option StandardId :=
  EmbeddedCan.standard.new raw

def asRaw (id : StandardId) : UInt16 :=
  EmbeddedCan.standard.asRaw id

end StandardId

namespace ExtendedId

def new (raw : UInt32) : Option ExtendedId :=
  EmbeddedCan.extended.new raw

def asRaw (id : ExtendedId) : UInt32 :=
  EmbeddedCan.extended.asRaw id

end ExtendedId

/- A CAN identifier of either width. -/
inductive Id where
| standard (id : StandardId)
| extended (id : ExtendedId)
deriving DecidableEq

end UsbCan

------------------------------------------------------------
-- Frames and Messages
------------------------------------------------------------

namespace UsbCan

variable [EmbeddedCan]

/-
  The `Frame` trait of `embedded_can`.  Methods that copy or
  slice bytes can fault.
-/
class Frame (F : Type) where
  new : Id → List UInt8 → Exec (Option F)
  newRemote : Id → Nat → Option F
  isExtended : F → Bool
  isRemoteFrame : F → Bool
  id : F → Id
  dlc : F → Nat
  data : F → Exec (List UInt8)

/- A CAN 2.0 message of at most eight data bytes. -/
structure CanMessage where
  id : Id
  data : FixedArray UInt8 8
  dlc : UInt8
  rtr : Bool
deriving DecidableEq

namespace CanMessage

/- A data frame; nothing for more than eight bytes. -/
def new
    (id : Id)
    (data : List UInt8) :
    Exec (Option CanMessage) :=
  if data.length > 8 then
    pure none
  else do
    let buf := FixedArray.replicate 8 0
    let buf ← buf.copyFromSlice 0 data.length data
    pure (some
      { id := id
        data := buf
        dlc := UInt8.ofNat data.length
        rtr := false })

/- A remote frame; nothing for a length above eight. -/
def newRemote
    (id : Id)
    (dlc : Nat) :
    Option CanMessage :=
  if dlc > 8 then
    none
  else
    some
      { id := id
        data := FixedArray.replicate 8 0
        dlc := UInt8.ofNat dlc
        rtr := true }

def isExtended (message : CanMessage) : Bool :=
  match message.id with
  | .extended _ => true
  | .standard _ => false

/- The bytes a message shows; a remote frame shows none. -/
def shownData
    (message : CanMessage) :
    Exec (List UInt8) :=
  if message.rtr then
    pure []
  else
    slice message.data.toList 0 message.dlc.toNat

instance : Frame CanMessage where
  new := CanMessage.new
  newRemote := CanMessage.newRemote
  isExtended := CanMessage.isExtended
  isRemoteFrame := CanMessage.rtr
  id := CanMessage.id
  dlc message := message.dlc.toNat
  data := CanMessage.shownData

/- A message made by one of the two frame constructors. -/
inductive Built : CanMessage → Prop
| new
    {id : Id} {data : List UInt8} {message : CanMessage} :
    CanMessage.new id data = .ok (some message) →
      Built message
| newRemote
    {id : Id} {dlc : Nat} {message : CanMessage} :
    CanMessage.newRemote id dlc = some message →
      Built message

end CanMessage

end UsbCan

------------------------------------------------------------
-- Data Frames
------------------------------------------------------------

namespace UsbCan

variable [EmbeddedCan]

/- An identifier with at most eight data bytes. -/
@[ext] structure DataFrame where
  id : Id
  data : List UInt8
  data_le : data.length ≤ 8

namespace DataFrame

/- The message that carries a data frame. -/
def message (frame : DataFrame) : CanMessage where
  id := frame.id
  data :=
    ⟨frame.data ++
        List.replicate (8 - frame.data.length) 0, by
      have hLe := frame.data_le
      simp
      omega⟩
  dlc := UInt8.ofNat frame.data.length
  rtr := false

@[simp] theorem message_id (frame : DataFrame) :
    frame.message.id = frame.id := rfl

@[simp] theorem message_rtr (frame : DataFrame) :
    frame.message.rtr = false := rfl

@[simp] theorem message_dlc (frame : DataFrame) :
    frame.message.dlc.toNat = frame.data.length := by
  have hLe := frame.data_le
  simp only [message, UInt8.toNat_ofNat']
  omega

@[simp] theorem message_shownData (frame : DataFrame) :
    frame.message.shownData = .ok frame.data := by
  have hDlc := frame.message_dlc
  have hLe := frame.data_le
  unfold CanMessage.shownData
  rw [if_neg (by simp), hDlc, slice_zero (by simpa using hLe)]
  simp [message]

/- Different data frames are different messages. -/
theorem message_injective :
    Function.Injective (message : DataFrame → CanMessage) := by
  intro left right hEq
  have hId : left.id = right.id := by
    simpa using congrArg CanMessage.id hEq
  have hData : left.data = right.data := by
    have hShown := congrArg CanMessage.shownData hEq
    simpa using hShown
  exact DataFrame.ext hId hData

end DataFrame

namespace CanMessage

/- Construction succeeds exactly up to eight bytes. -/
theorem new_eq_message
    (frame : DataFrame) :
    CanMessage.new frame.id frame.data =
      .ok (some frame.message) := by
  have hLe := frame.data_le
  rcases (FixedArray.replicate 8 (0 : UInt8)).copyFromSlice_ok
      0 frame.data.length frame.data hLe (by omega) with
    ⟨written, hWritten, hList⟩
  have hData : written = frame.message.data := by
    ext1
    rw [hList, List.take_zero, List.nil_append,
      FixedArray.toList_replicate, List.drop_replicate]
    rfl
  unfold CanMessage.new
  rw [if_neg (by omega)]
  simp only [hWritten, ok_bind, pure_eq_ok, hData]
  rfl

theorem new_of_long
    (id : Id)
    {data : List UInt8}
    (hLong : 8 < data.length) :
    CanMessage.new id data = .ok none := by
  unfold CanMessage.new
  rw [if_pos hLong]
  rfl

/- Every constructed data message carries a data frame. -/
theorem new_eq_some
    {id : Id}
    {data : List UInt8}
    {message : CanMessage}
    (hNew : CanMessage.new id data = .ok (some message)) :
    ∃ frame : DataFrame,
      frame.id = id ∧ frame.data = data ∧
        message = frame.message := by
  by_cases hLe : data.length ≤ 8
  · let frame : DataFrame := ⟨id, data, hLe⟩
    have hFrame :
        CanMessage.new id data =
          .ok (some frame.message) :=
      CanMessage.new_eq_message frame
    rw [hFrame] at hNew
    cases hNew
    exact ⟨frame, rfl, rfl, rfl⟩
  · rw [CanMessage.new_of_long id (by omega)] at hNew
    cases hNew

/- Every constructed remote message has its length and no data. -/
theorem newRemote_eq_some
    {id : Id}
    {dlc : Nat}
    {message : CanMessage}
    (hNew : CanMessage.newRemote id dlc = some message) :
    dlc ≤ 8 ∧ message.id = id ∧
      message.dlc.toNat = dlc ∧ message.rtr = true ∧
      message.data = FixedArray.replicate 8 0 := by
  unfold CanMessage.newRemote at hNew
  by_cases hLong : dlc > 8
  · simp [hLong] at hNew
  · rw [if_neg hLong] at hNew
    cases hNew
    refine ⟨by omega, rfl, ?_, rfl, rfl⟩
    simp only [UInt8.toNat_ofNat']
    omega

/- A constructed remote message is made from its own fields. -/
theorem Built.newRemote_eq
    {message : CanMessage}
    (hBuilt : message.Built)
    (hRemote : message.rtr = true) :
    CanMessage.newRemote message.id message.dlc.toNat =
      some message := by
  cases hBuilt with
  | new hNew =>
      rcases CanMessage.new_eq_some hNew with
        ⟨frame, _, _, rfl⟩
      cases hRemote
  | newRemote hNew =>
      rcases CanMessage.newRemote_eq_some hNew with
        ⟨_, hId, hDlc, _, _⟩
      rw [hId, hDlc, hNew]

/- A remote message shows no data. -/
theorem shownData_of_rtr
    {message : CanMessage}
    (hRemote : message.rtr = true) :
    message.shownData = .ok [] := by
  simp [CanMessage.shownData, hRemote]

/- A constructed message that is not remote is a data frame. -/
theorem Built.exists_frame
    {message : CanMessage}
    (hBuilt : message.Built)
    (hData : message.rtr = false) :
    ∃ frame : DataFrame, message = frame.message := by
  cases hBuilt with
  | new hNew =>
      rcases CanMessage.new_eq_some hNew with
        ⟨frame, _, _, hMessage⟩
      exact ⟨frame, hMessage⟩
  | newRemote hNew =>
      have hRemote :=
        (CanMessage.newRemote_eq_some hNew).2.2.2.1
      rw [hData] at hRemote
      cases hRemote

/- A constructed message shows at most eight bytes. -/
theorem Built.exists_shownData
    {message : CanMessage}
    (hBuilt : message.Built) :
    ∃ data, message.shownData = .ok data ∧
      data.length ≤ 8 := by
  cases hRemote : message.rtr with
  | true =>
      exact ⟨[], message.shownData_of_rtr hRemote, by simp⟩
  | false =>
      rcases hBuilt.exists_frame hRemote with
        ⟨frame, hMessage⟩
      exact ⟨frame.data,
        by rw [hMessage, frame.message_shownData],
        frame.data_le⟩

end CanMessage

end UsbCan

------------------------------------------------------------
-- Raw Identifiers
------------------------------------------------------------

namespace UsbCan

variable [EmbeddedCan]

namespace CanMessage

/- The number of an identifier of either width. -/
def rawId : Id → UInt32
| .standard id => id.asRaw.toUInt32
| .extended id => id.asRaw

/- The identifier of a number, standard if it is in range. -/
def idFromRaw (raw : UInt32) : Option Id :=
  if raw ≤ 0x7FF then
    (StandardId.new raw.toUInt16).map .standard
  else
    (ExtendedId.new raw).map .extended

variable {raw : UInt32} {id : Id}

/- The range check makes the cast to 16 bits lossless. -/
omit [EmbeddedCan] in
theorem toUInt32_toUInt16
    (hLe : raw ≤ 0x7FF) :
    raw.toUInt16.toUInt32 = raw := by
  have hNat : raw.toNat ≤ 0x7FF :=
    UInt32.le_iff_toNat_le.mp hLe
  apply UInt32.toNat_inj.mp
  simp only [UInt16.toNat_toUInt32, UInt32.toNat_toUInt16]
  omega

omit [EmbeddedCan] in
theorem toUInt16_le
    (hLe : raw ≤ 0x7FF) :
    raw.toUInt16 ≤ 0x7FF := by
  have hNat := UInt32.le_iff_toNat_le.mp hLe
  rw [UInt16.le_iff_toNat_le, UInt32.toNat_toUInt16]
  exact (Nat.mod_le _ _).trans hNat

/- An identifier made from a number has this number. -/
theorem rawId_of_idFromRaw
    (hNew : idFromRaw raw = some id) :
    rawId id = raw := by
  unfold idFromRaw at hNew
  split at hNew
  next hLe =>
    rcases Option.map_eq_some_iff.mp hNew with
      ⟨standard, hStandard, rfl⟩
    have hRaw : standard.asRaw = raw.toUInt16 :=
      EmbeddedCan.standard.asRaw_of_new hStandard
    simp only [rawId, hRaw, toUInt32_toUInt16 hLe]
  next =>
    rcases Option.map_eq_some_iff.mp hNew with
      ⟨extended, hExtended, rfl⟩
    exact EmbeddedCan.extended.asRaw_of_new hExtended

/- The numbers of 29 bits are those of identifiers. -/
theorem idFromRaw_isSome :
    (idFromRaw raw).isSome = true ↔ raw ≤ 0x1FFFFFFF := by
  unfold idFromRaw
  split
  next hLe =>
    rw [Option.isSome_map]
    have hSmall : raw ≤ 0x1FFFFFFF :=
      UInt32.le_trans hLe (by decide)
    exact iff_of_true
      ((EmbeddedCan.standard.new_isSome _).mpr
        (toUInt16_le hLe)) hSmall
  next =>
    rw [Option.isSome_map]
    exact EmbeddedCan.extended.new_isSome raw

/-
  The number alone does not tell the width: an extended
  identifier that fits 11 bits comes back as a standard one.
-/
theorem idFromRaw_rawId :
    idFromRaw (rawId id) = some id ↔
      ∀ extended : ExtendedId,
        id = .extended extended → 0x7FF < extended.asRaw := by
  cases id with
  | standard standard =>
      have hLe : standard.asRaw ≤ 0x7FF :=
        (EmbeddedCan.standard.new_isSome _).mp (by
          unfold StandardId.asRaw
          rw [EmbeddedCan.standard.new_asRaw]
          rfl)
      have hRaw : standard.asRaw.toUInt32 ≤ 0x7FF := by
        have hNat := UInt16.le_iff_toNat_le.mp hLe
        rwa [UInt32.le_iff_toNat_le, UInt16.toNat_toUInt32]
      refine iff_of_true ?_ (by simp)
      unfold rawId idFromRaw
      rw [if_pos hRaw]
      simp [StandardId.new, StandardId.asRaw,
        EmbeddedCan.standard.new_asRaw]
  | extended extended =>
      simp only [Id.extended.injEq, forall_eq']
      unfold rawId idFromRaw
      by_cases hLe : extended.asRaw ≤ 0x7FF
      · rw [if_pos hLe]
        refine iff_of_false ?_ (UInt32.not_lt.mpr hLe)
        simp
      · rw [if_neg hLe]
        refine iff_of_true ?_ (UInt32.not_le.mp hLe)
        simp [ExtendedId.new, ExtendedId.asRaw,
          EmbeddedCan.extended.new_asRaw]

end CanMessage

end UsbCan
