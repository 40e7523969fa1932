import UsbCan.Protocol.WaveshareUsbCanA
import UsbCan.Library.Checksum

/-
  What the settings frame says and how it is protected.

  `settingsFrame` lists the bytes of a settings frame; the
  builder writes exactly these bytes.  Every field of the
  configuration can be read off them, and the checksum at
  the end covers all of them but the two marker bytes.

  Key definitions include:
    * `UsbCan.WaveshareUsbCanA.settingsBody`
    * `UsbCan.WaveshareUsbCanA.settingsFrame`
    * `UsbCan.WaveshareUsbCanA.ChecksumHolds`

  Main declarations:
    * `buildSettingsFrameInto_eq`
    * `settingsBody_injective`
    * `settings_frame_protected`
-/

open Checked LittleEndian

------------------------------------------------------------
-- The Bytes of a Settings Frame
------------------------------------------------------------

namespace UsbCan

namespace WaveshareUsbCanA

/- The bytes between the markers and the checksum. -/
def settingsBody (config : Config) : List UInt8 :=
  [0x12, config.canSpeed.toU8,
      if config.extendedIds then 0x02 else 0x01] ++
    (toLeBytes config.filterId).toList ++
    (toLeBytes config.maskId).toList ++
    [config.canMode.toU8,
      if config.autoRetransmit then 0x00 else 0x01,
      0, 0, 0, 0]

/- The sum of the bytes from 2 to 18, modulo 256. -/
def settingsChecksum (config : Config) : UInt8 :=
  UInt8.ofNat
    (Checksum.total UInt8.toNat 256 (settingsBody config))

def settingsFrame (config : Config) : List UInt8 :=
  [frameStart, cmdFrameMarker] ++ settingsBody config ++
    [settingsChecksum config]

/- Byte 19 is the sum of the bytes from 2 to 18. -/
def ChecksumHolds (frame : List UInt8) : Prop :=
  Checksum.Holds UInt8.toNat 256 2 17 frame

@[simp] theorem settingsBody_length (config : Config) :
    (settingsBody config).length = 17 := rfl

@[simp] theorem settingsFrame_length (config : Config) :
    (settingsFrame config).length = cmdFrameSize := rfl

------------------------------------------------------------
-- Building the Frame
------------------------------------------------------------

/- Masking a word before it is cut to a byte does nothing. -/
theorem toUInt8_and_0xFF (word : UInt32) :
    (word &&& 0xFF).toUInt8 = word.toUInt8 := by
  apply UInt8.toNat_inj.mp
  have hMask : word.toNat &&& 255 = word.toNat % 256 :=
    Nat.and_two_pow_sub_one_eq_mod word.toNat 8
  rw [UInt32.toNat_toUInt8, UInt32.toNat_toUInt8,
    UInt32.toNat_and]
  change (word.toNat &&& 255) % 256 = word.toNat % 256
  rw [hMask, Nat.mod_mod]

/- The checksum of a window inside the data. -/
theorem generateChecksum_eq
    {data : List UInt8}
    {offset length : Nat}
    (hInside : offset + length ≤ data.length) :
    generateChecksum data offset length =
      .ok (UInt8.ofNat
        (Checksum.total UInt8.toNat 256
          ((data.drop offset).take length))) := by
  have hMask :
      ∀ sum : Nat, sum &&& 0xFF = sum % 256 :=
    fun sum => Nat.and_two_pow_sub_one_eq_mod sum 8
  unfold generateChecksum
  rw [slice_ok (Nat.le_add_right offset length) hInside,
    Nat.add_sub_cancel_left]
  simp only [ok_bind, pure_eq_ok, hMask, Checksum.total]

/- The builder makes the settings frame of a configuration. -/
theorem buildSettingsFrame_eq (config : Config) :
    ∃ frame,
      buildSettingsFrame config.canSpeed.toU8
          config.canMode.toU8 config.extendedIds
          config.filterId config.maskId
          config.autoRetransmit =
        .ok frame ∧
        frame.toList = settingsFrame config := by
  -- Byte 19 is still zero when the checksum is computed.
  have hChecksum :
      generateChecksum
          ([frameStart, cmdFrameMarker] ++
            settingsBody config ++ [0]) 2 17 =
        .ok (settingsChecksum config) :=
    generateChecksum_eq (by simp)
  simp only [settingsBody, toLeBytes, List.cons_append,
    List.nil_append] at hChecksum
  simp (disch := decide) only [buildSettingsFrame,
    FixedArray.set_eq_ok, FixedArray.toList_replicate,
    cmdFrameSize, List.replicate, List.set_cons_zero,
    List.set_cons_succ, ok_bind, toUInt8_and_0xFF,
    hChecksum]
  exact ⟨_, rfl, rfl⟩

/- A buffer of at least the frame's size gets the frame. -/
theorem buildSettingsFrameInto_eq
    (config : Config)
    {out : List UInt8}
    (hSize : cmdFrameSize ≤ out.length) :
    buildSettingsFrameInto config out =
      .ok (.ok cmdFrameSize,
        settingsFrame config ++ out.drop cmdFrameSize) := by
  rcases buildSettingsFrame_eq config with
    ⟨frame, hFrame, hList⟩
  unfold buildSettingsFrameInto
  rw [if_neg (by omega), hFrame]
  simp only [ok_bind, pure_eq_ok, hList]

------------------------------------------------------------
-- Reading the Configuration Back
------------------------------------------------------------

/- A bit rate is taken for the speed that has it. -/
theorem CanSpeed.tryFrom_eq_ok
    {value : UInt32}
    {speed : CanSpeed} :
    CanSpeed.tryFrom value = .ok speed ↔
      speed.asBps = value := by
  constructor
  · intro hSpeed
    unfold CanSpeed.tryFrom at hSpeed
    split at hSpeed <;> cases hSpeed <;> rfl
  · rintro rfl
    cases speed <;> rfl

/- Any other bit rate is refused, and the error names it. -/
theorem CanSpeed.tryFrom_eq_error
    {value : UInt32}
    {error : InvalidCanSpeed} :
    CanSpeed.tryFrom value = .error error ↔
      error.value = value ∧
        ∀ speed : CanSpeed, speed.asBps ≠ value := by
  simp only [ne_eq, ← CanSpeed.tryFrom_eq_ok]
  cases hTried : CanSpeed.tryFrom value with
  | ok speed =>
      refine iff_of_false (by simp) ?_
      rintro ⟨_, hNone⟩
      exact hNone speed rfl
  | error refused =>
      have hValue : refused.value = value := by
        unfold CanSpeed.tryFrom at hTried
        split at hTried <;> cases hTried
        rfl
      rcases refused with ⟨number⟩
      rcases error with ⟨other⟩
      cases hValue
      simp [eq_comm]

/- Different speeds have different wire values. -/
theorem CanSpeed.toU8_injective :
    Function.Injective CanSpeed.toU8 := by
  intro left right hSame
  cases left <;> cases right <;>
    first
    | rfl
    | exact absurd hSame (by decide)

theorem CanMode.toU8_injective :
    Function.Injective CanMode.toU8 := by
  intro left right hSame
  cases left <;> cases right <;>
    first
    | rfl
    | exact absurd hSame (by decide)

theorem toLeBytes_injective :
    Function.Injective toLeBytes :=
  Function.LeftInverse.injective fromLeBytes_toLeBytes

/- A flag can be read off its two byte values. -/
theorem flag_injective
    {yes no : UInt8}
    {left right : Bool}
    (hOther : yes ≠ no)
    (hSame :
      (if left then yes else no) =
        if right then yes else no) :
    left = right := by
  cases left <;> cases right
  · rfl
  · exact absurd hSame.symm hOther
  · exact absurd hSame hOther
  · rfl

/- Every field can be read off the covered bytes. -/
theorem settingsBody_injective :
    Function.Injective settingsBody := by
  intro left right hSame
  rcases List.append_inj hSame rfl with ⟨hSame, hFlags⟩
  rcases List.append_inj hSame rfl with ⟨hSame, hMask⟩
  rcases List.append_inj hSame rfl with ⟨hHead, hFilter⟩
  simp only [List.cons.injEq, and_true, true_and]
    at hHead hFlags
  have hSpeed := CanSpeed.toU8_injective hHead.1
  have hMode := CanMode.toU8_injective hFlags.1
  have hFilterId :=
    toLeBytes_injective (FixedArray.ext hFilter)
  have hMaskId := toLeBytes_injective (FixedArray.ext hMask)
  have hWidth := flag_injective (by decide) hHead.2
  have hRetransmit := flag_injective (by decide) hFlags.2
  cases left
  cases right
  rw [Config.mk.injEq]
  exact
    ⟨hSpeed, hMode, hWidth, hFilterId, hMaskId, hRetransmit⟩

------------------------------------------------------------
-- The Settings Frame as a Whole
------------------------------------------------------------

/- The checksum of a settings frame is right. -/
theorem settingsFrame_checksum (config : Config) :
    ChecksumHolds (settingsFrame config) := by
  have hCheck :
      (settingsChecksum config).toNat =
        Checksum.total UInt8.toNat 256
          (settingsBody config) := by
    rw [settingsChecksum, UInt8.toNat_ofNat']
    exact Nat.mod_mod _ _
  exact
    Checksum.holds_of_append [frameStart, cmdFrameMarker]
      hCheck

/- One replaced byte breaks the checksum equation. -/
theorem ChecksumHolds.set
    {frame : List UInt8}
    {i : Nat}
    {byte : UInt8}
    (hFrame : ChecksumHolds frame)
    (hStart : 2 ≤ i)
    (hStop : i ≤ 19)
    (hByte : frame[i]? ≠ some byte) :
    ¬ ChecksumHolds (frame.set i byte) :=
  Checksum.Holds.set hFrame
    (fun _ _ hSame => UInt8.toNat_inj.mp hSame)
    UInt8.toNat_lt hStart hStop hByte

/- Different configurations have different frames. -/
theorem settingsFrame_injective :
    Function.Injective settingsFrame := by
  intro left right hSame
  rw [settingsFrame, settingsFrame, List.append_assoc,
    List.append_assoc] at hSame
  have hBehind := List.append_cancel_left hSame
  have hLength :
      (settingsBody left).length =
        (settingsBody right).length := by
    rw [settingsBody_length, settingsBody_length]
  exact settingsBody_injective
    (List.append_inj hBehind hLength).1

/- The 20 bytes that are written for a configuration. -/
def WritesSettings
    (config : Config)
    (frame : List UInt8) :
    Prop :=
  frame.length = 20 ∧
    ∀ out : List UInt8, 20 ≤ out.length →
      buildSettingsFrameInto config out =
        .ok (.ok 20, frame ++ out.drop 20)

/-
  The settings frames of two configurations are equal
  exactly when all six fields are; byte 19 is the sum of the
  bytes from 2 to 18, and replacing any of these 18 bytes by
  another value breaks that equation.
-/
theorem settings_frame_protected
    (config₁ config₂ : Config) :
    ∃ frame₁ frame₂,
      WritesSettings config₁ frame₁ ∧
        WritesSettings config₂ frame₂ ∧
        (frame₁ = frame₂ ↔
          config₁.canSpeed = config₂.canSpeed ∧
            config₁.canMode = config₂.canMode ∧
            config₁.extendedIds = config₂.extendedIds ∧
            config₁.filterId = config₂.filterId ∧
            config₁.maskId = config₂.maskId ∧
            config₁.autoRetransmit =
              config₂.autoRetransmit) ∧
        ChecksumHolds frame₁ ∧
        ∀ i byte, 2 ≤ i → i ≤ 19 →
          frame₁[i]? ≠ some byte →
            ¬ ChecksumHolds (frame₁.set i byte) := by
  have hWrites :
      ∀ config, WritesSettings config (settingsFrame config) :=
    fun config =>
      ⟨settingsFrame_length config,
        fun _ hSize =>
          buildSettingsFrameInto_eq config hSize⟩
  have hChecksum := settingsFrame_checksum config₁
  refine
    ⟨settingsFrame config₁, settingsFrame config₂,
      hWrites config₁, hWrites config₂, ?_, hChecksum, ?_⟩
  · rw [settingsFrame_injective.eq_iff, ← Config.mk.injEq]
  · intro i byte hStart hStop hByte
    exact hChecksum.set hStart hStop hByte

end WaveshareUsbCanA

end UsbCan
