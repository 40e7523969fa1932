import UsbCan.Stream.RoundTrip

/-
  Line noise between encoded frames.

  A false start in the noise can swallow bytes of the frames
  behind it, but never more than a frame's length, and the
  remainder of a cut frame holds no start byte.  The drain
  is aligned again after at most three frames.

  Main declarations:
    * `encodeFrames`
    * `drain_cut`
    * `drain_noise`
-/

open Checked Framing

------------------------------------------------------------
-- Frames without Gaps
------------------------------------------------------------

namespace UsbCan

namespace WaveshareUsbCanA

variable [EmbeddedCan]

/- A data frame with nothing in front of it. -/
def Block.bare (frame : DataFrame) : Block where
  gap := []
  gap_clean := List.not_mem_nil
  frame := frame

/- The byte stream of a list of data frames. -/
def encodeFrames
    (scratch : FixedArray UInt8 dataFrameMaxSize)
    (frames : List DataFrame) :
    Exec (Except String (List UInt8)) :=
  encodeBlocks scratch (frames.map Block.bare)

/- The wire forms of a list of data frames. -/
def wires (frames : List DataFrame) : List UInt8 :=
  frames.flatMap wire

theorem stream_bare (frames : List DataFrame) :
    stream (frames.map Block.bare) = wires frames := by
  simp [stream, wires, Block.bare, List.flatMap_map]

theorem messages_bare (frames : List DataFrame) :
    messages (frames.map Block.bare) =
      frames.map DataFrame.message := by
  simp [messages, Block.bare]

theorem encodeFrames_eq
    (scratch : FixedArray UInt8 dataFrameMaxSize)
    (frames : List DataFrame) :
    encodeFrames scratch frames =
      .ok (.ok (wires frames)) := by
  rw [encodeFrames, encodeBlocks_eq, stream_bare]

theorem map_message_carry
    (frames : List DataFrame) :
    List.Forall₂ Carries (frames.map DataFrame.message)
      frames := by
  have hCarry := messages_carry (frames.map Block.bare)
  rw [messages_bare, List.map_map] at hCarry
  simpa [Function.comp_def, Block.bare] using hCarry

/- Frames without gaps are delivered one by one. -/
theorem drain_wires
    (frames : List DataFrame)
    (rest : List UInt8) :
    dataFrames.drain deliver (wires frames ++ rest) =
      frames.map DataFrame.message ++
        dataFrames.drain deliver rest := by
  have hDrain := drain_stream (frames.map Block.bare) rest
  rwa [stream_bare, messages_bare] at hDrain

theorem drain_all_wires (frames : List DataFrame) :
    dataFrames.drain deliver (wires frames) =
      frames.map DataFrame.message := by
  simpa using drain_wires frames []

/- Every frame takes at least five bytes. -/
theorem wires_length (frames : List DataFrame) :
    5 * frames.length ≤ (wires frames).length := by
  induction frames with
  | nil => simp [wires]
  | cons frame frames ih =>
      have hBounds := wire_length_le frame
      simp only [wires, List.flatMap_cons,
        List.length_append, List.length_cons] at ih ⊢
      omega

------------------------------------------------------------
-- Cut Frames
------------------------------------------------------------

/- The start byte stands at the front of the wire form only. -/
def StartsOnce (frame : DataFrame) : Prop :=
  frameStart ∉ (wire frame).drop 1

/- The remainder of a cut frame yields nothing. -/
theorem drain_remainder
    {frame : DataFrame}
    {k : Nat}
    (rest : List UInt8)
    (hFrame : StartsOnce frame)
    (hCut : 0 < k) :
    dataFrames.drain deliver
        ((wire frame).drop k ++ rest) =
      dataFrames.drain deliver rest := by
  apply dataFrames.drain_junk
  intro byte hByte tail
  apply judge_of_ne_start
  rintro rfl
  have hInside :
      (wire frame).drop k =
        ((wire frame).drop 1).drop (k - 1) := by
    rw [List.drop_drop]
    congr 1
    omega
  rw [hInside] at hByte
  exact hFrame (List.mem_of_mem_drop hByte)

/-
  Frames cut after `k` bytes are delivered from the next
  frame boundary on; each lost frame has taken five bytes,
  the last one at least one.
-/
theorem drain_cut
    (frames : List DataFrame)
    (k : Nat)
    (hFrames : ∀ frame ∈ frames, StartsOnce frame) :
    ∃ lost,
      5 * lost ≤ k + 4 ∧
        dataFrames.drain deliver ((wires frames).drop k) =
          (frames.drop lost).map DataFrame.message := by
  induction frames generalizing k with
  | nil =>
      exact ⟨0, by omega, by simp [wires]⟩
  | cons frame frames ih =>
      have hBounds := wire_length_le frame
      have hRest := fun other hOther =>
        hFrames other (List.mem_cons_of_mem frame hOther)
      have hSplit :
          wires (frame :: frames) =
            wire frame ++ wires frames := by
        rw [wires, List.flatMap_cons, wires]
      by_cases hStart : k = 0
      · subst hStart
        exact ⟨0, by omega, drain_all_wires _⟩
      · by_cases hInside : k < (wire frame).length
        · refine ⟨1, by omega, ?_⟩
          rw [hSplit,
            List.drop_append_of_le_length (by omega),
            drain_remainder (wires frames)
              (hFrames frame List.mem_cons_self) (by omega),
            drain_all_wires frames, List.drop_one, List.tail_cons]
        · rcases ih (k - (wire frame).length) hRest with
            ⟨lost, hLost, hDrain⟩
          refine ⟨lost + 1, by omega, ?_⟩
          rw [hSplit, List.drop_append,
            List.drop_eq_nil_of_le (by omega),
            List.nil_append, hDrain, List.drop_succ_cons]

------------------------------------------------------------
-- Noise
------------------------------------------------------------

/-
  Noise costs at most three frames.  If the frames behind it
  are as long as the grammar's reach, no false start blocks
  the scan and realignment bounds the cut; otherwise there
  are at most two of them.
-/
theorem drain_behind_noise
    (noise : List UInt8)
    (frames : List DataFrame)
    (hFrames : ∀ frame ∈ frames, StartsOnce frame) :
    ∃ between,
      dataFrames.drain deliver (noise ++ wires frames) =
        between ++
          (frames.drop 3).map DataFrame.message := by
  by_cases hLong : 15 ≤ (wires frames).length
  · rcases dataFrames.drain_realign deliver noise
        (wires frames) hLong with
      ⟨delivered, k, hk, hDrain⟩
    rcases drain_cut frames k hFrames with
      ⟨lost, hLost, hCut⟩
    change k < 15 at hk
    have hDrop :
        (frames.drop lost).drop (3 - lost) =
          frames.drop 3 := by
      rw [List.drop_drop]
      congr 1
      omega
    refine
      ⟨delivered ++
        ((frames.drop lost).take (3 - lost)).map
          DataFrame.message, ?_⟩
    rw [hDrain, hCut, List.append_assoc, ← List.map_append,
      ← hDrop, List.take_append_drop]
  · have hFew := wires_length frames
    have hNone : frames.drop 3 = [] :=
      List.drop_eq_nil_of_le (by omega)
    exact
      ⟨dataFrames.drain deliver (noise ++ wires frames),
        by simp [hNone]⟩

/-
  The frames before the noise are delivered, and of the
  frames behind it, whose encodings hold the start byte at
  the front only, all but at most the first three.
-/
theorem drain_noise
    (scratch : FixedArray UInt8 dataFrameMaxSize)
    (before after : List DataFrame)
    (noise : List UInt8)
    (hAfter :
      ∀ frame ∈ after, ∀ bytes,
        encode scratch frame = .ok (.ok bytes) →
          frameStart ∉ bytes.drop 1) :
    ∃ front back first between last,
      encodeFrames scratch before = .ok (.ok front) ∧
        encodeFrames scratch after = .ok (.ok back) ∧
        drain protocol (front ++ noise ++ back) =
          .ok (first ++ between ++ last) ∧
        List.Forall₂ Carries first before ∧
        List.Forall₂ Carries last (after.drop 3) := by
  have hFrames : ∀ frame ∈ after, StartsOnce frame := by
    intro frame hFrame
    exact hAfter frame hFrame (wire frame)
      (encode_eq scratch frame)
  rcases drain_behind_noise noise after hFrames with
    ⟨between, hBetween⟩
  refine
    ⟨wires before, wires after,
      before.map DataFrame.message, between,
      (after.drop 3).map DataFrame.message,
      encodeFrames_eq scratch before,
      encodeFrames_eq scratch after, ?_,
      map_message_carry before,
      map_message_carry (after.drop 3)⟩
  rw [drain_eq]
  change
    Except.ok (dataFrames.drain deliver _) = Except.ok _
  rw [List.append_assoc, drain_wires, hBetween,
    List.append_assoc]

end WaveshareUsbCanA

end UsbCan

namespace UsbCan

namespace WaveshareUsbCanA

/- A false start in front of four equal frames. -/
theorem drain_noise_on_example :
    letI := rangedIds
    let frame : DataFrame :=
      ⟨.standard ⟨0x123, by decide⟩, [0x11], by decide⟩
    ∃ front back delivered last,
      encodeFrames (FixedArray.replicate dataFrameMaxSize 0)
            [frame] =
          .ok (.ok front) ∧
        encodeFrames (FixedArray.replicate dataFrameMaxSize 0)
            (List.replicate 4 frame) =
          .ok (.ok back) ∧
        drain protocol (front ++ [0xAA, 0xE8] ++ back) =
          .ok (delivered ++ [last]) ∧
        Carries last frame := by
  let _ : EmbeddedCan := rangedIds
  intro frame
  have hAfter :
      ∀ other ∈ List.replicate 4 frame, ∀ bytes,
        encode (FixedArray.replicate dataFrameMaxSize 0)
            other =
          .ok (.ok bytes) →
          frameStart ∉ bytes.drop 1 := by
    intro other hOther bytes hEncode
    rw [List.eq_of_mem_replicate hOther, encode_eq] at hEncode
    cases hEncode
    decide
  rcases drain_noise
      (FixedArray.replicate dataFrameMaxSize 0) [frame]
      (List.replicate 4 frame) [0xAA, 0xE8] hAfter with
    ⟨front, back, first, between, last, hFront, hBack,
      hDrain, _, hLast⟩
  cases hLast with
  | cons hCarries hNil =>
      cases hNil
      exact ⟨front, back, _, _, hFront, hBack, hDrain,
        hCarries⟩

end WaveshareUsbCanA

end UsbCan
