import UsbCan.Library.Checked
import UsbCan.Library.Parts
import Mathlib.Data.UInt

/-
  Sending a command frame in CAN packets.

  The bytes behind the function code are cut into pieces of
  at most seven bytes.  Each packet carries the function
  code and one piece; its identifier holds the address and
  the number of the piece.

  Key definitions include:
    * `UsbCan.StepMotor.CanTx`
    * `UsbCan.StepMotor.sendCmd`
    * `UsbCan.StepMotor.packets`

  Key theorems include:
    * `UsbCan.StepMotor.nextPacket_ok`
    * `UsbCan.StepMotor.sendCmd_eq`
-/

open Checked Parts

------------------------------------------------------------
-- The Sender
------------------------------------------------------------

namespace UsbCan

namespace StepMotor

/- An extended CAN frame on its way: identifier and data. -/
structure Packet where
  extId : UInt32
  data : List UInt8
deriving DecidableEq

/- A bus that sends packets; a call can panic. -/
class CanTx (Bus : Type) where
  sendFrame : Bus → Packet → Exec Bus

/- How far a command has been sent. -/
structure Progress where
  i : Nat
  packNum : UInt32
deriving DecidableEq

/- The first packet is number zero. -/
def Progress.start : Progress where
  i := 0
  packNum := 0

/-
  One turn of the loop of `send_cmd` up to the call of
  `send_frame`: the packet to send and the progress after
  it, or nothing once all data has been sent.
-/
def nextPacket
    (cmd : List UInt8)
    (progress : Progress) :
    Exec (Option (Packet × Progress)) := do
  let i := progress.i
  let dataLen ← sub cmd.length 2
  if i < dataLen then
    let left ← sub dataLen i
    let k := min left 7
    let addr ← index cmd 0
    let extId := (addr.toUInt32 <<< 8) ||| progress.packNum
    let frame := FixedArray.replicate 8 0
    let code ← index cmd 1
    let frame ← frame.set 0 code
    let bytes ← slice cmd (2 + i) (2 + i + k)
    let frame ← frame.copyFromSlice 1 (1 + k) bytes
    let data ← slice frame.toList 0 (1 + k)
    pure (some
      (⟨extId, data⟩, ⟨i + k, progress.packNum + 1⟩))
  else
    pure none

section Sending

variable {Bus : Type} [CanTx Bus]

/- One turn of the loop of `send_cmd`. -/
def sendNext
    (cmd : List UInt8) :
    Progress × Bus → Exec (Control (Progress × Bus) Bus)
| (progress, can) => do
    match ← nextPacket cmd progress with
    | none => pure (.done can)
    | some (packet, progress) => do
        let can ← CanTx.sendFrame can packet
        pure (.next (progress, can))

/- Send a whole command frame; ignore less than two bytes. -/
def sendCmd
    (can : Bus)
    (cmd : List UInt8) :
    Exec Bus :=
  if cmd.length < 2 then
    pure can
  else
    loop (sendNext cmd) cmd.length (Progress.start, can)

end Sending

------------------------------------------------------------
-- The Packets of a Command
------------------------------------------------------------

/- The packets that carry the data behind a function code. -/
def packetsOf
    (addr code : UInt8)
    (data : List UInt8) :
    List Packet :=
  (chunks 7 data).zipIdx.map fun (piece, n) =>
    { extId := (addr.toUInt32 <<< 8) ||| UInt32.ofNat n
      data := code :: piece }

/- All packets of a command frame, in order. -/
def packets : List UInt8 → List Packet
| addr :: code :: data => packetsOf addr code data
| _ => []

theorem length_packetsOf
    (addr code : UInt8)
    (data : List UInt8) :
    (packetsOf addr code data).length =
      (data.length + 6) / 7 := by
  simp [packetsOf]

/- The packet with a given number. -/
theorem getElem?_packetsOf
    {addr code : UInt8}
    {data : List UInt8}
    {n : Nat}
    (hMore : n * 7 < data.length) :
    (packetsOf addr code data)[n]? =
      some
        { extId := (addr.toUInt32 <<< 8) ||| UInt32.ofNat n
          data := code :: (data.drop (n * 7)).take 7 } := by
  rw [packetsOf, List.getElem?_map, List.getElem?_zipIdx,
    getElem?_chunks (by decide) hMore]
  simp

/- The progress before the packet with a given number. -/
def progressAt
    (dataLen n : Nat) :
    Progress where
  i := min (n * 7) dataLen
  packNum := UInt32.ofNat n

@[simp] theorem progressAt_zero (dataLen : Nat) :
    progressAt dataLen 0 = Progress.start := by
  simp [progressAt, Progress.start]

/- A function code and at most seven bytes fill a packet. -/
theorem frame_ok
    (code : UInt8)
    {piece : List UInt8}
    (hPiece : piece.length ≤ 7) :
    ∃ coded filled,
      (FixedArray.replicate 8 0).set 0 code = .ok coded ∧
        coded.copyFromSlice 1 (1 + piece.length) piece =
          .ok filled ∧
        slice filled.toList 0 (1 + piece.length) =
          .ok (code :: piece) := by
  rcases (FixedArray.filled_nil
      (FixedArray.replicate 8 (0 : UInt8))).set code rfl
      (by decide) with
    ⟨coded, hCoded, hFront⟩
  rcases hFront.copyFromSlice piece rfl rfl
      (by simp; omega) with
    ⟨filled, hFilled, hAll⟩
  refine ⟨coded, filled, hCoded, hFilled, ?_⟩
  have hLength :
      ([] ++ [code] ++ piece).length = 1 + piece.length := by
    simp
    omega
  rw [slice_zero (by simp; omega), hAll, ← hLength,
    List.take_left]
  rfl

/- The loop body yields the packets in order. -/
theorem nextPacket_ok
    (addr code : UInt8)
    {data : List UInt8}
    {n : Nat}
    (hMore : n * 7 < data.length) :
    ∃ packet,
      (packetsOf addr code data)[n]? = some packet ∧
        nextPacket (addr :: code :: data)
            (progressAt data.length n) =
          .ok (some
            (packet, progressAt data.length (n + 1))) := by
  refine ⟨_, getElem?_packetsOf hMore, ?_⟩
  have hLen : sub (data.length + 2) 2 = .ok data.length := by
    rw [sub_ok (by omega), Nat.add_sub_cancel]
  have hBefore : (progressAt data.length n).i = n * 7 :=
    Nat.min_eq_left (by omega)
  have hLeft :
      sub data.length (n * 7) =
        .ok (data.length - n * 7) :=
    sub_ok (by omega)
  have hAddr : index (addr :: code :: data) 0 = .ok addr := rfl
  have hCode : index (addr :: code :: data) 1 = .ok code := rfl
  let piece := (data.drop (n * 7)).take 7
  have hPiece : piece.length = min (data.length - n * 7) 7 := by
    simp only [piece, List.length_take, List.length_drop]
    exact Nat.min_comm _ _
  have hSlice :
      slice (addr :: code :: data) (2 + n * 7)
          (2 + n * 7 + min (data.length - n * 7) 7) =
        .ok piece := by
    rw [slice_ok (by omega)
        (by simp only [List.length_cons]; omega),
      Nat.add_sub_cancel_left, Nat.add_comm 2,
      List.drop_succ_cons, List.drop_succ_cons, ← hPiece]
    exact congrArg _
      (List.prefix_iff_eq_take.mp (List.take_prefix _ _)).symm
  have hAfter :
      (⟨n * 7 + min (data.length - n * 7) 7,
          UInt32.ofNat n + 1⟩ : Progress) =
        progressAt data.length (n + 1) := by
    simp only [progressAt, Progress.mk.injEq]
    refine ⟨by omega, ?_⟩
    simp
  have hShort : piece.length ≤ 7 := by omega
  rcases frame_ok code hShort with
    ⟨coded, filled, hCoded, hFilled, hData⟩
  rw [hPiece] at hFilled hData
  rw [nextPacket]
  simp only [List.length_cons, hLen, ok_bind, hBefore,
    if_pos hMore, hLeft, hAddr, hCode, hSlice, hCoded,
    hFilled, hData]
  rw [← hAfter]
  rfl

/- Behind the last packet there is nothing to send. -/
theorem nextPacket_none
    (addr code : UInt8)
    {data : List UInt8}
    {n : Nat}
    (hAll : data.length ≤ n * 7) :
    nextPacket (addr :: code :: data)
        (progressAt data.length n) =
      .ok none := by
  have hLen : sub (data.length + 2) 2 = .ok data.length := by
    rw [sub_ok (by omega), Nat.add_sub_cancel]
  have hDone :
      ¬ (progressAt data.length n).i < data.length := by
    simp [progressAt, Nat.min_eq_right hAll]
  rw [nextPacket]
  simp only [List.length_cons, hLen, ok_bind, if_neg hDone]
  rfl

section Sending

variable {Bus : Type} [CanTx Bus]

/- The loop sends the packets that are left. -/
theorem loop_sendNext
    (addr code : UInt8)
    (data : List UInt8)
    (fuel n : Nat)
    (can : Bus)
    (hSent : n ≤ (data.length + 6) / 7)
    (hFuel : (data.length + 6) / 7 < n + fuel) :
    loop (sendNext (addr :: code :: data)) fuel
        (progressAt data.length n, can) =
      ((packetsOf addr code data).drop n).foldlM
        CanTx.sendFrame can := by
  induction fuel generalizing n can with
  | zero => omega
  | succ fuel ih =>
      by_cases hMore : n * 7 < data.length
      · rcases nextPacket_ok addr code hMore with
          ⟨packet, hPacket, hNext⟩
        rcases List.getElem?_eq_some_iff.mp hPacket with
          ⟨hIndex, hGet⟩
        rw [List.drop_eq_getElem_cons hIndex, hGet,
          List.foldlM_cons, loop]
        simp only [sendNext, hNext, ok_bind]
        cases CanTx.sendFrame can packet with
        | error fault => rfl
        | ok can' =>
            exact ih (n + 1) can' (by omega) (by omega)
      · have hNothing :
            (packetsOf addr code data).drop n = [] := by
          apply List.drop_eq_nil_of_le
          rw [length_packetsOf]
          omega
        rw [loop, sendNext,
          nextPacket_none addr code (Nat.not_lt.mp hMore),
          hNothing]
        rfl

/- A command is sent packet by packet. -/
theorem sendCmd_eq
    (can : Bus)
    (cmd : List UInt8) :
    sendCmd can cmd =
      (packets cmd).foldlM CanTx.sendFrame can := by
  rw [sendCmd]
  split
  · rename_i hShort
    have hNothing : packets cmd = [] := by
      cases cmd with
      | nil => rfl
      | cons addr rest =>
          cases rest with
          | nil => rfl
          | cons code data =>
              simp only [List.length_cons] at hShort
              omega
    rw [hNothing]
    rfl
  · rename_i hLong
    cases cmd with
    | nil => simp at hLong
    | cons addr rest =>
        cases rest with
        | nil => simp at hLong
        | cons code data =>
            rw [← progressAt_zero data.length,
              loop_sendNext addr code data _ 0 can
                (Nat.zero_le _) (by simp only [List.length_cons]; omega)]
            rfl

end Sending

end StepMotor

end UsbCan
