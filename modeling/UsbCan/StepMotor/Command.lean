import UsbCan.Library.BigEndian
import UsbCan.Library.Checked

/-
  Command frames of the step motor example.

  A command frame is an address, a function code, data and
  a check byte, with integers in big-endian order.  The
  builders only put frames together; sending them is left
  to the bus.

  Key definitions include:
    * `UsbCan.StepMotor.Command`
    * `UsbCan.StepMotor.Command.filled`
    * `UsbCan.StepMotor.Growing`

  Key theorems include:
    * `UsbCan.StepMotor.Command.new_ok`
    * `UsbCan.StepMotor.Command.filled_ok`
-/

open Checked BigEndian

------------------------------------------------------------
-- Commands
------------------------------------------------------------

namespace UsbCan

namespace StepMotor

/- The check byte. -/
def check : UInt8 := 0x6B

/- Longest command. -/
def maxCmdLen : Nat := 32

/- The first `len` bytes of the buffer are the frame. -/
structure Command where
  buf : FixedArray UInt8 maxCmdLen
  len : Nat
  len_le : len ≤ maxCmdLen
deriving DecidableEq

namespace Command

def new (bytes : List UInt8) : Exec Command :=
  if hLen : bytes.length ≤ maxCmdLen then do
    let buf := FixedArray.replicate maxCmdLen 0
    let buf ← buf.copyFromSlice 0 bytes.length bytes
    pure
      { buf := buf
        len := bytes.length
        len_le := hLen }
  else
    .error .sliceOutOfBounds

/- A longer length does not pass the debug assertion. -/
def fromParts
    (buf : FixedArray UInt8 maxCmdLen)
    (len : Nat) :
    Exec Command :=
  if hLen : len ≤ maxCmdLen then
    pure
      { buf := buf
        len := len
        len_le := hLen }
  else
    .error .sliceOutOfBounds

/- The bytes of the frame; they lie in the buffer. -/
def asBytes (command : Command) : List UInt8 :=
  command.buf.toList.take command.len

def isEmpty (command : Command) : Bool :=
  command.len == 0

@[simp] theorem asBytes_length (command : Command) :
    command.asBytes.length = command.len := by
  have hLen := command.len_le
  simp only [asBytes, List.length_take,
    FixedArray.length_toList]
  omega

theorem new_ok
    {bytes : List UInt8}
    (hLen : bytes.length ≤ maxCmdLen) :
    ∃ command,
      new bytes = .ok command ∧ command.asBytes = bytes := by
  rcases FixedArray.copyFromSlice_ok
      (FixedArray.replicate maxCmdLen 0) 0 bytes.length
      bytes hLen (Nat.zero_add _) with
    ⟨buf, hBuf, hList⟩
  refine ⟨⟨buf, bytes.length, hLen⟩, ?_, ?_⟩
  · simp only [new, dif_pos hLen, hBuf, ok_bind,
      pure_eq_ok]
  · rw [asBytes, hList, List.take_zero, List.nil_append,
      List.take_left]

end Command

------------------------------------------------------------
-- Filling an Array
------------------------------------------------------------

/- One statement that fills a part of a command's array. -/
inductive Write where
| byte (i : Nat) (value : UInt8)
| bytes (start stop : Nat) (values : List UInt8)

namespace Write

def run
    {n : Nat}
    (cmd : FixedArray UInt8 n) :
    Write → Exec (FixedArray UInt8 n)
| .byte i value => cmd.set i value
| .bytes start stop values =>
    cmd.copyFromSlice start stop values

/- What a statement writes. -/
def values : Write → List UInt8
| .byte _ value => [value]
| .bytes _ _ values => values

/- Each statement goes on where the one before has ended. -/
def Consecutive : Nat → List Write → Nat → Prop
| i, [], n => i = n
| i, .byte j _ :: writes, n =>
    j = i ∧ Consecutive (i + 1) writes n
| i, .bytes start stop values :: writes, n =>
    start = i ∧ i + values.length = stop ∧
      Consecutive stop writes n

theorem Consecutive.length
    {i n : Nat}
    {writes : List Write}
    (hWrites : Consecutive i writes n) :
    i + (writes.flatMap values).length = n := by
  induction writes generalizing i with
  | nil => exact hWrites
  | cons write writes ih =>
      cases write with
      | byte j value =>
          have hRest := ih hWrites.2
          simp only [List.flatMap_cons, values,
            List.length_append, List.length_cons,
            List.length_nil]
          omega
      | bytes start stop written =>
          have hStop := hWrites.2.1
          have hRest := ih hWrites.2.2
          simp only [List.flatMap_cons, values,
            List.length_append]
          omega

/- Consecutive statements fill the array from its front. -/
theorem run_consecutive
    {n i stop : Nat}
    {writes : List Write}
    {cmd original : FixedArray UInt8 n}
    {front : List UInt8}
    (hFilled : FixedArray.Filled cmd original front)
    (hFront : front.length = i)
    (hWrites : Consecutive i writes stop)
    (hStop : stop ≤ n) :
    ∃ written,
      writes.foldlM run cmd = .ok written ∧
        FixedArray.Filled written original
          (front ++ writes.flatMap values) := by
  induction writes generalizing cmd front i with
  | nil => exact ⟨cmd, rfl, by simpa using hFilled⟩
  | cons write writes ih =>
      have hLength := hWrites.length
      cases write with
      | byte j value =>
          rcases hWrites with ⟨rfl, hRest⟩
          rcases hFilled.set value hFront (by
              simp only [List.flatMap_cons, values,
                List.length_append, List.length_cons,
                List.length_nil] at hLength
              omega) with
            ⟨next, hNext, hMore⟩
          rcases ih hMore (by simp [hFront]) hRest with
            ⟨written, hWritten, hDone⟩
          refine ⟨written, ?_, ?_⟩
          · rw [List.foldlM_cons, run, hNext]
            exact hWritten
          · simpa [values] using hDone
      | bytes start stop copied =>
          rcases hWrites with ⟨rfl, rfl, hRest⟩
          rcases hFilled.copyFromSlice copied hFront rfl (by
              have hBehind := hRest.length
              omega) with
            ⟨next, hNext, hMore⟩
          rcases ih hMore (by simp [hFront]) hRest with
            ⟨written, hWritten, hDone⟩
          refine ⟨written, ?_, ?_⟩
          · rw [List.foldlM_cons, run, hNext]
            exact hWritten
          · simpa [values] using hDone

end Write

namespace Command

/- Fill an array of zeros and take it as a command. -/
def filled
    (n : Nat)
    (writes : List Write) :
    Exec Command := do
  let cmd := FixedArray.replicate n 0
  let cmd ← writes.foldlM Write.run cmd
  Command.new cmd.toList

theorem filled_ok
    {n : Nat}
    {writes : List Write}
    (hWrites : Write.Consecutive 0 writes n)
    (hLen : n ≤ maxCmdLen) :
    ∃ command,
      filled n writes = .ok command ∧
        command.asBytes = writes.flatMap Write.values := by
  rcases Write.run_consecutive
      (FixedArray.filled_nil (FixedArray.replicate n 0))
      rfl hWrites (Nat.le_refl n) with
    ⟨written, hWritten, hFilled⟩
  have hLength := hWrites.length
  have hList :
      written.toList = writes.flatMap Write.values := by
    rw [hFilled, List.nil_append,
      List.drop_eq_nil_of_le (by
        rw [FixedArray.length_toList]
        omega),
      List.append_nil]
  have hFits : written.toList.length ≤ maxCmdLen := by
    simpa
  rcases new_ok hFits with ⟨command, hCommand, hBytes⟩
  refine ⟨command, ?_, by rw [hBytes, hList]⟩
  rw [filled, hWritten]
  exact hCommand

end Command

------------------------------------------------------------
-- Growing a Frame
------------------------------------------------------------

/- A frame under construction: a buffer and its length. -/
structure Growing where
  buf : FixedArray UInt8 maxCmdLen
  len : Nat

namespace Growing

def empty : Growing where
  buf := FixedArray.replicate maxCmdLen 0
  len := 0

/- Write one byte at the end. -/
def push
    (frame : Growing)
    (value : UInt8) :
    Exec Growing := do
  let buf ← frame.buf.set frame.len value
  pure ⟨buf, frame.len + 1⟩

/- Write a byte at the end if there is one. -/
def pushSome
    (frame : Growing) :
    Option UInt8 → Exec Growing
| some value => frame.push value
| none => pure frame

/- Copy some bytes to the end. -/
def extend
    (frame : Growing)
    (values : List UInt8) :
    Exec Growing := do
  let buf ← frame.buf.copyFromSlice frame.len
    (frame.len + values.length) values
  pure ⟨buf, frame.len + values.length⟩

/- The frame consists of these bytes. -/
structure Holds
    (frame : Growing)
    (bytes : List UInt8) :
    Prop where
  len : bytes.length = frame.len
  filled :
    FixedArray.Filled frame.buf
      (FixedArray.replicate maxCmdLen 0) bytes

theorem empty_holds : empty.Holds [] where
  len := rfl
  filled := FixedArray.filled_nil _

variable {frame : Growing} {bytes : List UInt8}

theorem Holds.push
    (hFrame : frame.Holds bytes)
    (value : UInt8)
    (hRoom : bytes.length < maxCmdLen) :
    ∃ grown,
      frame.push value = .ok grown ∧
        grown.Holds (bytes ++ [value]) := by
  rcases hFrame.filled.set value hFrame.len
      (hFrame.len ▸ hRoom) with
    ⟨buf, hBuf, hFilled⟩
  refine ⟨⟨buf, frame.len + 1⟩, ?_, ?_, hFilled⟩
  · rw [Growing.push, hBuf]
    rfl
  · simp [hFrame.len]

theorem Holds.pushSome
    (hFrame : frame.Holds bytes)
    (value : Option UInt8)
    (hRoom : bytes.length < maxCmdLen) :
    ∃ grown,
      frame.pushSome value = .ok grown ∧
        grown.Holds (bytes ++ value.toList) := by
  cases value with
  | none => exact ⟨frame, rfl, by simpa using hFrame⟩
  | some value => exact hFrame.push value hRoom

theorem Holds.extend
    (hFrame : frame.Holds bytes)
    (values : List UInt8)
    (hRoom : bytes.length + values.length ≤ maxCmdLen) :
    ∃ grown,
      frame.extend values = .ok grown ∧
        grown.Holds (bytes ++ values) := by
  rcases hFrame.filled.copyFromSlice values hFrame.len rfl
      (hFrame.len ▸ hRoom) with
    ⟨buf, hBuf, hFilled⟩
  refine
    ⟨⟨buf, frame.len + values.length⟩, ?_, ?_, hFilled⟩
  · rw [Growing.extend, hBuf]
    rfl
  · simp [hFrame.len]

theorem Holds.fromParts
    (hFrame : frame.Holds bytes)
    (hLen : bytes.length ≤ maxCmdLen) :
    ∃ command,
      Command.fromParts frame.buf frame.len = .ok command ∧
        command.asBytes = bytes := by
  refine ⟨⟨frame.buf, frame.len, hFrame.len ▸ hLen⟩,
    dif_pos _, ?_⟩
  change frame.buf.toList.take frame.len = bytes
  rw [← hFrame.len, hFrame.filled, List.take_left]

end Growing

end StepMotor

end UsbCan
