import UsbCan.StepMotor.CommandFormat

/-
  Transactions: many commands in one frame.

  A transaction collects commands in a buffer and commits
  them as one batch frame, whose third and fourth byte hold
  its length.  What does not fit into the buffer is dropped
  without notice.  A reader that goes by the function codes
  finds in the batch exactly the commands that fit whole.

  Key definitions include:
    * `UsbCan.StepMotor.Transaction`
    * `UsbCan.StepMotor.Batch`
    * `UsbCan.StepMotor.readBatch`

  Key theorems include:
    * `UsbCan.StepMotor.Transaction.loads_ok`
    * `UsbCan.StepMotor.Transaction.commit_ok`
    * `UsbCan.StepMotor.batch_carries`
-/

open Checked BigEndian Framing

------------------------------------------------------------
-- Batches
------------------------------------------------------------

namespace UsbCan

namespace StepMotor

/- Length of the buffer of a transaction. -/
def mmclLen : Nat := 512

/- The first `len` bytes of the buffer are the frame. -/
structure Batch where
  buf : FixedArray UInt8 (mmclLen + 5)
  len : Nat
  len_le : len ≤ mmclLen + 5
deriving DecidableEq

namespace Batch

/- The bytes of the frame; they lie in the buffer. -/
def asBytes (batch : Batch) : List UInt8 :=
  batch.buf.toList.take batch.len

def isEmpty (batch : Batch) : Bool :=
  batch.len == 0

@[simp] theorem asBytes_length (batch : Batch) :
    batch.asBytes.length = batch.len := by
  have hLen := batch.len_le
  simp only [asBytes, List.length_take,
    FixedArray.length_toList]
  omega

end Batch

------------------------------------------------------------
-- Transactions
------------------------------------------------------------

/- The first `count` bytes of the buffer are loaded. -/
structure Transaction where
  buf : FixedArray UInt8 mmclLen
  count : Nat
  count_le : count ≤ mmclLen
deriving DecidableEq

namespace Transaction

/- An empty transaction. -/
def begin : Transaction where
  buf := FixedArray.replicate mmclLen 0
  count := 0
  count_le := Nat.zero_le _

/- The bytes loaded so far. -/
def loaded (t : Transaction) : List UInt8 :=
  t.buf.toList.take t.count

theorem count_add_le
    (t : Transaction)
    (len : Nat) :
    t.count + min len (mmclLen - t.count) ≤ mmclLen := by
  have hCount := t.count_le
  omega

/- Load a command; what does not fit is dropped. -/
def load
    (t : Transaction)
    (cmd : Command) :
    Exec Transaction := do
  let n := min cmd.len (mmclLen - t.count)
  let bytes ← slice cmd.buf.toList 0 n
  let buf ← t.buf.copyFromSlice t.count (t.count + n) bytes
  pure
    { buf := buf
      count := t.count + n
      count_le := t.count_add_le cmd.len }

/- The batch frame; nothing for an empty transaction. -/
def commit
    (t : Transaction)
    (addr : UInt8) :
    Exec (Option Batch) :=
  if t.count = 0 then
    pure none
  else do
    let total := UInt16.ofNat (t.count + 5)
    let bytes ← slice t.buf.toList 0 t.count
    let buf := FixedArray.replicate (mmclLen + 5) 0
    let buf ←
      [.byte 0 addr, .byte 1 0xAA,
        .bytes 2 4 (toBeBytes16 total),
        .bytes 4 (4 + t.count) bytes,
        .byte (4 + t.count) check].foldlM Write.run buf
    pure (some
      { buf := buf
        len := t.count + 5
        len_le := Nat.add_le_add_right t.count_le 5 })

------------------------------------------------------------
-- What Is Loaded
------------------------------------------------------------

@[simp] theorem loaded_begin : begin.loaded = [] := rfl

@[simp] theorem loaded_length (t : Transaction) :
    t.loaded.length = t.count := by
  have hCount := t.count_le
  simp only [loaded, List.length_take,
    FixedArray.length_toList]
  omega

/- A command is appended as far as there is room. -/
theorem load_ok
    (t : Transaction)
    (cmd : Command) :
    ∃ t',
      t.load cmd = .ok t' ∧
        t'.loaded =
          (t.loaded ++ cmd.asBytes).take mmclLen := by
  have hCount := t.count_le
  have hLen := cmd.len_le
  let n := min cmd.len (mmclLen - t.count)
  have hSlice :
      slice cmd.buf.toList 0 n =
        .ok (cmd.asBytes.take n) := by
    rw [slice_zero (by simp; omega), Command.asBytes,
      List.take_take, min_eq_left (min_le_left _ _)]
  rcases t.buf.copyFromSlice_ok t.count (t.count + n)
      (cmd.asBytes.take n) (t.count_add_le cmd.len)
      (by simp; omega) with
    ⟨buf, hBuf, hList⟩
  refine ⟨⟨buf, t.count + n, t.count_add_le cmd.len⟩,
    ?_, ?_⟩
  · rw [load, hSlice, ok_bind, hBuf]
    rfl
  · have hFront :
        (t.loaded ++ cmd.asBytes.take n).length =
          t.count + n := by
      simp
      omega
    have hAll : t.loaded.take mmclLen = t.loaded :=
      List.take_of_length_le (by simpa using hCount)
    have hRoom :
        cmd.asBytes.take n =
          cmd.asBytes.take (mmclLen - t.count) := by
      rw [List.take_eq_take_iff]
      simp
      omega
    change buf.toList.take (t.count + n) = _
    rw [hList, ← loaded, ← hFront, List.take_left,
      List.take_append, hAll, loaded_length, hRoom]

/- Cutting off twice is cutting off once. -/
theorem take_take_append
    (room : Nat)
    (front rest : List UInt8) :
    (front.take room ++ rest).take room =
      (front ++ rest).take room := by
  have hRoom :
      room - min room front.length =
        room - front.length := by
    omega
  rw [List.take_append, List.take_append, List.take_take,
    Nat.min_self, List.length_take, hRoom]

theorem loads_ok
    (t : Transaction)
    (cmds : List Command) :
    ∃ t',
      cmds.foldlM load t = .ok t' ∧
        t'.loaded =
          (t.loaded ++
            (cmds.map Command.asBytes).flatten).take
              mmclLen := by
  induction cmds generalizing t with
  | nil =>
      refine ⟨t, rfl, ?_⟩
      have hCount := t.count_le
      rw [List.map_nil, List.flatten_nil, List.append_nil,
        List.take_of_length_le (by simpa using hCount)]
  | cons cmd cmds ih =>
      rcases t.load_ok cmd with ⟨next, hNext, hLoaded⟩
      rcases ih next with ⟨t', hRest, hAll⟩
      refine ⟨t', ?_, ?_⟩
      · rw [List.foldlM_cons, hNext]
        exact hRest
      · rw [hAll, hLoaded, List.map_cons,
          List.flatten_cons, ← List.append_assoc,
          take_take_append]

/- What is committed: a header, what is loaded, a check. -/
theorem commit_ok
    (t : Transaction)
    (addr : UInt8)
    (hLoaded : t.loaded ≠ []) :
    ∃ batch,
      t.commit addr = .ok (some batch) ∧
        batch.asBytes =
          [addr, 0xAA] ++
            toBeBytes16 (UInt16.ofNat (t.count + 5)) ++
              t.loaded ++ [check] := by
  have hCount := t.count_le
  have hSome : ¬ t.count = 0 := by
    rw [← loaded_length, List.length_eq_zero_iff]
    exact hLoaded
  have hSlice : slice t.buf.toList 0 t.count = .ok t.loaded :=
    slice_zero (by simpa using hCount)
  let writes : List Write :=
    [.byte 0 addr, .byte 1 0xAA,
      .bytes 2 4
        (toBeBytes16 (UInt16.ofNat (t.count + 5))),
      .bytes 4 (4 + t.count) t.loaded,
      .byte (4 + t.count) check]
  have hWrites :
      Write.Consecutive 0 writes (t.count + 5) := by
    simp [writes, Write.Consecutive]
    omega
  rcases Write.run_consecutive
      (FixedArray.filled_nil
        (FixedArray.replicate (mmclLen + 5) 0))
      rfl hWrites (by omega) with
    ⟨buf, hBuf, hFilled⟩
  refine ⟨⟨buf, t.count + 5,
    Nat.add_le_add_right t.count_le 5⟩, ?_, ?_⟩
  · simp only [commit, if_neg hSome, hSlice, ok_bind]
    rw [hBuf]
    rfl
  · have hLength := hWrites.length
    rw [Nat.zero_add] at hLength
    have hBytes :
        buf.toList.take (t.count + 5) =
          writes.flatMap Write.values := by
      rw [hFilled, List.nil_append, ← hLength,
        List.take_left]
    refine hBytes.trans ?_
    simp [writes, Write.values]

end Transaction

------------------------------------------------------------
-- Reading a Batch
------------------------------------------------------------

/-
  The commands that a reader finds in a batch: nothing
  unless the function code, the length and the check byte
  are right.
-/
def readBatch
    (bytes : List UInt8) :
    Option (List (List UInt8)) :=
  match bytes with
  | _ :: code :: high :: low :: rest =>
      if code = 0xAA ∧ value [high, low] = bytes.length ∧
          rest.getLast? = some check then
        some (commandFormat.drain some rest.dropLast)
      else
        none
  | _ => none

/- What was loaded is read as far as it was loaded whole. -/
theorem readBatch_eq
    {bytes loaded : List UInt8}
    {addr : UInt8}
    {commands : List (List UInt8)}
    (hCommands :
      ∀ command ∈ commands, WellFormed command)
    (hLoaded :
      loaded = commands.flatten.take mmclLen)
    (hBytes :
      bytes =
        [addr, 0xAA] ++
          toBeBytes16 (UInt16.ofNat (loaded.length + 5)) ++
            loaded ++ [check]) :
    readBatch bytes = some (fitting mmclLen commands) := by
  have hLength : loaded.length ≤ mmclLen := by
    rw [hLoaded, List.length_take]
    exact Nat.min_le_left _ _
  have hTotal :
      value (toBeBytes16
          (UInt16.ofNat (loaded.length + 5))) =
        bytes.length := by
    rw [mmclLen] at hLength
    rw [value_toBeBytes16, UInt16.toNat_ofNat',
      Nat.mod_eq_of_lt (by omega), hBytes]
    simp
    omega
  have hRead :
      commandFormat.drain some loaded =
        fitting mmclLen commands := by
    rw [hLoaded]
    exact Grammar.drain_take_words
      (fun command h => (hCommands command h).isWord) mmclLen
  have hShape :
      bytes =
        addr :: 0xAA ::
          ((UInt16.ofNat (loaded.length + 5)) >>> 8).toUInt8
            :: (UInt16.ofNat (loaded.length + 5)).toUInt8
              :: (loaded ++ [check]) := by
    rw [hBytes]
    simp [toBeBytes16]
  rw [hShape] at hTotal ⊢
  simp only [readBatch]
  rw [if_pos ⟨trivial, hTotal, by simp⟩,
    List.dropLast_concat, hRead]

------------------------------------------------------------
-- From Calls to What Is Read
------------------------------------------------------------

namespace CommandBuilder

/- The builders return the frames of the calls. -/
theorem mapM_build_frames (calls : List Call) :
    ∃ commands,
      calls.mapM build = .ok commands ∧
        commands.map Command.asBytes =
          calls.map Call.frame := by
  induction calls with
  | nil => exact ⟨[], rfl, rfl⟩
  | cons call calls ih =>
      rcases build_frame call with
        ⟨command, hCommand, hBytes⟩
      rcases ih with ⟨commands, hCommands, hAll⟩
      refine ⟨command :: commands, ?_, ?_⟩
      · rw [List.mapM_cons, hCommand, ok_bind, hCommands]
        rfl
      · rw [List.map_cons, List.map_cons, hBytes, hAll]

/- The builders return a well-formed command for each call. -/
theorem mapM_build_ok
    {calls : List Call}
    (hCalls : ∀ call ∈ calls, call.isTimedSys = false) :
    ∃ commands,
      calls.mapM build = .ok commands ∧
        commands.length = calls.length ∧
        ∀ command ∈ commands,
          WellFormed command.asBytes := by
  rcases mapM_build_frames calls with
    ⟨commands, hBuild, hFrames⟩
  refine ⟨commands, hBuild, ?_, ?_⟩
  · simpa using congrArg List.length hFrames
  · intro command hCommand
    have hFrame := List.mem_map_of_mem
      (f := Command.asBytes) hCommand
    rw [hFrames] at hFrame
    rcases List.mem_map.mp hFrame with
      ⟨call, hCall, hSame⟩
    rw [← hSame]
    exact call.frame_wellFormed (hCalls call hCall)

end CommandBuilder

/- Commands are loaded, committed and read back. -/
theorem commit_loads
    (addr : UInt8)
    {commands : List Command}
    (hSome : commands ≠ [])
    (hCommands :
      ∀ command ∈ commands, WellFormed command.asBytes) :
    ∃ t batch,
      commands.foldlM Transaction.load .begin = .ok t ∧
        t.commit addr = .ok (some batch) ∧
        batch.asBytes[0]? = some addr ∧
        readBatch batch.asBytes =
          some (fitting mmclLen
            (commands.map Command.asBytes)) := by
  rcases Transaction.begin.loads_ok commands with
    ⟨t, hLoads, hLoaded⟩
  rw [Transaction.loaded_begin, List.nil_append] at hLoaded
  have hNonempty : t.loaded ≠ [] := by
    cases commands with
    | nil => exact absurd rfl hSome
    | cons command commands =>
        have hLength :=
          (hCommands command (by simp)).length_bounds.1
        intro hNothing
        rw [hLoaded, ← List.length_eq_zero_iff] at hNothing
        simp [mmclLen] at hNothing hLength
        omega
  rcases t.commit_ok addr hNonempty with
    ⟨batch, hBatch, hBytes⟩
  refine ⟨t, batch, hLoads, hBatch, by rw [hBytes]; rfl, ?_⟩
  rw [← t.loaded_length] at hBytes
  refine readBatch_eq ?_ hLoaded hBytes
  intro bytes hBytes
  rcases List.mem_map.mp hBytes with ⟨command, hMem, rfl⟩
  exact hCommands command hMem

/-
  A batch of any calls but timed returns of `Sys` carries the
  first commands that fit into the buffer, and all of them if
  they do.
-/
theorem batch_carries
    (addr : UInt8)
    (calls : List CommandBuilder.Call)
    (hSome : calls ≠ [])
    (hCalls : ∀ call ∈ calls, call.isTimedSys = false) :
    ∃ commands t batch,
      calls.mapM CommandBuilder.build = .ok commands ∧
        commands.foldlM Transaction.load .begin = .ok t ∧
        t.commit addr = .ok (some batch) ∧
        readBatch batch.asBytes =
          some (fitting mmclLen
            (commands.map Command.asBytes)) ∧
        ((commands.map Command.len).sum ≤ mmclLen →
          readBatch batch.asBytes =
            some (commands.map Command.asBytes)) := by
  rcases CommandBuilder.mapM_build_ok hCalls with
    ⟨commands, hBuild, hLength, hWell⟩
  have hCommands : commands ≠ [] := by
    rw [← List.length_pos_iff, hLength, List.length_pos_iff]
    exact hSome
  rcases commit_loads addr hCommands hWell with
    ⟨t, batch, hLoads, hBatch, _, hRead⟩
  refine
    ⟨commands, t, batch, hBuild, hLoads, hBatch, hRead, ?_⟩
  intro hFits
  rw [hRead, fitting_of_le]
  rw [List.length_flatten, List.map_map]
  simpa [Function.comp_def] using hFits

/- The batch of the example program carries both commands. -/
theorem batch_carries_on_example :
    ∃ t batch,
      [CommandBuilder.CallOf.stopNow 1 false,
            .resetCurPosToZero 1].mapM
          CommandBuilder.build >>=
        List.foldlM Transaction.load .begin = .ok t ∧
      t.commit 0 = .ok (some batch) ∧
      readBatch batch.asBytes =
        some
          [[0x01, 0xFE, 0x98, 0x00, 0x6B],
            [0x01, 0x0A, 0x6D, 0x6B]] := by
  have hBuilt :
      ([CommandBuilder.CallOf.stopNow 1 false,
            .resetCurPosToZero 1].mapM
          CommandBuilder.build).map
        (List.map Command.asBytes) =
      .ok
        [[0x01, 0xFE, 0x98, 0x00, 0x6B],
          [0x01, 0x0A, 0x6D, 0x6B]] := by
    decide +kernel
  rcases batch_carries 0
      [.stopNow 1 false, .resetCurPosToZero 1] (by simp)
      (by simp [CommandBuilder.Call.isTimedSys]) with
    ⟨commands, t, batch, hCommands, hLoads, hBatch, _,
      hRead⟩
  rw [hCommands] at hBuilt
  have hBytes := Except.ok.inj hBuilt
  have hLengths :
      commands.map Command.len = [5, 4] := by
    have hMapped := congrArg (List.map List.length) hBytes
    rw [List.map_map] at hMapped
    simpa [Function.comp_def] using hMapped
  have hFits : (commands.map Command.len).sum ≤ mmclLen := by
    rw [hLengths]
    decide
  refine ⟨t, batch, ?_, hBatch, ?_⟩
  · rw [hCommands]
    exact hLoads
  · rw [hRead hFits, hBytes]

end StepMotor

end UsbCan
