import UsbCan.StepMotor.CanTx

/-
  What a motor makes of the packets on the bus.

  A motor takes the packets that carry its address in their
  identifier and puts them together by their numbers.  Sent
  commands arrive there unchanged and in order, whatever
  else is on the bus.  A number has eight bits, which is
  enough for commands of up to 1794 bytes.

  Key definitions include:
    * `UsbCan.StepMotor.Packet.part`
    * `UsbCan.StepMotor.reassemble`

  Key theorems include:
    * `UsbCan.StepMotor.packets_parts`
    * `UsbCan.StepMotor.reassemble_arriving`
    * `UsbCan.StepMotor.reassembled`
-/

open Checked Parts

------------------------------------------------------------
-- Reading Identifiers
------------------------------------------------------------

namespace UsbCan

namespace StepMotor

namespace Packet

/- The address in an identifier. -/
def address (packet : Packet) : UInt32 :=
  packet.extId >>> 8

/- The number in an identifier. -/
def number (packet : Packet) : Nat :=
  (packet.extId &&& 0xFF).toNat

/-
  What a packet contributes to a command: the first one its
  address and data, a later one the data behind the repeated
  function code.
-/
def part (packet : Packet) : List UInt8 × Nat :=
  if packet.number = 0 then
    (packet.address.toUInt8 :: packet.data, 0)
  else
    (packet.data.drop 1, packet.number)

/- The packet carries this address. -/
def isFor
    (addr : UInt8)
    (packet : Packet) :
    Bool :=
  packet.address == addr.toUInt32

end Packet

/- The command carries this address. -/
def isCommandFor
    (addr : UInt8)
    (cmd : List UInt8) :
    Bool :=
  cmd.head? == some addr

/- The commands a motor makes of the packets on the bus. -/
def reassemble
    (addr : UInt8)
    (arrived : List Packet) :
    List (List UInt8) :=
  collect ((arrived.filter (Packet.isFor addr)).map
    Packet.part)

theorem toNat_eight : (8 : UInt32).toNat % 32 = 8 := rfl

/- The identifier of a numbered packet, as a number. -/
theorem toNat_extId
    (addr : UInt8)
    {n : Nat}
    (hNumber : n < 256) :
    ((addr.toUInt32 <<< 8) ||| UInt32.ofNat n).toNat =
      2 ^ 8 * addr.toNat + n := by
  have hAddr := addr.toNat_lt
  have hShifted :
      addr.toNat * 2 ^ 8 % 2 ^ 32 = 2 ^ 8 * addr.toNat := by
    omega
  rw [UInt32.toNat_or, UInt32.toNat_shiftLeft,
    UInt32.toNat_ofNat', UInt8.toNat_toUInt32, toNat_eight,
    Nat.shiftLeft_eq, hShifted,
    Nat.mod_eq_of_lt (by omega : n < 2 ^ 32),
    Nat.two_pow_add_eq_or_of_lt hNumber]

/- An identifier of 29 bits holds address and number. -/
theorem extId_read
    (addr : UInt8)
    {n : Nat}
    (hNumber : n < 256)
    (data : List UInt8) :
    let packet : Packet :=
      ⟨(addr.toUInt32 <<< 8) ||| UInt32.ofNat n, data⟩
    packet.extId ≤ 0x1FFFFFFF ∧
      packet.address = addr.toUInt32 ∧
        packet.number = n := by
  have hAddr := addr.toNat_lt
  have hId := toNat_extId addr hNumber
  refine ⟨?_, ?_, ?_⟩
  · rw [UInt32.le_iff_toNat_le, hId]
    change 2 ^ 8 * addr.toNat + n ≤ 536870911
    omega
  · apply UInt32.toNat_inj.mp
    rw [Packet.address, UInt32.toNat_shiftRight, hId,
      UInt8.toNat_toUInt32, toNat_eight,
      Nat.shiftRight_eq_div_pow]
    omega
  · have hMask : (0xFF : UInt32).toNat = 2 ^ 8 - 1 := rfl
    rw [Packet.number, UInt32.toNat_and, hId, hMask,
      Nat.and_two_pow_sub_one_eq_mod]
    omega

------------------------------------------------------------
-- The Parts of a Command
------------------------------------------------------------

/- A command that `send_cmd` can carry to a motor. -/
def Sendable (cmd : List UInt8) : Prop :=
  3 ≤ cmd.length ∧ cmd.length ≤ 1794

instance (cmd : List UInt8) : Decidable (Sendable cmd) := by
  unfold Sendable
  infer_instance

/- The pieces of a command, the first with its header. -/
def pieces : List UInt8 → List (List UInt8)
| addr :: code :: data =>
    match chunks 7 data with
    | [] => []
    | first :: later => (addr :: code :: first) :: later
| _ => []

theorem Sendable.exists_data
    {cmd : List UInt8}
    (hCmd : Sendable cmd) :
    ∃ addr code data,
      cmd = addr :: code :: data ∧ data ≠ [] ∧
        data.length ≤ 1792 := by
  cases cmd with
  | nil => simp [Sendable] at hCmd
  | cons addr rest =>
      cases rest with
      | nil => simp [Sendable] at hCmd
      | cons code data =>
          simp only [Sendable, List.length_cons] at hCmd
          refine ⟨addr, code, data, rfl, ?_, by omega⟩
          rw [← List.length_pos_iff]
          omega

/- The pieces are the command, and there is one at least. -/
theorem Sendable.pieces_spec
    {cmd : List UInt8}
    (hCmd : Sendable cmd) :
    pieces cmd ≠ [] ∧ (pieces cmd).flatten = cmd := by
  rcases hCmd.exists_data with
    ⟨addr, code, data, rfl, hData, _⟩
  have hSize : 0 < 7 := by decide
  have hCut := chunks_of_ne_nil hSize hData
  have hAll := flatten_chunks hSize data
  rw [hCut, List.flatten_cons] at hAll
  rw [pieces, hCut]
  refine ⟨List.cons_ne_nil _ _, ?_⟩
  rw [List.flatten_cons, List.cons_append,
    List.cons_append, hAll]

/- Packets of later numbers contribute their pieces. -/
theorem map_part_later
    (addr code : UInt8)
    (later : List (List UInt8))
    (hShort : later.length < 256) :
    ((later.zipIdx 1).map fun (piece, n) =>
        Packet.part
          { extId := (addr.toUInt32 <<< 8) ||| UInt32.ofNat n
            data := code :: piece }) =
      later.zipIdx 1 := by
  conv => rhs; rw [← List.map_id (later.zipIdx 1)]
  apply List.map_congr_left
  intro entry hEntry
  rcases entry with ⟨piece, n⟩
  rcases List.mem_zipIdx hEntry with ⟨hFirst, hLast, _⟩
  have hRead :=
    extId_read addr (n := n) (by omega) (code :: piece)
  have hLater : ¬ n = 0 := by omega
  simp only [Packet.part, hRead.2.2, if_neg hLater]
  rfl

/- The packets of a command contribute its pieces. -/
theorem packets_parts
    {cmd : List UInt8}
    (hCmd : Sendable cmd) :
    (packets cmd).map Packet.part =
      (pieces cmd).zipIdx := by
  rcases hCmd.exists_data with
    ⟨addr, code, data, rfl, hData, hShort⟩
  have hSize : 0 < 7 := by decide
  have hCut := chunks_of_ne_nil hSize hData
  have hCount := length_chunks 7 data
  rw [hCut, List.length_cons] at hCount
  have hFirst :=
    extId_read addr (n := 0) (by decide)
      (code :: data.take 7)
  rw [packets, packetsOf, pieces, hCut, List.map_map,
    List.zipIdx_cons, List.map_cons, List.zipIdx_cons]
  refine congrArg₂ List.cons ?_ ?_
  · simp only [Function.comp_apply, Packet.part,
      hFirst.2.1, hFirst.2.2, if_pos, UInt8.toUInt8_toUInt32]
  · exact map_part_later addr code _ (by omega)

/-
  A packet of a command: its identifier has 29 bits and holds
  the address of the command, and it has at most eight bytes.
-/
theorem mem_packets
    {cmd : List UInt8}
    {packet : Packet}
    (hCmd : Sendable cmd)
    (hPacket : packet ∈ packets cmd) :
    packet.extId ≤ 0x1FFFFFFF ∧
      packet.data.length ≤ 8 ∧
        ∃ addr,
          cmd.head? = some addr ∧
            packet.address = addr.toUInt32 := by
  rcases hCmd.exists_data with
    ⟨addr, code, data, rfl, _, hShort⟩
  rw [packets, packetsOf] at hPacket
  rcases List.mem_map.mp hPacket with
    ⟨⟨piece, n⟩, hEntry, rfl⟩
  rcases List.mem_zipIdx hEntry with ⟨_, hLast, hPiece⟩
  rw [length_chunks] at hLast
  have hMem : piece ∈ chunks 7 data := by
    rw [hPiece]
    exact List.getElem_mem _
  have hLength :=
    (length_of_mem_chunks (by decide) hMem).2
  have hRead :=
    extId_read addr (n := n) (by omega) (code :: piece)
  refine ⟨hRead.1, ?_, addr, rfl, hRead.2.1⟩
  simp only [List.length_cons]
  omega

/- A motor sees all packets of its commands and no others. -/
theorem filter_packets
    (addr : UInt8)
    {cmd : List UInt8}
    (hCmd : Sendable cmd) :
    (packets cmd).filter (Packet.isFor addr) =
      if isCommandFor addr cmd then packets cmd else [] := by
  have hSame :
      ∀ packet ∈ packets cmd,
        packet.isFor addr = isCommandFor addr cmd := by
    intro packet hPacket
    rcases mem_packets hCmd hPacket with
      ⟨_, _, own, hHead, hAddress⟩
    rw [Packet.isFor, isCommandFor, hHead, hAddress,
      Bool.beq_eq_decide_eq, Bool.beq_eq_decide_eq,
      decide_eq_decide, UInt8.toUInt32_inj,
      Option.some_inj]
  split
  · rename_i hFor
    rw [List.filter_eq_self]
    intro packet hPacket
    rw [hSame packet hPacket, hFor]
  · rename_i hOther
    rw [List.filter_eq_nil_iff]
    intro packet hPacket
    rw [hSame packet hPacket]
    exact hOther

/- The same for commands sent one after the other. -/
theorem filter_all_packets
    (addr : UInt8)
    {cmds : List (List UInt8)}
    (hCmds : ∀ cmd ∈ cmds, Sendable cmd) :
    (cmds.flatMap packets).filter (Packet.isFor addr) =
      (cmds.filter (isCommandFor addr)).flatMap packets := by
  induction cmds with
  | nil => rfl
  | cons cmd cmds ih =>
      rw [List.flatMap_cons, List.filter_append,
        filter_packets addr (hCmds cmd (by simp)),
        ih (fun other h => hCmds other (by simp [h])),
        List.filter_cons]
      split <;> simp

------------------------------------------------------------
-- Reassembly
------------------------------------------------------------

/- The packets of commands contribute their pieces. -/
theorem all_packets_parts
    {cmds : List (List UInt8)}
    (hCmds : ∀ cmd ∈ cmds, Sendable cmd) :
    (cmds.flatMap packets).map Packet.part =
      ((cmds.map pieces).map List.zipIdx).flatten := by
  induction cmds with
  | nil => rfl
  | cons cmd cmds ih =>
      rw [List.flatMap_cons, List.map_append,
        packets_parts (hCmds cmd (by simp)),
        ih (fun other h => hCmds other (by simp [h]))]
      rfl

theorem map_flatten_pieces
    {cmds : List (List UInt8)}
    (hCmds : ∀ cmd ∈ cmds, Sendable cmd) :
    (cmds.map pieces).map List.flatten = cmds := by
  rw [List.map_map]
  conv => rhs; rw [← List.map_id cmds]
  apply List.map_congr_left
  intro cmd hCmd
  exact (hCmds cmd hCmd).pieces_spec.2

theorem pieces_ne_nil
    {cmds : List (List UInt8)}
    (hCmds : ∀ cmd ∈ cmds, Sendable cmd) :
    ∀ cut ∈ cmds.map pieces, cut ≠ [] := by
  intro cut hCut
  rcases List.mem_map.mp hCut with ⟨cmd, hCmd, rfl⟩
  exact (hCmds cmd hCmd).pieces_spec.1

/-
  A motor that has received the beginning of what was sent
  to it has some of its commands whole and at most one more
  in part.
-/
theorem reassemble_arriving
    {addr : UInt8}
    {cmds : List (List UInt8)}
    {arrived : List Packet}
    (hCmds : ∀ cmd ∈ cmds, Sendable cmd)
    (hArrived :
      arrived.filter (Packet.isFor addr) <+:
        cmds.flatMap packets) :
    Arriving cmds (reassemble addr arrived) := by
  have hParts := hArrived.map Packet.part
  rw [all_packets_parts hCmds] at hParts
  have hSeen :=
    arriving_of_prefix (pieces_ne_nil hCmds) hParts
  rwa [map_flatten_pieces hCmds] at hSeen

/- A motor that has received everything has its commands. -/
theorem reassemble_eq
    {addr : UInt8}
    {cmds : List (List UInt8)}
    {arrived : List Packet}
    (hCmds : ∀ cmd ∈ cmds, Sendable cmd)
    (hArrived :
      arrived.filter (Packet.isFor addr) =
        cmds.flatMap packets) :
    reassemble addr arrived = cmds := by
  rw [reassemble, hArrived, all_packets_parts hCmds,
    collect_messages (pieces_ne_nil hCmds),
    map_flatten_pieces hCmds]

/- Commands are sent packet by packet. -/
theorem sendCmds_eq
    {Bus : Type} [CanTx Bus]
    (can : Bus)
    (cmds : List (List UInt8)) :
    cmds.foldlM sendCmd can =
      (cmds.flatMap packets).foldlM CanTx.sendFrame can := by
  induction cmds generalizing can with
  | nil => rfl
  | cons cmd cmds ih =>
      rw [List.foldlM_cons, sendCmd_eq, List.flatMap_cons,
        List.foldlM_append]
      exact congrArg _ (funext ih)

/-
  Commands sent on any bus go out as packets with 29-bit
  identifiers and at most eight bytes.  Every motor gets its
  own commands back from them, unchanged and in order, with
  any packets of other addresses in between, and has all but
  the last of those it has seen whole at any moment.
-/
theorem reassembled
    {Bus : Type} [CanTx Bus]
    (can : Bus)
    (cmds : List (List UInt8))
    (hCmds : ∀ cmd ∈ cmds, Sendable cmd) :
    cmds.foldlM sendCmd can =
        (cmds.flatMap packets).foldlM CanTx.sendFrame can ∧
      (∀ packet ∈ cmds.flatMap packets,
        packet.extId ≤ 0x1FFFFFFF ∧
          packet.data.length ≤ 8) ∧
      ∀ (addr : UInt8) (arrived : List Packet),
        (arrived.filter (Packet.isFor addr) <+:
            (cmds.flatMap packets).filter
              (Packet.isFor addr) →
          Arriving (cmds.filter (isCommandFor addr))
            (reassemble addr arrived)) ∧
        (arrived.filter (Packet.isFor addr) =
            (cmds.flatMap packets).filter
              (Packet.isFor addr) →
          reassemble addr arrived =
            cmds.filter (isCommandFor addr)) := by
  refine ⟨sendCmds_eq can cmds, ?_, ?_⟩
  · intro packet hPacket
    rcases List.mem_flatMap.mp hPacket with
      ⟨cmd, hCmd, hMem⟩
    have hShape := mem_packets (hCmds cmd hCmd) hMem
    exact ⟨hShape.1, hShape.2.1⟩
  · intro addr arrived
    have hMine :
        ∀ cmd ∈ cmds.filter (isCommandFor addr),
          Sendable cmd :=
      fun cmd h => hCmds cmd (List.mem_of_mem_filter h)
    rw [filter_all_packets addr hCmds]
    exact
      ⟨reassemble_arriving hMine, reassemble_eq hMine⟩

/- A bus that records what is sent; two motors take turns. -/
theorem reassembled_on_example :
    let bypass : List UInt8 :=
      [0x01, 0xCB, 0x00, 0x03, 0xE8, 0x00, 0x00, 0x01, 0x68,
        0x00, 0x00, 0x07, 0xD0, 0x6B]
    let stop : List UInt8 := [0x02, 0xFE, 0x98, 0x00, 0x6B]
    reassemble 1
        [⟨0x100, [0xCB, 0x00, 0x03, 0xE8, 0x00, 0x00, 0x01,
            0x68]⟩,
          ⟨0x200, [0xFE, 0x98, 0x00, 0x6B]⟩,
          ⟨0x101, [0xCB, 0x00, 0x00, 0x07, 0xD0, 0x6B]⟩] =
      [bypass, stop].filter (isCommandFor 1) := by
  intro bypass stop
  let _ : CanTx (List Packet) :=
    ⟨fun sent packet => .ok (sent ++ [packet])⟩
  have hBoth :
      ∀ cmd ∈ [bypass, stop], Sendable cmd := by
    decide
  exact
    ((reassembled ([] : List Packet) [bypass, stop]
      hBoth).2.2 1 _).2
      (by decide +kernel)

end StepMotor

end UsbCan
