import UsbCan.StepMotor.CanTx

/-
  Sending a command and waiting for the reply.

  `write_read` exists for buses that are polled and for
  buses that are awaited.  Both send the command and return
  the first frame that carries the command's address; the
  polled one gives up after a number of polls.  On a bus
  whose awaited frames are the polled ones they return the
  same frame.

  Key definitions include:
    * `UsbCan.StepMotor.writeRead`
    * `UsbCan.StepMotor.asyncWriteRead`
    * `UsbCan.StepMotor.Replies`

  Key theorems include:
    * `UsbCan.StepMotor.pollReply_eq_some_iff`
    * `UsbCan.StepMotor.loop_awaitNext_iff`
    * `UsbCan.StepMotor.writeRead_replies`
-/

open Checked

------------------------------------------------------------
-- Polled Buses
------------------------------------------------------------

namespace UsbCan

namespace StepMotor

/- A received extended CAN frame. -/
structure CanFrame where
  extId : UInt32
  data : FixedArray UInt8 8
  len : Nat
deriving DecidableEq

/- A bus that is asked for a received frame. -/
class CanRx (Bus : Type) where
  tryReceiveFrame : Bus → Exec (Option Packet × Bus)

/- Copy at most eight bytes of a received frame. -/
def claim (packet : Packet) : Exec CanFrame := do
  let len := min packet.data.length 8
  let frameData := FixedArray.replicate 8 0
  let bytes ← slice packet.data 0 len
  let frameData ← frameData.copyFromSlice 0 len bytes
  pure
    { extId := packet.extId
      data := frameData
      len := len }

section Polled

variable {Bus : Type} [CanTx Bus] [CanRx Bus]

/- Poll a number of times for a frame from an address. -/
def pollReply
    (addr : UInt32) :
    Nat → Bus → Exec (Option CanFrame × Bus)
| 0, can => pure (none, can)
| polls + 1, can => do
    match ← CanRx.tryReceiveFrame can with
    | (some packet, can) =>
        if packet.extId >>> 8 = addr then do
          let frame ← claim packet
          pure (some frame, can)
        else
          pollReply addr polls can
    | (none, can) => pollReply addr polls can

/- Send a command and poll for the reply. -/
def writeRead
    (can : Bus)
    (cmd : List UInt8)
    (pollLimit : UInt32) :
    Exec (Option CanFrame × Bus) :=
  if cmd.isEmpty then
    pure (none, can)
  else do
    let addr ← index cmd 0
    let can ← sendCmd can cmd
    pollReply addr.toUInt32 pollLimit.toNat can

end Polled

------------------------------------------------------------
-- Awaited Buses
------------------------------------------------------------

/-
  Buses whose calls are awaited: they return nothing while
  the call has to wait.
-/
class AsyncCanTx (Bus : Type) where
  sendFrame : Bus → Packet → Exec (Option Bus)

class AsyncCanRx (Bus : Type) where
  receiveFrame : Bus → Exec (Option (CanFrame × Bus))

section Awaited

variable {Bus : Type} [AsyncCanTx Bus] [AsyncCanRx Bus]

/- One turn of the loop of the awaited `send_cmd`. -/
def asyncSendNext
    (cmd : List UInt8) :
    Progress × Bus →
      Exec (Control (Progress × Bus) (Option Bus))
| (progress, can) => do
    match ← nextPacket cmd progress with
    | none => pure (.done (some can))
    | some (packet, progress) => do
        match ← AsyncCanTx.sendFrame can packet with
        | none => pure (.done none)
        | some can => pure (.next (progress, can))

/- Send a whole command frame, waiting where the bus does. -/
def asyncSendCmd
    (can : Bus)
    (cmd : List UInt8) :
    Exec (Option Bus) :=
  if cmd.length < 2 then
    pure (some can)
  else
    loop (asyncSendNext cmd) cmd.length (Progress.start, can)

/- One turn of the wait for a frame from an address. -/
def awaitNext
    (addr : UInt32)
    (can : Bus) :
    Exec (Control Bus (Option (CanFrame × Bus))) := do
  match ← AsyncCanRx.receiveFrame can with
  | none => pure (.done none)
  | some (frame, can) =>
      if frame.extId >>> 8 = addr then
        pure (.done (some (frame, can)))
      else
        pure (.next can)

/- Send a command and await the reply for some turns. -/
def asyncWriteRead
    (can : Bus)
    (cmd : List UInt8)
    (turns : Nat) :
    Exec (Option (Option CanFrame × Bus)) :=
  if cmd.isEmpty then
    pure (some (none, can))
  else do
    let addr ← index cmd 0
    match ← asyncSendCmd can cmd with
    | none => pure none
    | some can => do
        let reply ← loop (awaitNext addr.toUInt32) turns can
        pure (reply.map fun (frame, can) =>
          (some frame, can))

end Awaited

------------------------------------------------------------
-- The First Reply
------------------------------------------------------------

/- At most eight bytes of a frame are copied. -/
theorem claim_ok (packet : Packet) :
    ∃ frame,
      claim packet = .ok frame ∧
        frame.extId = packet.extId ∧
        frame.data.toList.take frame.len =
          packet.data.take 8 := by
  let len := min packet.data.length 8
  have hSlice :
      slice packet.data 0 len =
        .ok (packet.data.take len) :=
    slice_zero (Nat.min_le_left _ _)
  rcases FixedArray.copyFromSlice_ok
      (FixedArray.replicate 8 0) 0 len
      (packet.data.take len) (Nat.min_le_right _ _)
      (by simp [len]) with
    ⟨data, hData, hList⟩
  refine ⟨⟨packet.extId, data, len⟩, ?_, rfl, ?_⟩
  · simp only [claim]
    rw [hSlice, ok_bind, hData]
    rfl
  · change data.toList.take len = _
    have hLength : (packet.data.take len).length = len := by
      simp [len]
    rw [hList, List.take_zero, List.nil_append,
      List.take_left' hLength, List.take_eq_take_iff]
    simp only [len]
    omega

section Polled

variable {Bus : Type} [CanRx Bus]
variable {addr : UInt32}
variable {can next can' : Bus}
variable {frame : CanFrame}

/- A poll yields nothing from the address. -/
def Passes
    (addr : UInt32)
    (can next : Bus) :
    Prop :=
  ∃ found,
    CanRx.tryReceiveFrame can = .ok (found, next) ∧
      ∀ packet, found = some packet →
        packet.extId >>> 8 ≠ addr

/- A poll yields a frame from the address. -/
def Yields
    (addr : UInt32)
    (can : Bus)
    (frame : CanFrame)
    (next : Bus) :
    Prop :=
  ∃ packet,
    CanRx.tryReceiveFrame can = .ok (some packet, next) ∧
      packet.extId >>> 8 = addr ∧
      claim packet = .ok frame

/- After some polls that pass, one yields a frame. -/
inductive Replies
    (addr : UInt32) :
    Nat → Bus → CanFrame → Bus → Prop
| here {can can' : Bus} {frame : CanFrame} :
    Yields addr can frame can' →
      Replies addr 0 can frame can'
| later {can next can' : Bus} {n : Nat} {frame : CanFrame} :
    Passes addr can next →
      Replies addr n next frame can' →
      Replies addr (n + 1) can frame can'

/- A number of polls all pass. -/
inductive Silent
    (addr : UInt32) :
    Nat → Bus → Bus → Prop
| nil (can : Bus) : Silent addr 0 can can
| cons {can next can' : Bus} {n : Nat} :
    Passes addr can next →
      Silent addr n next can' →
      Silent addr (n + 1) can can'

/- A poll fails, passes or yields a frame. -/
theorem poll_cases
    (addr : UInt32)
    (can : Bus) :
    (∃ fault, CanRx.tryReceiveFrame can = .error fault) ∨
      (∃ next, Passes addr can next) ∨
      ∃ frame next, Yields addr can frame next := by
  cases hPoll : CanRx.tryReceiveFrame can with
  | error fault => exact Or.inl ⟨fault, rfl⟩
  | ok polled =>
      rcases polled with ⟨found, next⟩
      cases found with
      | none =>
          exact Or.inr (Or.inl
            ⟨next, none, hPoll, by simp⟩)
      | some packet =>
          by_cases hMine : packet.extId >>> 8 = addr
          · rcases claim_ok packet with ⟨frame, hFrame, _⟩
            exact Or.inr (Or.inr
              ⟨frame, next, packet, hPoll, hMine, hFrame⟩)
          · refine Or.inr (Or.inl
              ⟨next, some packet, hPoll, ?_⟩)
            intro other hOther
            cases hOther
            exact hMine

theorem Passes.unique
    {other : Bus}
    (hPasses : Passes addr can next)
    (hOther : Passes addr can other) :
    next = other := by
  rcases hPasses with ⟨found, hPoll, _⟩
  rcases hOther with ⟨found', hPoll', _⟩
  rw [hPoll] at hPoll'
  cases hPoll'
  rfl

theorem Yields.unique
    {frame' : CanFrame}
    (hYields : Yields addr can frame next)
    (hOther : Yields addr can frame' can') :
    frame = frame' ∧ next = can' := by
  rcases hYields with ⟨packet, hPoll, _, hFrame⟩
  rcases hOther with ⟨packet', hPoll', _, hFrame'⟩
  rw [hPoll] at hPoll'
  cases hPoll'
  rw [hFrame] at hFrame'
  cases hFrame'
  exact ⟨rfl, rfl⟩

theorem Passes.not_yields
    (hPasses : Passes addr can next) :
    ¬ Yields addr can frame can' := by
  rintro ⟨packet, hPoll, hMine, _⟩
  rcases hPasses with ⟨found, hPoll', hForeign⟩
  rw [hPoll] at hPoll'
  cases hPoll'
  exact hForeign packet rfl hMine

theorem pollReply_of_passes
    (hPasses : Passes addr can next)
    (polls : Nat) :
    pollReply addr (polls + 1) can =
      pollReply addr polls next := by
  rcases hPasses with ⟨found, hPoll, hForeign⟩
  rw [pollReply, hPoll]
  cases found with
  | none => rfl
  | some packet =>
      simp only [ok_bind, if_neg (hForeign packet rfl)]

theorem pollReply_of_yields
    (hYields : Yields addr can frame next)
    (polls : Nat) :
    pollReply addr (polls + 1) can =
      .ok (some frame, next) := by
  rcases hYields with ⟨packet, hPoll, hMine, hFrame⟩
  rw [pollReply, hPoll]
  simp only [ok_bind, if_pos hMine, hFrame]
  rfl

theorem pollReply_of_error
    {fault : Fault}
    (hPoll : CanRx.tryReceiveFrame can = .error fault)
    (addr : UInt32)
    (polls : Nat) :
    pollReply addr (polls + 1) can = .error fault := by
  rw [pollReply, hPoll]
  rfl

/- Nothing is received by a failing poll. -/
theorem Replies.not_error
    {n : Nat}
    {fault : Fault}
    (hReplies : Replies addr n can frame can') :
    CanRx.tryReceiveFrame can ≠ .error fault := by
  intro hPoll
  cases hReplies with
  | here hYields =>
      rcases hYields with ⟨packet, hThis, _⟩
      rw [hPoll] at hThis
      cases hThis
  | later hPasses =>
      rcases hPasses with ⟨found, hThis, _⟩
      rw [hPoll] at hThis
      cases hThis

/- Polling finds the first reply. -/
theorem pollReply_eq_some_iff
    {polls : Nat} :
    pollReply addr polls can = .ok (some frame, can') ↔
      ∃ n, n < polls ∧ Replies addr n can frame can' := by
  induction polls generalizing can with
  | zero => simp [pollReply]
  | succ polls ih =>
      rcases poll_cases addr can with
        ⟨fault, hPoll⟩ | ⟨next, hPasses⟩ |
        ⟨first, next, hYields⟩
      · rw [pollReply_of_error hPoll]
        constructor
        · intro hSame
          cases hSame
        · rintro ⟨n, _, hReplies⟩
          exact absurd hPoll hReplies.not_error
      · rw [pollReply_of_passes hPasses, ih]
        constructor
        · rintro ⟨n, hLess, hReplies⟩
          exact ⟨n + 1, Nat.succ_lt_succ hLess,
            .later hPasses hReplies⟩
        · rintro ⟨n, hLess, hReplies⟩
          cases hReplies with
          | here hYields =>
              exact absurd hYields hPasses.not_yields
          | later hThis hReplies =>
              rw [← hPasses.unique hThis] at hReplies
              exact ⟨_, Nat.lt_of_succ_lt_succ hLess,
                hReplies⟩
      · rw [pollReply_of_yields hYields]
        constructor
        · intro hSame
          cases hSame
          exact ⟨0, Nat.succ_pos _, .here hYields⟩
        · rintro ⟨n, _, hReplies⟩
          cases hReplies with
          | here hThis =>
              rcases hYields.unique hThis with ⟨rfl, rfl⟩
              rfl
          | later hPasses =>
              exact absurd hYields hPasses.not_yields

/- Polling gives up when all polls pass. -/
theorem pollReply_eq_none_iff
    {polls : Nat} :
    pollReply addr polls can = .ok (none, can') ↔
      Silent addr polls can can' := by
  induction polls generalizing can with
  | zero =>
      constructor
      · intro hSame
        cases hSame
        exact .nil _
      · intro hSilent
        cases hSilent
        rfl
  | succ polls ih =>
      rcases poll_cases addr can with
        ⟨fault, hPoll⟩ | ⟨next, hPasses⟩ |
        ⟨first, next, hYields⟩
      · rw [pollReply_of_error hPoll]
        constructor
        · intro hSame
          cases hSame
        · intro hSilent
          cases hSilent with
          | cons hPasses _ =>
              rcases hPasses with ⟨found, hThis, _⟩
              rw [hPoll] at hThis
              cases hThis
      · rw [pollReply_of_passes hPasses, ih]
        constructor
        · exact Silent.cons hPasses
        · intro hSilent
          cases hSilent with
          | cons hThis hSilent =>
              rwa [hPasses.unique hThis]
      · rw [pollReply_of_yields hYields]
        constructor
        · intro hSame
          cases hSame
        · intro hSilent
          cases hSilent with
          | cons hPasses _ =>
              exact absurd hYields hPasses.not_yields

end Polled

------------------------------------------------------------
-- Awaiting Instead of Polling
------------------------------------------------------------

section Receiving

variable {Bus : Type} [AsyncCanRx Bus]
variable {addr : UInt32}
variable {can can' : Bus}
variable {frame : CanFrame}

/- After frames of other addresses one is received. -/
inductive Awaited
    (addr : UInt32) :
    Nat → Bus → CanFrame → Bus → Prop
| here {can can' : Bus} {frame : CanFrame} :
    AsyncCanRx.receiveFrame can =
        .ok (some (frame, can')) →
      frame.extId >>> 8 = addr →
      Awaited addr 0 can frame can'
| later
    {can next can' : Bus} {other frame : CanFrame}
    {n : Nat} :
    AsyncCanRx.receiveFrame can =
        .ok (some (other, next)) →
      other.extId >>> 8 ≠ addr →
      Awaited addr n next frame can' →
      Awaited addr (n + 1) can frame can'

/- One turn, when a frame is received. -/
theorem loop_awaitNext_succ
    (addr : UInt32)
    (turns : Nat)
    {next : Bus}
    (hReceive :
      AsyncCanRx.receiveFrame can =
        .ok (some (frame, next))) :
    loop (awaitNext addr) (turns + 1) can =
      if frame.extId >>> 8 = addr then
        .ok (some (frame, next))
      else
        loop (awaitNext addr) turns next := by
  rw [loop, awaitNext, hReceive]
  by_cases hMine : frame.extId >>> 8 = addr
  · simp only [ok_bind, if_pos hMine, pure_eq_ok]
  · simp only [ok_bind, if_neg hMine, pure_eq_ok]

/- Turn by turn, the first frame from the address is found. -/
theorem loop_awaitNext_iff
    {turns : Nat} :
    loop (awaitNext addr) turns can =
        .ok (some (frame, can')) ↔
      ∃ n, n < turns ∧ Awaited addr n can frame can' := by
  induction turns generalizing can with
  | zero => simp [loop]
  | succ turns ih =>
      cases hReceive : AsyncCanRx.receiveFrame can with
      | error fault =>
          rw [loop, awaitNext, hReceive]
          constructor
          · intro hSame
            cases hSame
          · rintro ⟨n, _, hAwaited⟩
            cases hAwaited with
            | here hThis => simp [hReceive] at hThis
            | later hThis => simp [hReceive] at hThis
      | ok received =>
          cases received with
          | none =>
              rw [loop, awaitNext, hReceive]
              constructor
              · intro hSame
                cases hSame
              · rintro ⟨n, _, hAwaited⟩
                cases hAwaited with
                | here hThis => simp [hReceive] at hThis
                | later hThis => simp [hReceive] at hThis
          | some found =>
              rcases found with ⟨first, next⟩
              rw [loop_awaitNext_succ addr turns hReceive]
              split
              · rename_i hMine
                constructor
                · intro hSame
                  cases hSame
                  exact ⟨0, Nat.succ_pos _,
                    .here hReceive hMine⟩
                · rintro ⟨n, _, hAwaited⟩
                  cases hAwaited with
                  | here hThis =>
                      rw [← hReceive, hThis]
                  | later hThis hOther =>
                      rw [hReceive] at hThis
                      cases hThis
                      exact absurd hMine hOther
              · rename_i hOther
                rw [ih]
                constructor
                · rintro ⟨n, hLess, hAwaited⟩
                  exact ⟨n + 1, Nat.succ_lt_succ hLess,
                    .later hReceive hOther hAwaited⟩
                · rintro ⟨n, hLess, hAwaited⟩
                  cases hAwaited with
                  | here hThis hMine =>
                      rw [hReceive] at hThis
                      cases hThis
                      exact absurd hMine hOther
                  | later hThis _ hAwaited =>
                      rw [hReceive] at hThis
                      cases hThis
                      exact ⟨_, Nat.lt_of_succ_lt_succ hLess,
                        hAwaited⟩

end Receiving

section Awaited

variable {Bus : Type}
variable [CanTx Bus] [CanRx Bus]
variable [AsyncCanTx Bus] [AsyncCanRx Bus]
variable {addr : UInt32}
variable {can can' : Bus}
variable {frame : CanFrame}

/- A number of polls find no frame at all. -/
inductive Idle : Nat → Bus → Bus → Prop
| nil (can : Bus) : Idle 0 can can
| cons {can next can' : Bus} {n : Nat} :
    CanRx.tryReceiveFrame can = .ok (none, next) →
      Idle n next can' →
      Idle (n + 1) can can'

/-
  The awaited calls of a bus wait for what its polled calls
  do: sending never waits, and the next frame is the one
  that polling finds in the end.
-/
structure AwaitsPolls
    (Bus : Type)
    [CanTx Bus] [CanRx Bus]
    [AsyncCanTx Bus] [AsyncCanRx Bus] :
    Prop where
  send :
    ∀ (can : Bus) (packet : Packet),
      AsyncCanTx.sendFrame can packet =
        some <$> CanTx.sendFrame can packet
  receive :
    ∀ (can can' : Bus) (frame : CanFrame),
      AsyncCanRx.receiveFrame can =
          .ok (some (frame, can')) ↔
        ∃ n next packet,
          Idle n can next ∧
            CanRx.tryReceiveFrame next =
              .ok (some packet, can') ∧
            claim packet = .ok frame

/- Sending goes the same way on both kinds of bus. -/
theorem asyncSendCmd_eq
    (hBus : AwaitsPolls Bus)
    (can : Bus)
    (cmd : List UInt8) :
    asyncSendCmd can cmd = some <$> sendCmd can cmd := by
  have hLoop :
      ∀ fuel (state : Progress × Bus),
        loop (asyncSendNext cmd) fuel state =
          some <$> loop (sendNext cmd) fuel state := by
    intro fuel
    induction fuel with
    | zero => intro state; rfl
    | succ fuel ih =>
        rintro ⟨progress, can⟩
        rw [loop, loop, asyncSendNext, sendNext]
        cases hNext : nextPacket cmd progress with
        | error fault => rfl
        | ok next =>
            cases next with
            | none => rfl
            | some found =>
                rcases found with ⟨packet, progress'⟩
                simp only [ok_bind, hBus.send]
                cases CanTx.sendFrame can packet with
                | error fault => rfl
                | ok can' => exact ih (progress', can')
  rw [asyncSendCmd, sendCmd]
  split
  · rfl
  · exact hLoop _ _

theorem claim_extId
    {packet : Packet}
    (hFrame : claim packet = .ok frame) :
    frame.extId = packet.extId := by
  rcases claim_ok packet with ⟨claimed, hClaim, hId, _⟩
  rw [hClaim] at hFrame
  cases hFrame
  exact hId

/- Polls without a frame pass. -/
omit [CanTx Bus] [AsyncCanTx Bus] [AsyncCanRx Bus] in
theorem Replies.of_idle
    {m n : Nat}
    {next : Bus}
    (hIdle : Idle n can next)
    (hReplies : Replies addr m next frame can') :
    ∃ k, Replies addr k can frame can' := by
  induction hIdle with
  | nil can => exact ⟨m, hReplies⟩
  | cons hPoll _ ih =>
      rcases ih hReplies with ⟨k, hLater⟩
      exact ⟨k + 1, .later ⟨none, hPoll, by simp⟩ hLater⟩

/- What is awaited is what polling finds. -/
theorem replies_of_awaited
    (hBus : AwaitsPolls Bus)
    {n : Nat}
    (hAwaited : Awaited addr n can frame can') :
    ∃ m, Replies addr m can frame can' := by
  induction hAwaited with
  | here hReceive hMine =>
      rcases (hBus.receive _ _ _).mp hReceive with
        ⟨k, next, packet, hIdle, hPoll, hClaim⟩
      rw [claim_extId hClaim] at hMine
      exact Replies.of_idle hIdle
        (.here ⟨packet, hPoll, hMine, hClaim⟩)
  | later hReceive hOther _ ih =>
      rcases (hBus.receive _ _ _).mp hReceive with
        ⟨k, next, packet, hIdle, hPoll, hClaim⟩
      rw [claim_extId hClaim] at hOther
      rcases ih with ⟨m, hReplies⟩
      refine Replies.of_idle hIdle
        (.later ⟨some packet, hPoll, ?_⟩ hReplies)
      intro other hSame
      cases hSame
      exact hOther

/- Waiting goes on after a poll without a frame. -/
theorem receive_of_idle
    (hBus : AwaitsPolls Bus)
    {next : Bus}
    (hPoll : CanRx.tryReceiveFrame can = .ok (none, next))
    (hReceive :
      AsyncCanRx.receiveFrame next =
        .ok (some (frame, can'))) :
    AsyncCanRx.receiveFrame can =
      .ok (some (frame, can')) := by
  rcases (hBus.receive _ _ _).mp hReceive with
    ⟨n, last, packet, hIdle, hLast, hClaim⟩
  exact (hBus.receive _ _ _).mpr
    ⟨n + 1, last, packet, .cons hPoll hIdle, hLast, hClaim⟩

/- What polling finds is awaited. -/
theorem awaited_of_replies
    (hBus : AwaitsPolls Bus)
    {n : Nat}
    (hReplies : Replies addr n can frame can') :
    ∃ m, Awaited addr m can frame can' := by
  induction hReplies with
  | here hYields =>
      rcases hYields with ⟨packet, hPoll, hMine, hClaim⟩
      have hReceive := (hBus.receive _ _ _).mpr
        ⟨0, _, packet, .nil _, hPoll, hClaim⟩
      refine ⟨0, .here hReceive ?_⟩
      rw [claim_extId hClaim]
      exact hMine
  | later hPasses _ ih =>
      rcases hPasses with ⟨found, hPoll, hForeign⟩
      rcases ih with ⟨m, hAwaited⟩
      cases found with
      | none =>
          cases hAwaited with
          | here hReceive hMine =>
              exact ⟨0, .here
                (receive_of_idle hBus hPoll hReceive) hMine⟩
          | later hReceive hOther hAwaited =>
              exact ⟨_, .later
                (receive_of_idle hBus hPoll hReceive)
                hOther hAwaited⟩
      | some packet =>
          rcases claim_ok packet with ⟨other, hClaim, hId, _⟩
          have hReceive := (hBus.receive _ _ _).mpr
            ⟨0, _, packet, .nil _, hPoll, hClaim⟩
          refine ⟨m + 1, .later hReceive ?_ hAwaited⟩
          rw [hId]
          exact hForeign packet rfl

/-
  Both forms of `write_read` return the first frame that
  carries the address of the command, whatever else arrives
  before it.  The polled one does on any bus, and gives up
  exactly if none of its polls finds one; the awaited one
  does where the awaited frames are the polled ones.
-/
theorem writeRead_replies
    (can sent : Bus)
    (addr : UInt8)
    (rest : List UInt8)
    (hSent : sendCmd can (addr :: rest) = .ok sent) :
    (∀ (limit : UInt32) (frame : CanFrame) (can' : Bus),
        writeRead can (addr :: rest) limit =
            .ok (some frame, can') ↔
          ∃ n, n < limit.toNat ∧
            Replies addr.toUInt32 n sent frame can') ∧
      (∀ (limit : UInt32) (can' : Bus),
        writeRead can (addr :: rest) limit =
            .ok (none, can') ↔
          Silent addr.toUInt32 limit.toNat sent can') ∧
      (AwaitsPolls Bus →
        ∀ (frame : CanFrame) (can' : Bus),
          (∃ turns,
              asyncWriteRead can (addr :: rest) turns =
                .ok (some (some frame, can'))) ↔
            ∃ n, Replies addr.toUInt32 n sent frame can') := by
  have hAddr : index (addr :: rest) 0 = .ok addr := rfl
  have hPolled :
      ∀ limit : UInt32,
        writeRead can (addr :: rest) limit =
          pollReply addr.toUInt32 limit.toNat sent := by
    intro limit
    simp [writeRead, hAddr, hSent]
  refine ⟨?_, ?_, ?_⟩
  · intro limit frame can'
    rw [hPolled, pollReply_eq_some_iff]
  · intro limit can'
    rw [hPolled, pollReply_eq_none_iff]
  · intro hBus frame can'
    have hAwaited :
        ∀ turns,
          asyncWriteRead can (addr :: rest) turns =
            (Option.map fun (frame, can) =>
                (some frame, can)) <$>
              loop (awaitNext addr.toUInt32) turns sent := by
      intro turns
      simp only [asyncWriteRead, List.isEmpty_cons, hAddr,
        asyncSendCmd_eq hBus, hSent, map_ok, ok_bind]
      cases loop (awaitNext addr.toUInt32) turns sent <;> rfl
    have hReply :
        ∀ turns,
          asyncWriteRead can (addr :: rest) turns =
              .ok (some (some frame, can')) ↔
            ∃ n, n < turns ∧
              Awaited addr.toUInt32 n sent frame can' := by
      intro turns
      rw [← loop_awaitNext_iff, hAwaited]
      cases loop (awaitNext addr.toUInt32) turns sent with
      | error fault => simp
      | ok reply => cases reply <;> simp [Prod.ext_iff]
    constructor
    · rintro ⟨turns, hFound⟩
      rcases (hReply turns).mp hFound with ⟨n, _, hFirst⟩
      exact replies_of_awaited hBus hFirst
    · rintro ⟨n, hFirst⟩
      rcases awaited_of_replies hBus hFirst with ⟨m, hFound⟩
      exact ⟨m + 1,
        (hReply (m + 1)).mpr ⟨m, Nat.lt_succ_self m, hFound⟩⟩

end Awaited

/- A bus that records what is sent and replays a queue. -/
structure QueuedBus where
  sent : List Packet
  queue : List Packet
deriving DecidableEq

namespace QueuedBus

instance : CanTx QueuedBus where
  sendFrame can packet :=
    .ok { can with sent := can.sent ++ [packet] }

instance : CanRx QueuedBus where
  tryReceiveFrame can :=
    .ok (can.queue.head?,
      { can with queue := can.queue.tail })

instance : AsyncCanTx QueuedBus where
  sendFrame can packet := some <$> CanTx.sendFrame can packet

instance : AsyncCanRx QueuedBus where
  receiveFrame can :=
    match can.queue with
    | [] => .ok none
    | packet :: queue => do
        let frame ← claim packet
        pure (some (frame, { can with queue := queue }))

/- Polling an empty queue changes nothing. -/
theorem eq_of_idle
    {n : Nat}
    {can next : QueuedBus}
    (hIdle : Idle n can next) :
    next = can := by
  induction hIdle with
  | nil can => rfl
  | @cons can next can' n hPoll _ ih =>
      rcases can with ⟨sent, queue⟩
      cases queue with
      | nil =>
          cases hPoll
          exact ih
      | cons packet queue => cases hPoll

theorem awaitsPolls : AwaitsPolls QueuedBus where
  send _ _ := rfl
  receive can can' frame := by
    rcases can with ⟨sent, queue⟩
    constructor
    · intro hReceive
      cases queue with
      | nil => cases hReceive
      | cons packet queue =>
          rcases bind_eq_ok_iff.mp hReceive with
            ⟨claimed, hClaim, hRest⟩
          cases hRest
          exact ⟨0, _, packet, .nil _, rfl, hClaim⟩
    · rintro ⟨n, next, packet, hIdle, hPoll, hClaim⟩
      rw [eq_of_idle hIdle] at hPoll
      cases queue with
      | nil => cases hPoll
      | cons first queue =>
          cases hPoll
          exact bind_eq_ok_iff.mpr ⟨frame, hClaim, rfl⟩

end QueuedBus

/- The frame of another motor is skipped. -/
theorem writeRead_replies_on_example :
    ∃ frame can',
      asyncWriteRead
          (⟨[], [⟨0x200, [0x35, 0x00, 0x64]⟩,
            ⟨0x100, [0x35, 0x04, 0xB5]⟩]⟩ : QueuedBus)
          [0x01, 0x35, 0x6B] 2 =
        .ok (some (some frame, can')) ∧
      frame.extId = 0x100 ∧
      ∃ n, Replies 1 n
        (⟨[⟨0x100, [0x35, 0x6B]⟩],
          [⟨0x200, [0x35, 0x00, 0x64]⟩,
            ⟨0x100, [0x35, 0x04, 0xB5]⟩]⟩ : QueuedBus)
        frame can' := by
  have hReply :
      asyncWriteRead
          (⟨[], [⟨0x200, [0x35, 0x00, 0x64]⟩,
            ⟨0x100, [0x35, 0x04, 0xB5]⟩]⟩ : QueuedBus)
          [0x01, 0x35, 0x6B] 2 =
        .ok (some (some
          ⟨0x100, ⟨[0x35, 0x04, 0xB5, 0, 0, 0, 0, 0], rfl⟩, 3⟩,
          ⟨[⟨0x100, [0x35, 0x6B]⟩], []⟩)) := by
    decide +kernel
  have hSent :
      sendCmd
          (⟨[], [⟨0x200, [0x35, 0x00, 0x64]⟩,
            ⟨0x100, [0x35, 0x04, 0xB5]⟩]⟩ : QueuedBus)
          [0x01, 0x35, 0x6B] =
        .ok ⟨[⟨0x100, [0x35, 0x6B]⟩],
          [⟨0x200, [0x35, 0x00, 0x64]⟩,
            ⟨0x100, [0x35, 0x04, 0xB5]⟩]⟩ := by
    decide +kernel
  refine ⟨_, _, hReply, rfl, ?_⟩
  exact
    ((writeRead_replies _ _ 0x01 _ hSent).2.2
      QueuedBus.awaitsPolls _ _).mp ⟨2, hReply⟩

end StepMotor

end UsbCan
