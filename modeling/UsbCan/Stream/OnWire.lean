import UsbCan.Stream.Kinds
import UsbCan.Stream.Noise

/-
  What a reader of the wire gets of a list of messages.

  A message is received as itself, a remote frame as the
  empty data frame with its identifier.  An encoding of
  which the last bytes are missing yields nothing yet.

  Key definitions include:
    * `UsbCan.CanMessage.asReceived`

  Main declarations:
    * `drain_encodings`
    * `drain_begun`
    * `drain_encodings_behind`
-/

open Checked Framing

------------------------------------------------------------
-- Received Messages
------------------------------------------------------------

namespace UsbCan

namespace CanMessage

variable [EmbeddedCan]

/- The message a reader finds in the encoding of a message. -/
def asReceived (message : CanMessage) : CanMessage :=
  if message.rtr then
    DataFrame.message ⟨message.id, [], Nat.zero_le 8⟩
  else
    message

@[simp] theorem asReceived_id (message : CanMessage) :
    message.asReceived.id = message.id := by
  unfold asReceived
  split <;> rfl

/- A data frame is received unchanged. -/
theorem asReceived_of_data
    {message : CanMessage}
    (hData : message.rtr = false) :
    message.asReceived = message := by
  unfold asReceived
  rw [if_neg (by simp [hData])]

/- A received message shows what the sent one shows. -/
theorem asReceived_shownData (message : CanMessage) :
    message.asReceived.shownData = message.shownData := by
  cases hRemote : message.rtr with
  | true =>
      unfold asReceived
      rw [if_pos hRemote, DataFrame.message_shownData,
        message.shownData_of_rtr hRemote]
  | false => rw [asReceived_of_data hRemote]

end CanMessage

namespace WaveshareUsbCanA

variable [EmbeddedCan]

/- The only encoding of a message, and what is read in it. -/
theorem exists_wire
    {message : CanMessage}
    (hBuilt : message.Built) :
    ∃ frame : DataFrame,
      message.asReceived = frame.message ∧
        ∀ bytes, Encodes protocol message bytes ↔
          bytes = wire frame := by
  rcases encodes_built hBuilt with
    ⟨frame, hId, hShown, hEncodes, _⟩
  refine ⟨frame, ?_, hEncodes⟩
  cases hRemote : message.rtr with
  | true =>
      rw [message.shownData_of_rtr hRemote] at hShown
      have hNothing : frame.data = [] :=
        (Except.ok.inj hShown).symm
      have hFrame :
          frame = ⟨message.id, [], Nat.zero_le 8⟩ :=
        DataFrame.ext hId hNothing
      rw [CanMessage.asReceived, if_pos hRemote, hFrame]
  | false =>
      rcases hBuilt.exists_frame hRemote with
        ⟨source, rfl⟩
      rw [DataFrame.message_shownData] at hShown
      have hFrame : frame = source :=
        DataFrame.ext hId (Except.ok.inj hShown).symm
      rw [CanMessage.asReceived_of_data hRemote, hFrame]

/- A data frame has its wire form as its only encoding. -/
theorem encodes_message
    (frame : DataFrame)
    (bytes : List UInt8) :
    Encodes protocol frame.message bytes ↔
      bytes = wire frame := by
  have hBuilt : frame.message.Built :=
    .new (CanMessage.new_eq_message frame)
  rcases exists_wire hBuilt with
    ⟨found, hReceived, hEncodes⟩
  have hSame : frame.message = found.message := hReceived
  rw [hEncodes, DataFrame.message_injective hSame]

/- Whole encodings are read one by one. -/
theorem drain_encodings
    {messages : List CanMessage}
    {whole : List (List UInt8)}
    (hBuilt : ∀ message ∈ messages, message.Built)
    (hWhole :
      List.Forall₂ (Encodes protocol) messages whole)
    (rest : List UInt8) :
    dataFrames.drain deliver (whole.flatten ++ rest) =
      messages.map CanMessage.asReceived ++
        dataFrames.drain deliver rest := by
  induction hWhole with
  | nil => rfl
  | @cons message bytes messages whole hHead hTail ih =>
      have hMore := fun other hOther =>
        hBuilt other (List.mem_cons_of_mem message hOther)
      rcases exists_wire (hBuilt message List.mem_cons_self)
        with ⟨frame, hReceived, hEncodes⟩
      have hAccept :
          dataFrames.judge
              (wire frame ++ (whole.flatten ++ rest)) =
            .accept (wire frame).length (parsed frame) :=
        judge_wire frame _
      have hWindow :
          dataFrames.window ≤
            (wire frame ++
              (whole.flatten ++ rest)).length := by
        have hBounds := wire_length_le frame
        change 5 ≤ _
        simp only [List.length_append]
        omega
      rw [(hEncodes bytes).mp hHead, List.flatten_cons,
        List.append_assoc,
        dataFrames.drain_accept deliver hWindow hAccept,
        List.drop_left, ih hMore, deliver_parsed,
        List.map_cons, hReceived]
      rfl

/- An encoding that is not complete yields nothing. -/
theorem drain_begun
    {message : CanMessage}
    {sent rest : List UInt8}
    (hBuilt : message.Built)
    (hEncodes : Encodes protocol message (sent ++ rest))
    (hRest : rest ≠ []) :
    dataFrames.drain deliver sent = [] := by
  rcases exists_wire hBuilt with ⟨frame, _, hWire⟩
  have hJudge := judge_wire frame []
  rw [List.append_nil, ← (hWire _).mp hEncodes] at hJudge
  exact dataFrames.drain_of_begun deliver hJudge hRest

/- Encodings are the wire forms of what is received. -/
theorem exists_wires
    {messages : List CanMessage}
    {whole : List (List UInt8)}
    (hBuilt : ∀ message ∈ messages, message.Built)
    (hWhole :
      List.Forall₂ (Encodes protocol) messages whole)
    (hStarts :
      ∀ message ∈ messages, ∀ bytes,
        Encodes protocol message bytes →
          frameStart ∉ bytes.drop 1) :
    ∃ frames : List DataFrame,
      whole.flatten = wires frames ∧
        messages.map CanMessage.asReceived =
          frames.map DataFrame.message ∧
        ∀ frame ∈ frames, StartsOnce frame := by
  induction hWhole with
  | nil => exact ⟨[], rfl, rfl, by simp⟩
  | @cons message bytes messages whole hHead hTail ih =>
      rcases ih
          (fun other hOther =>
            hBuilt other (List.mem_cons_of_mem _ hOther))
          (fun other hOther =>
            hStarts other (List.mem_cons_of_mem _ hOther))
        with ⟨frames, hFlatten, hReceived, hOnce⟩
      rcases exists_wire (hBuilt message List.mem_cons_self)
        with ⟨frame, hMessage, hEncodes⟩
      have hBytes := (hEncodes bytes).mp hHead
      have hFirst : StartsOnce frame := by
        rw [StartsOnce, ← hBytes]
        exact hStarts message List.mem_cons_self bytes hHead
      refine ⟨frame :: frames, ?_, ?_, ?_⟩
      · rw [List.flatten_cons, hFlatten, hBytes]
        rfl
      · rw [List.map_cons, List.map_cons, hMessage,
          hReceived]
      · exact List.forall_mem_cons.mpr ⟨hFirst, hOnce⟩

/- Behind noise at most three messages are lost. -/
theorem drain_encodings_behind
    {messages : List CanMessage}
    {whole : List (List UInt8)}
    (hBuilt : ∀ message ∈ messages, message.Built)
    (hWhole :
      List.Forall₂ (Encodes protocol) messages whole)
    (hStarts :
      ∀ message ∈ messages, ∀ bytes,
        Encodes protocol message bytes →
          frameStart ∉ bytes.drop 1)
    (noise : List UInt8) :
    ∃ between,
      dataFrames.drain deliver (noise ++ whole.flatten) =
        between ++
          (messages.drop 3).map CanMessage.asReceived := by
  rcases exists_wires hBuilt hWhole hStarts with
    ⟨frames, hFlatten, hReceived, hOnce⟩
  rcases drain_behind_noise noise frames hOnce with
    ⟨between, hDrain⟩
  refine ⟨between, ?_⟩
  rw [hFlatten, hDrain, List.map_drop, List.map_drop,
    hReceived]

end WaveshareUsbCanA

end UsbCan
