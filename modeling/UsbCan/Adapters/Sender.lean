import UsbCan.Adapters.Transport
import UsbCan.Library.Channel

/-
  The sender half of split mode.

  A sender copies any frame into an owned message and puts
  it into the channel of the write task.  The functions take
  the channel and return it, with what the caller is told.
  A freed place of the channel is open to every sender; the
  runtime gives it to a waiting `send` first, so that there
  a `try_send` can already fail while that `send` is woken.

  Key definitions include:
    * `UsbCan.CanUsbSender.toMessage`
    * `UsbCan.CanUsbSender.send`
    * `UsbCan.CanUsbSender.trySend`
    * `UsbCan.CanUsbSender.isClosed`

  Key theorems include:
    * `UsbCan.CanUsbSender.toMessage_self`
    * `UsbCan.CanUsbSender.send_cases`
-/

open Checked

------------------------------------------------------------
-- Sending
------------------------------------------------------------

namespace UsbCan

namespace CanUsbSender

variable [EmbeddedCan]
variable {F : Type} [Frame F]

/- Copy any frame into an owned message. -/
def toMessage (frame : F) : Exec (Option CanMessage) :=
  if Frame.isRemoteFrame frame then
    pure (CanMessage.newRemote (Frame.id frame)
      (Frame.dlc frame))
  else do
    let data ← Frame.data frame
    CanMessage.new (Frame.id frame) data

/- Send a frame, waiting while the channel is full. -/
def send
    (frame : F)
    (frameTx : Channel CanMessage) :
    Exec (Option
      (Except ClientError Unit × Channel CanMessage)) := do
  match ← toMessage frame with
  | none =>
      pure (some
        (.error (.protocol "Invalid CAN frame"), frameTx))
  | some message =>
      match frameTx.send message with
      | none => pure none
      | some (.error message) =>
          pure (some (.error (.sendError message), frameTx))
      | some (.ok frameTx) =>
          pure (some (.ok (), frameTx))

/- Try to send a frame without waiting. -/
def trySend
    (frame : F)
    (frameTx : Channel CanMessage) :
    Exec (Except ClientError Unit × Channel CanMessage) := do
  match ← toMessage frame with
  | none =>
      pure (.error (.protocol "Invalid CAN frame"), frameTx)
  | some message =>
      match frameTx.trySend message with
      | .error (.full _) =>
          pure (.error (.protocol "Send channel full"),
            frameTx)
      | .error (.closed _) =>
          pure (.error .channelClosed, frameTx)
      | .ok frameTx => pure (.ok (), frameTx)

/- Check whether the channel is closed. -/
def isClosed (frameTx : Channel CanMessage) : Bool :=
  !frameTx.receiverAlive

------------------------------------------------------------
-- What a Sender Does
------------------------------------------------------------

/- Copies are made by one of the frame constructors. -/
theorem toMessage_built
    {frame : F}
    {message : CanMessage}
    (hMessage : toMessage frame = .ok (some message)) :
    message.Built := by
  unfold toMessage at hMessage
  split at hMessage
  · exact .newRemote (Except.ok.inj hMessage)
  · rcases bind_eq_ok_iff.mp hMessage with
      ⟨data, _, hNew⟩
    exact .new hNew

/- A constructed message is copied unchanged. -/
theorem toMessage_self
    {message : CanMessage}
    (hBuilt : message.Built) :
    toMessage message = .ok (some message) := by
  cases hRemote : message.rtr with
  | true =>
      have hSame := hBuilt.newRemote_eq hRemote
      unfold toMessage
      change
        (if message.rtr = true then
            pure (CanMessage.newRemote message.id
              message.dlc.toNat)
          else
            _) =
          _
      rw [if_pos hRemote, hSame]
      rfl
  | false =>
      rcases hBuilt.exists_frame hRemote with
        ⟨frame, rfl⟩
      have hShown :
          Frame.data frame.message = .ok frame.data :=
        frame.message_shownData
      have hData :
          ¬ Frame.isRemoteFrame frame.message = true := by
        rw [Bool.not_eq_true]
        exact hRemote
      unfold toMessage
      rw [if_neg hData, hShown, ok_bind]
      exact CanMessage.new_eq_message frame

/-
  What a sender does to the channel: nothing, with an error
  for the caller, or one more message at the end.
-/
def Sent
    (frameTx : Channel CanMessage)
    (result : Except ClientError Unit)
    (frameTx' : Channel CanMessage) :
    Prop :=
  (∃ error, result = .error error ∧ frameTx' = frameTx) ∨
    ∃ message hFree,
      result = .ok () ∧ message.Built ∧
        frameTx.receiverAlive = true ∧
        frameTx' = frameTx.push message hFree

theorem send_cases
    {frame : F}
    {frameTx frameTx' : Channel CanMessage}
    {result : Except ClientError Unit}
    (hSend :
      send frame frameTx =
        .ok (some (result, frameTx'))) :
    Sent frameTx result frameTx' := by
  rcases bind_eq_ok_iff.mp hSend with
    ⟨copied, hCopied, hRest⟩
  cases copied with
  | none =>
      cases hRest
      exact Or.inl ⟨_, rfl, rfl⟩
  | some message =>
      cases hChannel : frameTx.send message with
      | none =>
          simp only [hChannel] at hRest
          cases hRest
      | some sent =>
          simp only [hChannel] at hRest
          cases sent with
          | error back =>
              cases hRest
              exact Or.inl ⟨_, rfl, rfl⟩
          | ok pushed =>
              cases hRest
              rcases Channel.send_eq_ok hChannel with
                ⟨hAlive, hFree, hPushed⟩
              exact Or.inr
                ⟨message, hFree, rfl,
                  toMessage_built hCopied, hAlive, hPushed⟩

theorem trySend_cases
    {frame : F}
    {frameTx frameTx' : Channel CanMessage}
    {result : Except ClientError Unit}
    (hSend :
      trySend frame frameTx = .ok (result, frameTx')) :
    Sent frameTx result frameTx' := by
  rcases bind_eq_ok_iff.mp hSend with
    ⟨copied, hCopied, hRest⟩
  cases copied with
  | none =>
      cases hRest
      exact Or.inl ⟨_, rfl, rfl⟩
  | some message =>
      cases hChannel : frameTx.trySend message with
      | error refused =>
          simp only [hChannel] at hRest
          cases refused with
          | full back =>
              cases hRest
              exact Or.inl ⟨_, rfl, rfl⟩
          | closed back =>
              cases hRest
              exact Or.inl ⟨_, rfl, rfl⟩
      | ok pushed =>
          simp only [hChannel] at hRest
          cases hRest
          rcases Channel.trySend_eq_ok hChannel with
            ⟨hAlive, hFree, hPushed⟩
          exact Or.inr
            ⟨message, hFree, rfl,
              toMessage_built hCopied, hAlive, hPushed⟩

end CanUsbSender

end UsbCan
