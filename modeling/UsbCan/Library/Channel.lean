import Mathlib.Data.List.Basic

/-
  Bounded first-in first-out channels with any number of
  senders and one receiver.

  An operation that waits is undefined (`none`) as long as
  it has to wait.  No place is kept for a sender that waits:
  a freed place is open to whoever sends next.  Sending
  fails once the receiver is gone; receiving ends once the
  channel is empty and no sender is left.

  Key definitions include:
    * `Channel`
    * `Channel.send`, `Channel.trySend`, `Channel.recv`

  Key theorems include:
    * `Channel.send_eq_ok`
    * `Channel.trySend_eq_ok`
    * `Channel.recv_eq_some`
-/

------------------------------------------------------------
-- Channels
------------------------------------------------------------

/- A channel that holds at most `capacity` values. -/
@[ext] structure Channel (α : Type) where
  capacity : Nat
  queue : List α
  queue_le : queue.length ≤ capacity
  receiverAlive : Bool
  senders : Nat
deriving DecidableEq, Repr

namespace Channel

variable {α : Type}

/- Why a value was not sent at once. -/
inductive TrySendError (α : Type) where
| full (value : α)
| closed (value : α)
deriving DecidableEq, Repr

/- An empty channel with one sender and its receiver. -/
def bounded (capacity : Nat) : Channel α where
  capacity := capacity
  queue := []
  queue_le := Nat.zero_le capacity
  receiverAlive := true
  senders := 1

/- Put a value at the end of a channel with a free place. -/
def push
    (channel : Channel α)
    (value : α)
    (hFree : channel.queue.length < channel.capacity) :
    Channel α :=
  { channel with
    queue := channel.queue ++ [value]
    queue_le := by
      rw [List.length_append]
      exact hFree }

/- Send a value, waiting for a free place. -/
def send
    (channel : Channel α)
    (value : α) :
    Option (Except α (Channel α)) :=
  if channel.receiverAlive then
    if hFree : channel.queue.length < channel.capacity then
      some (.ok (channel.push value hFree))
    else
      none
  else
    some (.error value)

/- Send a value if there is a free place. -/
def trySend
    (channel : Channel α)
    (value : α) :
    Except (TrySendError α) (Channel α) :=
  if channel.receiverAlive then
    if hFree : channel.queue.length < channel.capacity then
      .ok (channel.push value hFree)
    else
      .error (.full value)
  else
    .error (.closed value)

/-
  Receive the first value, waiting for one; nothing if the
  channel is empty and no sender is left.
-/
def recv
    (channel : Channel α) :
    Option (Option α × Channel α) :=
  match hQueue : channel.queue with
  | value :: rest =>
      some (some value,
        { channel with
          queue := rest
          queue_le := by
            have hLe := channel.queue_le
            rw [hQueue, List.length_cons] at hLe
            omega })
  | [] =>
      if channel.senders = 0 then
        some (none, channel)
      else
        none

/- Receive the first value if there is one. -/
def tryRecv (channel : Channel α) : Option (α × Channel α) :=
  match channel.recv with
  | some (some value, channel') => some (value, channel')
  | _ => none

def addSender (channel : Channel α) : Channel α :=
  { channel with senders := channel.senders + 1 }

def dropSender (channel : Channel α) : Channel α :=
  { channel with senders := channel.senders - 1 }

/- Values nobody will receive disappear with the receiver. -/
def dropReceiver (channel : Channel α) : Channel α :=
  { channel with
    queue := []
    queue_le := Nat.zero_le channel.capacity
    receiverAlive := false }

------------------------------------------------------------
-- What the Operations Do
------------------------------------------------------------

@[simp] theorem push_queue
    (channel : Channel α)
    (value : α)
    (hFree : channel.queue.length < channel.capacity) :
    (channel.push value hFree).queue =
      channel.queue ++ [value] := rfl

/- A value that was sent is the last one in the channel. -/
theorem send_eq_ok
    {channel channel' : Channel α}
    {value : α}
    (hSend : channel.send value = some (.ok channel')) :
    channel.receiverAlive = true ∧
      ∃ hFree, channel' = channel.push value hFree := by
  unfold send at hSend
  split at hSend
  · rename_i hAlive
    split at hSend
    · rename_i hFree
      cases hSend
      exact ⟨hAlive, hFree, rfl⟩
    · cases hSend
  · cases hSend

/- Only the loss of the receiver makes sending fail. -/
theorem send_eq_error
    {channel : Channel α}
    {value back : α}
    (hSend : channel.send value = some (.error back)) :
    channel.receiverAlive = false := by
  unfold send at hSend
  split at hSend
  · split at hSend <;> cases hSend
  · rename_i hGone
    simpa using hGone

theorem trySend_eq_ok
    {channel channel' : Channel α}
    {value : α}
    (hSend : channel.trySend value = .ok channel') :
    channel.receiverAlive = true ∧
      ∃ hFree, channel' = channel.push value hFree := by
  unfold trySend at hSend
  split at hSend
  · rename_i hAlive
    split at hSend
    · rename_i hFree
      cases hSend
      exact ⟨hAlive, hFree, rfl⟩
    · cases hSend
  · cases hSend

/- A received value was the first one in the channel. -/
theorem recv_eq_some
    {channel channel' : Channel α}
    {value : α}
    (hRecv : channel.recv = some (some value, channel')) :
    channel.queue = value :: channel'.queue ∧
      channel'.receiverAlive = channel.receiverAlive := by
  unfold recv at hRecv
  split at hRecv
  · rename_i first rest hQueue
    cases hRecv
    exact ⟨hQueue, rfl⟩
  · split at hRecv <;> cases hRecv

theorem recv_cons
    {channel : Channel α}
    {value : α}
    {rest : List α}
    (hQueue : channel.queue = value :: rest) :
    ∃ channel',
      channel.recv = some (some value, channel') ∧
        channel'.queue = rest := by
  unfold recv
  split
  · rename_i first left hCons
    rw [hQueue] at hCons
    cases hCons
    exact ⟨_, rfl, rfl⟩
  · rename_i hNil
    rw [hQueue] at hNil
    cases hNil

theorem recv_nil
    {channel : Channel α}
    (hQueue : channel.queue = [])
    (hSenders : channel.senders = 0) :
    channel.recv = some (none, channel) := by
  unfold recv
  split
  · rename_i first left hCons
    rw [hQueue] at hCons
    cases hCons
  · exact if_pos hSenders

/- Receiving waits while the channel is empty and in use. -/
theorem recv_cases (channel : Channel α) :
    (∃ value channel',
        channel.recv = some (value, channel')) ∨
      (channel.queue = [] ∧ channel.senders ≠ 0 ∧
        channel.recv = none) := by
  unfold recv
  split
  · exact Or.inl ⟨_, _, rfl⟩
  · rename_i hQueue
    split
    · exact Or.inl ⟨_, _, rfl⟩
    · rename_i hSenders
      exact Or.inr ⟨hQueue, hSenders, rfl⟩

/- Without senders receiving does not wait. -/
theorem recv_ne_none
    (channel : Channel α)
    (hSenders : channel.senders = 0) :
    channel.recv ≠ none := by
  intro hNone
  rcases channel.recv_cases with
    ⟨value, channel', hSome⟩ | ⟨_, hSome, _⟩
  · rw [hNone] at hSome
    cases hSome
  · exact hSome hSenders

/- Nothing more is received when all values have been. -/
theorem recv_end_iff
    {received all : List α}
    (channel : Channel α)
    (hSenders : channel.senders = 0)
    (hAll : received ++ channel.queue = all) :
    channel.recv = some (none, channel) ↔
      received = all := by
  constructor
  · intro hRecv
    cases hQueue : channel.queue with
    | nil =>
        rw [hQueue, List.append_nil] at hAll
        exact hAll
    | cons value rest =>
        rcases recv_cons hQueue with ⟨channel', hSome, _⟩
        rw [hRecv] at hSome
        cases hSome
  · rintro rfl
    exact recv_nil (List.append_right_eq_self.mp hAll)
      hSenders

/- Receiving changes neither the room nor the senders. -/
theorem recv_capacity
    {channel channel' : Channel α}
    {value : Option α}
    (hRecv : channel.recv = some (value, channel')) :
    channel'.capacity = channel.capacity := by
  unfold recv at hRecv
  split at hRecv
  · cases hRecv
    rfl
  · split at hRecv
    · cases hRecv
      rfl
    · cases hRecv

theorem recv_senders
    {channel channel' : Channel α}
    {value : Option α}
    (hRecv : channel.recv = some (value, channel')) :
    channel'.senders = channel.senders := by
  unfold recv at hRecv
  split at hRecv
  · cases hRecv
    rfl
  · split at hRecv
    · cases hRecv
      rfl
    · cases hRecv

end Channel
