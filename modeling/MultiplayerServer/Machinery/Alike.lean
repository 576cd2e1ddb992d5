import Mathlib.Data.List.Forall2
import Mathlib.Data.Option.Basic

/-!
# Machinery/Alike — computations that cannot tell their inputs apart

Two computations in `Option` on inputs that a relation holds of come to the same, if each of their
parts does: a part that gives related values (`bind_eq_of_rel`), and a loop over related elements
(`mapM_eq_of_forall₂`, `foldlM_eq_of_forall₂`).
-/

namespace Machinery

universe u v

variable {α α' : Type u} {β : Type v} {R : α → α' → Prop}

theorem isSome_eq_of_rel {x : Option α} {x' : Option α'} (h : Option.Rel R x x') :
    x.isSome = x'.isSome := by
  cases h <;> rfl

/-- Values that are related, or none on either side. -/
theorem rel_of_isSome_eq {x : Option α} {x' : Option α'} (hsome : x.isSome = x'.isSome)
    (h : ∀ a ∈ x, ∀ a' ∈ x', R a a') : Option.Rel R x x' := by
  cases x <;> cases x'
  · exact .none
  · cases hsome
  · cases hsome
  · exact .some (h _ rfl _ rfl)

theorem of_rel {x : Option α} {x' : Option α'} {a : α} {a' : α'} (h : Option.Rel R x x')
    (ha : a ∈ x) (ha' : a' ∈ x') : R a a' := by
  obtain rfl := ha
  obtain rfl := ha'
  cases h with
  | some hr => exact hr

theorem map_eq_of_rel {γ : Type*} {x : Option α} {x' : Option α'} {f : α → γ} {f' : α' → γ}
    (h : Option.Rel R x x') (hf : ∀ a a', R a a' → f a = f' a') : x.map f = x'.map f' := by
  cases h with
  | some hr => exact congrArg some (hf _ _ hr)
  | none => rfl

/-- **A sequence** whose first parts give related values, and whose second parts agree on those. -/
theorem bind_eq_of_rel {x : Option α} {x' : Option α'} {f : α → Option β} {f' : α' → Option β}
    (h : Option.Rel R x x') (hf : ∀ a a', R a a' → f a = f' a') : x.bind f = x'.bind f' := by
  cases h with
  | some hr => exact hf _ _ hr
  | none => rfl

/-- **A loop** over related elements, whose turns agree on those. -/
theorem mapM_eq_of_forall₂ {f : α → Option β} {f' : α' → Option β} {l : List α} {l' : List α'}
    (h : List.Forall₂ R l l') (hf : ∀ a a', R a a' → f a = f' a') : l.mapM f = l'.mapM f' := by
  induction h with
  | nil => rfl
  | cons hr _ ih => rw [List.mapM_cons, List.mapM_cons, hf _ _ hr, ih]

/-- …also one with an accumulator. -/
theorem foldlM_eq_of_forall₂ {f : β → α → Option β} {f' : β → α' → Option β} {l : List α}
    {l' : List α'} (h : List.Forall₂ R l l') (hf : ∀ s a a', R a a' → f s a = f' s a') (s : β) :
    l.foldlM f s = l'.foldlM f' s := by
  induction h generalizing s with
  | nil => rfl
  | cons hr _ ih =>
    rw [List.foldlM_cons, List.foldlM_cons, hf _ _ _ hr]
    exact congrArg _ (funext ih)

end Machinery
