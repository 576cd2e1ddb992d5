import Mathlib.Data.Option.Basic

/-!
# Machinery/Asserts — computations that an assertion can stop

A computation in `Option` is `none` where an assertion fails.  The rules say when a sequence and a
loop get through: exactly when every part does that they come to.
-/

namespace Machinery

universe u v

variable {α : Type u} {β : Type v}

/-- **A sequence** gets through when its first part does, and its second from there. -/
theorem isSome_bind_iff {x : Option α} {f : α → Option β} :
    (x.bind f).isSome ↔ ∃ a, x = some a ∧ (f a).isSome := by
  cases x <;> simp

/-- …in particular when both do, if the second asserts nothing of what the first gave. -/
theorem isSome_bind_iff_and {x : Option α} {f : α → Option β} {p : Prop}
    (hf : ∀ a, (f a).isSome ↔ p) : (x.bind f).isSome ↔ x.isSome ∧ p := by
  cases x <;> simp [hf]

theorem isSome_bind_iff_of_isSome {x : Option α} {f : α → Option β} {p : Prop} (hx : x.isSome)
    (hf : ∀ a, (f a).isSome ↔ p) : (x.bind f).isSome ↔ p :=
  (isSome_bind_iff_and hf).trans (and_iff_right hx)

theorem isSome_bind_iff_left {x : Option α} {f : α → Option β} (hf : ∀ a, (f a).isSome) :
    (x.bind f).isSome ↔ x.isSome :=
  (isSome_bind_iff_and fun a => iff_true_intro (hf a)).trans (iff_of_eq (and_true _))

/-- …or, where the first does, when the second does for what the first gives. -/
theorem isSome_bind_iff_of_mem {x : Option α} {f : α → Option β} {p : α → Prop}
    (hf : ∀ a, (f a).isSome ↔ p a) : (x.isSome → (x.bind f).isSome) ↔ ∀ a ∈ x, p a := by
  rcases x with _ | a
  · simp
  · simp [hf a]

/-- **A loop** gets through when each of its turns does. -/
theorem isSome_mapM_iff {f : α → Option β} {l : List α} :
    (l.mapM f).isSome ↔ ∀ a ∈ l, (f a).isSome := by
  induction l with
  | nil => simp
  | cons a l ih =>
    rw [List.mapM_cons, List.forall_mem_cons, ← ih]
    rcases f a with _ | b
    · simp
    · rcases l.mapM f <;> simp

/-- **What every turn gives**, a loop that gets through gives. -/
theorem forall_mem_of_mapM {f : α → Option β} {P : β → Prop} {l : List α} {l' : List β}
    (hf : ∀ a ∈ l, ∀ b, f a = some b → P b) (h : l.mapM f = some l') : ∀ b ∈ l', P b := by
  induction l generalizing l' with
  | nil =>
    obtain rfl : [] = l' := by simpa using h
    exact fun b hb => absurd hb List.not_mem_nil
  | cons a l ih =>
    rw [List.mapM_cons] at h
    obtain ⟨b, hb, h⟩ := Option.bind_eq_some_iff.mp h
    obtain ⟨bs, hbs, h⟩ := Option.bind_eq_some_iff.mp h
    obtain rfl := Option.some.inj h
    obtain ⟨ha, hl⟩ := List.forall_mem_cons.mp hf
    exact List.forall_mem_cons.mpr ⟨ha b hb, ih hl hbs⟩

/-- **A loop over what was made of a list** gives the list back where each turn gives back what its
element was made of. -/
theorem mapM_map_eq_some {f : α → Option β} {g : β → α} {l : List β}
    (h : ∀ b ∈ l, f (g b) = some b) : (l.map g).mapM f = some l := by
  induction l with
  | nil => rfl
  | cons b l ih =>
    obtain ⟨hb, hl⟩ := List.forall_mem_cons.mp h
    rw [List.map_cons, List.mapM_cons, hb, ih hl]
    rfl

/-- **What every turn of a loop keeps**, a loop that gets through keeps. -/
theorem foldlM_keeps {f : β → α → Option β} {P : β → Prop} {l : List α} {s s' : β}
    (hf : ∀ a ∈ l, ∀ s s', P s → f s a = some s' → P s') (hs : P s)
    (h : l.foldlM f s = some s') : P s' := by
  induction l generalizing s with
  | nil => exact Option.some.inj h ▸ hs
  | cons a l ih =>
    rw [List.foldlM_cons] at h
    obtain ⟨s₁, h₁, h₂⟩ := Option.bind_eq_some_iff.mp h
    obtain ⟨ha, hl⟩ := List.forall_mem_cons.mp hf
    exact ih hl (ha s s₁ hs h₁) h₂

/-- …and so does one with an accumulator of which no turn asserts anything. -/
theorem isSome_foldlM_iff {f : β → α → Option β}
    (hacc : ∀ s s' a, (f s a).isSome → (f s' a).isSome) {l : List α} {s : β} :
    (l.foldlM f s).isSome ↔ ∀ a ∈ l, (f s a).isSome := by
  induction l generalizing s with
  | nil => simp
  | cons a l ih =>
    rw [List.foldlM_cons, List.forall_mem_cons]
    refine isSome_bind_iff.trans ⟨?_, ?_⟩
    · rintro ⟨s', ha, hl⟩
      exact ⟨by simp [ha], fun b hb => hacc _ _ _ (ih.mp hl b hb)⟩
    · rintro ⟨ha, hl⟩
      obtain ⟨s', hs'⟩ := Option.isSome_iff_exists.mp ha
      exact ⟨s', hs', ih.mpr fun b hb => hacc _ _ _ (hl b hb)⟩

end Machinery
