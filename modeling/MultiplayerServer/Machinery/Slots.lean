import Mathlib.Data.Set.Card
import MultiplayerServer.Machinery.Custody

/-!
# Machinery/Slots — how often an item is held

An item may be held under several keys and by several holders: `slots` counts the pairs.  Putting it
under a free key is one slot more (`slots_put`), taking it away one less (`slots_remove`), and a
holder that is cleared gives up the slots it had (`slots_clear`).
-/

namespace Machinery

variable {H K I : Type*}

/-- How many pairs of a holder and a key the item is held under. -/
noncomputable def slots (held : H → K → Option I) (i : I) : ℕ∞ :=
  {p : H × K | held p.1 p.2 = some i}.encard

/-- How many keys of one holder the item is held under. -/
noncomputable def slotsAt (held : H → K → Option I) (h : H) (i : I) : ℕ∞ :=
  {k : K | held h k = some i}.encard

variable {held held' : H → K → Option I} {h : H} {k : K} {i j : I}

/-- An item without a slot is held nowhere. -/
theorem slots_eq_zero : slots held i = 0 ↔ Loose held i := by
  rw [slots, Set.encard_eq_zero, Set.eq_empty_iff_forall_notMem]
  exact Prod.forall

/-- Holders that hold the same give the same slots. -/
theorem slots_congr (hheld : ∀ h k, held' h k = held h k) : slots held' i = slots held i := by
  rw [slots, slots]
  simp only [hheld]

variable [DecidableEq H]

section

variable [DecidableEq K] [DecidableEq I]

/-- **An item put under a free key** has one slot more. -/
theorem slots_put (hfree : held h k = none)
    (hheld : ∀ h' k', held' h' k' = if h' = h ∧ k' = k then some i else held h' k') :
    slots held' j = slots held j + if j = i then 1 else 0 := by
  by_cases hj : j = i
  · subst hj
    have hset : {p : H × K | held' p.1 p.2 = some j}
        = insert (h, k) {p : H × K | held p.1 p.2 = some j} := by
      ext ⟨h', k'⟩
      simp only [Set.mem_ofPred_eq, Set.mem_insert_iff, Prod.mk.injEq, hheld]
      split <;> simp_all
    rw [if_pos rfl, slots, hset, Set.encard_insert_of_notMem (by simp [hfree]), slots]
  · have hset : {p : H × K | held' p.1 p.2 = some j} = {p : H × K | held p.1 p.2 = some j} := by
      ext ⟨h', k'⟩
      simp only [Set.mem_ofPred_eq, hheld]
      split
      · rename_i heq
        obtain ⟨rfl, rfl⟩ := heq
        simp [hfree, Ne.symm hj]
      · rfl
    rw [if_neg hj, add_zero, slots, hset, slots]

/-- **An item taken away** has one slot less. -/
theorem slots_remove (hi : held h k = some i)
    (hheld : ∀ h' k', held' h' k' = if h' = h ∧ k' = k then none else held h' k') :
    slots held j = slots held' j + if j = i then 1 else 0 := by
  have hfree : held' h k = none := by rw [hheld, if_pos ⟨rfl, rfl⟩]
  refine slots_put hfree fun h' k' => ?_
  rw [hheld]
  split
  · rename_i heq
    rw [heq.1, heq.2, hi]
  · rfl

end

/-- **A holder that is cleared** gives up its slots. -/
theorem slots_clear (hheld : ∀ h' k', held' h' k' = if h' = h then none else held h' k') :
    slots held j = slots held' j + slotsAt held h j := by
  have hset : {p : H × K | held p.1 p.2 = some j}
      = {p : H × K | held' p.1 p.2 = some j} ∪ Prod.mk h '' {k : K | held h k = some j} := by
    ext ⟨h', k'⟩
    simp only [Set.mem_ofPred_eq, Set.mem_union, Set.mem_image, Prod.mk.injEq, hheld]
    split
    · rename_i heq
      subst heq
      simp
    · rename_i hne
      simp [Ne.symm hne]
  have hdisjoint : Disjoint {p : H × K | held' p.1 p.2 = some j}
      (Prod.mk h '' {k : K | held h k = some j}) := by
    rw [Set.disjoint_right]
    rintro _ ⟨k, -, rfl⟩
    simp [hheld]
  rw [slots, hset, Set.encard_union_eq hdisjoint,
    (Prod.mk_right_injective h).injOn.encard_image, slots, slotsAt]

end Machinery
