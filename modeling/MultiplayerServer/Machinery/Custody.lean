import Mathlib.Logic.Basic

/-!
# Machinery/Custody — items held under keys, with a pointer back to their holder

Holders keep items under keys, and every item keeps a pointer back to its holder: one relation,
written down twice.  `Custody` says that the two agree and that no item is held twice.

* `Custody.put_iff` — putting an item under a free key keeps custody exactly when it was held
  nowhere;
* `Custody.remove`, `Custody.release`, `Custody.clear` — taking items away keeps it.
-/

namespace Machinery

variable {H K I : Type*}

/-- **Custody**: what a holder holds points back to it, and is held once. -/
structure Custody (held : H → K → Option I) (owner : I → Option H) : Prop where
  owner : ∀ {h k i}, held h k = some i → owner i = some h
  once : ∀ {h h' k k' i}, held h k = some i → held h' k' = some i → h' = h ∧ k' = k

/-- The item is held nowhere. -/
def Loose (held : H → K → Option I) (i : I) : Prop := ∀ h k, held h k ≠ some i

/-- Nothing is held. -/
theorem Custody.empty {held : H → K → Option I} (h : ∀ h k, held h k = none)
    (owner : I → Option H) : Custody held owner where
  owner hi := by simp [h] at hi
  once hi := by simp [h] at hi

namespace Custody

variable {held held' : H → K → Option I} {owner owner' : I → Option H} {h : H} {k : K} {i : I}

/-- Taking items away, from wherever. -/
theorem mono (hc : Custody held owner)
    (hsub : ∀ {h k i}, held' h k = some i → held h k = some i ∧ owner' i = owner i) :
    Custody held' owner' where
  owner hi := (hsub hi).2.trans (hc.owner (hsub hi).1)
  once hi hi' := hc.once (hsub hi).1 (hsub hi').1

/-- Taking away what is under some of the keys. -/
theorem drop {P : H → K → Prop} [∀ h k, Decidable (P h k)] (hc : Custody held owner)
    (hheld : ∀ h' k', held' h' k' = if P h' k' then none else held h' k')
    (howner : ∀ i', owner' i' = owner i') : Custody held' owner' := by
  refine hc.mono fun {h' k' i'} hi => ⟨?_, howner i'⟩
  rw [hheld] at hi
  split at hi
  · cases hi
  · exact hi

variable [DecidableEq H] [DecidableEq K]

theorem remove (hc : Custody held owner)
    (hheld : ∀ h' k', held' h' k' = if h' = h ∧ k' = k then none else held h' k')
    (howner : ∀ i', owner' i' = owner i') : Custody held' owner' := hc.drop hheld howner

/-- An item is taken away, and its pointer is reset. -/
theorem release [DecidableEq I] (hc : Custody held owner) (hi : held h k = some i)
    (hheld : ∀ h' k', held' h' k' = if h' = h ∧ k' = k then none else held h' k')
    (howner : ∀ i', owner' i' = if i' = i then none else owner i') : Custody held' owner' := by
  refine hc.mono fun {h' k' i'} hi' => ?_
  rw [hheld] at hi'
  split at hi'
  · cases hi'
  · rename_i hne
    refine ⟨hi', ?_⟩
    rw [howner, if_neg]
    rintro rfl
    exact hne (hc.once hi hi')

omit [DecidableEq K] in
theorem clear (hc : Custody held owner)
    (hheld : ∀ h' k', held' h' k' = if h' = h then none else held h' k')
    (howner : ∀ i', owner' i' = owner i') : Custody held' owner' := hc.drop hheld howner

/-- **Putting an item under a free key**, and pointing it at its holder, keeps custody exactly when
the item was held nowhere. -/
theorem put_iff [DecidableEq I] (hc : Custody held owner) (hfree : held h k = none)
    (hheld : ∀ h' k', held' h' k' = if h' = h ∧ k' = k then some i else held h' k')
    (howner : ∀ i', owner' i' = if i' = i then some h else owner i') :
    Custody held' owner' ↔ Loose held i := by
  constructor
  · intro hc' h' k' hi
    have hne : ¬ (h' = h ∧ k' = k) := by
      rintro ⟨rfl, rfl⟩
      simp [hfree] at hi
    have hput : held' h k = some i := by simp [hheld]
    have hold : held' h' k' = some i := by rw [hheld, if_neg hne, hi]
    exact hne (hc'.once hput hold)
  · intro hloose
    -- under its new key the item, under any other what was there
    have hcases {h' k' i'} (hi : held' h' k' = some i') :
        (h' = h ∧ k' = k) ∧ i' = i ∨ held h' k' = some i' ∧ i' ≠ i := by
      rw [hheld] at hi
      split at hi
      · exact Or.inl ⟨‹_›, (Option.some.inj hi).symm⟩
      · exact Or.inr ⟨hi, fun heq => hloose h' k' (heq ▸ hi)⟩
    refine ⟨fun hi => ?_, fun hi hi' => ?_⟩
    · rw [howner]
      rcases hcases hi with ⟨⟨rfl, -⟩, rfl⟩ | ⟨hold, hne⟩
      · exact if_pos rfl
      · rw [if_neg hne]
        exact hc.owner hold
    · rcases hcases hi with ⟨⟨rfl, rfl⟩, rfl⟩ | ⟨hold, hne⟩
      · rcases hcases hi' with ⟨heq, -⟩ | ⟨-, hne⟩
        · exact heq
        · exact (hne rfl).elim
      · rcases hcases hi' with ⟨-, heq⟩ | ⟨hold', -⟩
        · exact (hne heq).elim
        · exact hc.once hold hold'

end Custody

end Machinery
