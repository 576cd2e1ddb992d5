import MultiplayerServer.Machinery.Simulation

/-!
# Machinery/Progress — what a machine can get to, if it is let

`CanReach A s s'`: some events that `A` admits lead from `s` to `s'`.  Where every state of an
invariant in which something is left to do leads on to one in which less is left, a state can be
got to in which nothing is (`exists_canReach`).
-/

namespace Machinery

namespace Machine

variable {σ ε : Type*} {M : Machine σ ε} {A : ε → Prop} {s s' s'' : σ} {e : ε}

/-- Some events that `A` admits lead from `s` to `s'`. -/
def CanReach (M : Machine σ ε) (A : ε → Prop) (s s' : σ) : Prop :=
  ∃ es, (∀ e ∈ es, A e) ∧ M.exec s es = some s'

@[refl] theorem CanReach.refl (s : σ) : M.CanReach A s s := ⟨[], nofun, rfl⟩

theorem CanReach.trans (h : M.CanReach A s s') (h' : M.CanReach A s' s'') :
    M.CanReach A s s'' := by
  obtain ⟨es, hes, hex⟩ := h
  obtain ⟨es', hes', hex'⟩ := h'
  refine ⟨es ++ es', List.forall_mem_append.mpr ⟨hes, hes'⟩, ?_⟩
  rw [exec_append, hex, Option.bind_some, hex']

theorem canReach_of_step (he : A e) (h : M.step s e = some s') : M.CanReach A s s' :=
  ⟨[e], List.forall_mem_singleton.mpr he, by rw [exec_cons, h]; rfl⟩

/-- **The progress rule**: where something is left to do, less can be left. -/
theorem exists_canReach (Inv : σ → Prop) (left : σ → ℕ)
    (h : ∀ s, Inv s → left s ≠ 0 → ∃ e s', A e ∧ M.step s e = some s' ∧ Inv s' ∧ left s' < left s)
    (hs : Inv s) : ∃ s', M.CanReach A s s' ∧ Inv s' ∧ left s' = 0 := by
  induction hn : left s using Nat.strong_induction_on generalizing s with
  | _ n ih =>
    subst hn
    by_cases hleft : left s = 0
    · exact ⟨s, .refl s, hs, hleft⟩
    · obtain ⟨e, s', he, hstep, hs', hless⟩ := h s hs hleft
      obtain ⟨s'', hreach, hdone⟩ := ih _ hless hs' rfl
      exact ⟨s'', (canReach_of_step he hstep).trans hreach, hdone⟩

end Machine

end Machinery
