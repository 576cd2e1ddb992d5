import Mathlib.Data.List.Basic
import MultiplayerServer.Machinery.Runs

/-!
# Machinery/Yield — what the steps of a run yield

`M.yield f s es`: what `f` reads off the steps that `es` take from `s`, one after the other.  What
is kept in a state and balances at each step balances over a run (`perm_of_exec`), whatever the
order in which it comes and goes.
-/

namespace Machinery

namespace Machine

variable {σ ε α : Type*} {M : Machine σ ε} {s s' : σ} {es : List ε}

/-- What `f` reads off the steps of a run. -/
def yield (M : Machine σ ε) (f : σ → ε → List α) : σ → List ε → List α
  | _, [] => []
  | s, e :: es => f s e ++ (M.step s e).elim [] fun s' => M.yield f s' es

theorem yield_cons {f : σ → ε → List α} {e : ε} (h : M.step s e = some s') :
    M.yield f s (e :: es) = f s e ++ M.yield f s' es := by
  rw [yield, h]
  rfl

/-- What is read off the events alone. -/
theorem yield_event {f : ε → List α} (hex : M.exec s es = some s') :
    M.yield (fun _ e => f e) s es = es.flatMap f := by
  induction es generalizing s with
  | nil => rfl
  | cons e es ih =>
    obtain ⟨s₁, h₁, h₂⟩ := Option.bind_eq_some_iff.mp hex
    rw [yield_cons h₁, ih h₂, List.flatMap_cons]

/-- Two readings in one. -/
theorem yield_append {f g : σ → ε → List α} :
    List.Perm (M.yield (fun s e => f s e ++ g s e) s es) (M.yield f s es ++ M.yield g s es) := by
  induction es generalizing s with
  | nil => rfl
  | cons e es ih =>
    rcases h : M.step s e with _ | s'
    · simp [yield, h]
    · rw [yield_cons h, yield_cons h, yield_cons h, List.append_assoc, List.append_assoc]
      refine List.Perm.append_left _ ((ih.append_left _).trans ?_)
      rw [← List.append_assoc, ← List.append_assoc]
      exact List.perm_append_comm.append_right _

/-- **What balances at each step balances over a run.** -/
theorem perm_of_exec {gains loses : σ → ε → List α} (kept : σ → List α) (Inv : σ → Prop)
    (keep : ∀ s e s', Inv s → M.step s e = some s' →
      Inv s' ∧ List.Perm (kept s' ++ loses s e) (kept s ++ gains s e))
    (hs : Inv s) (hex : M.exec s es = some s') :
    List.Perm (kept s' ++ M.yield loses s es) (kept s ++ M.yield gains s es) := by
  induction es generalizing s with
  | nil => rw [Option.some.inj hex]; rfl
  | cons e es ih =>
    obtain ⟨s₁, h₁, h₂⟩ := Option.bind_eq_some_iff.mp hex
    obtain ⟨hs₁, hstep⟩ := keep s e s₁ hs h₁
    rw [yield_cons h₁, yield_cons h₁, ← List.append_assoc, ← List.append_assoc]
    have hswap (a b c : List α) : List.Perm (a ++ b ++ c) (a ++ c ++ b) := by
      rw [List.append_assoc, List.append_assoc]
      exact List.perm_append_comm.append_left a
    calc List.Perm (kept s' ++ loses s e ++ M.yield loses s₁ es)
          (kept s' ++ M.yield loses s₁ es ++ loses s e) := hswap _ _ _
      List.Perm _ (kept s₁ ++ M.yield gains s₁ es ++ loses s e) := (ih hs₁ h₂).append_right _
      List.Perm _ (kept s₁ ++ loses s e ++ M.yield gains s₁ es) := hswap _ _ _
      List.Perm _ (kept s ++ gains s e ++ M.yield gains s₁ es) := hstep.append_right _

end Machine

end Machinery
