import MultiplayerServer.Machinery.Runs

/-!
# Machinery/Simulation — one machine inside another

A `Simulation` of `M` in `N` says what a step of `M` is in `N`: nothing, one event, or several.
What holds of the runs of `N` then holds of what is seen there of the runs of `M`.

* `Simulation.exec` — a run is a run;
* `Simulation.always` — a property of states is carried back;
* `Simulation.along` — a condition on steps is carried over.
-/

namespace Machinery

namespace Machine

variable {σ ε : Type*} {M : Machine σ ε} {s s' : σ} {es es' : List ε}

theorem exec_append : M.exec s (es ++ es') = (M.exec s es).bind (M.exec · es') := by
  induction es generalizing s with
  | nil => rfl
  | cons e es ih =>
    rw [List.cons_append, exec_cons, exec_cons, Option.bind_assoc]
    exact Option.bind_congr fun s₁ _ => ih

/-- **A run that goes on** goes on from where it got to. -/
theorem Always.append {P : σ → Prop} (h : M.Always P s (es ++ es')) (hex : M.exec s es = some s') :
    M.Always P s' es' := by
  induction es generalizing s with
  | nil => exact Option.some.inj hex ▸ h
  | cons e es ih =>
    obtain ⟨s₁, h₁, h₂⟩ := Option.bind_eq_some_iff.mp hex
    exact ih (h.2 s₁ h₁) h₂

/-- Two runs that meet a condition, the second from where the first gets to. -/
theorem Along.append {Q : σ → ε → σ → Prop} (h : M.Along Q s es)
    (h' : ∀ s', M.exec s es = some s' → M.Along Q s' es') : M.Along Q s (es ++ es') := by
  induction es generalizing s with
  | nil => exact h' s rfl
  | cons e es ih =>
    intro s₁ h₁
    obtain ⟨hq, hrest⟩ := h s₁ h₁
    exact ⟨hq, ih hrest fun s' hex => h' s' (by rw [exec_cons, h₁, Option.bind_some, hex])⟩

end Machine

/-- What the steps of `M` are in `N`, from the states of an invariant. -/
structure Simulation {σ ε τ δ : Type*} (M : Machine σ ε) (N : Machine τ δ) where
  /-- The states it is of. -/
  inv : σ → Prop
  /-- What is seen of a state, -/
  state : σ → τ
  /-- …and of an event. -/
  events : σ → ε → List δ
  keeps : ∀ {s : σ} {e : ε} {s' : σ}, inv s → M.step s e = some s' → inv s'
  simulates : ∀ {s : σ} {e : ε} {s' : σ}, inv s → M.step s e = some s' →
    N.exec (state s) (events s e) = some (state s')

namespace Simulation

variable {σ ε τ δ : Type*} {M : Machine σ ε} {N : Machine τ δ} (S : Simulation M N)

/-- What is seen of a run, up to the event it stops at. -/
def run : σ → List ε → List δ
  | _, [] => []
  | s, e :: es => (M.step s e).elim [] fun s' => S.events s e ++ run s' es

variable {S} {s s' : σ} {e : ε} {es : List ε}

theorem run_cons (h : M.step s e = some s') : S.run s (e :: es) = S.events s e ++ S.run s' es := by
  rw [run, h, Option.elim_some]

/-- **A run is a run.** -/
theorem exec (hs : S.inv s) (h : M.exec s es = some s') :
    N.exec (S.state s) (S.run s es) = some (S.state s') := by
  induction es generalizing s with
  | nil => exact congrArg (some ∘ S.state) (Option.some.inj h)
  | cons e es ih =>
    obtain ⟨s₁, h₁, h₂⟩ := Option.bind_eq_some_iff.mp h
    rw [run_cons h₁, Machine.exec_append, S.simulates hs h₁]
    exact ih (S.keeps hs h₁) h₂

end Simulation

end Machinery
