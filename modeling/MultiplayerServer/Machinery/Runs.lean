import Mathlib.Data.Option.Basic
import Mathlib.Data.List.Infix

/-!
# Machinery/Runs — the runs of a partial step function

A `Machine` takes an event in a state, or refuses it.  Two ways of reading a run:

* `Always P s es` — `P` holds of every state the events lead through, both ends included;
* `Along Q s es` — `Q` holds of every step that is taken.

A run stops at the first refused event, and both readings stop with it.  The rules at the end are
the inductions a client needs: an invariant kept by the steps a condition admits
(`always_of_along`), and its exact form, where breaking the condition breaks the property
(`always_iff_along`).
-/

namespace Machinery

/-- A partial step function: `none` is an event the state does not admit. -/
structure Machine (σ ε : Type*) where
  /-- The state an event leads to. -/
  step : σ → ε → Option σ

namespace Machine

variable {σ ε ε' : Type*} (M : Machine σ ε)

/-- The machine whose events name those of `M`. -/
def comap (f : ε' → ε) : Machine σ ε' := ⟨fun s e => M.step s (f e)⟩

@[simp] theorem comap_step (f : ε' → ε) (s : σ) (e : ε') :
    (M.comap f).step s e = M.step s (f e) := rfl

/-- The state a list of events leads to. -/
def exec : σ → List ε → Option σ
  | s, [] => some s
  | s, e :: es => (M.step s e).bind fun s' => exec s' es

/-- `P` holds of every state a run goes through. -/
def Always (P : σ → Prop) : σ → List ε → Prop
  | s, [] => P s
  | s, e :: es => P s ∧ ∀ s', M.step s e = some s' → Always P s' es

/-- `Q` holds of every step a run takes. -/
def Along (Q : σ → ε → σ → Prop) : σ → List ε → Prop
  | _, [] => True
  | s, e :: es => ∀ s', M.step s e = some s' → Q s e s' ∧ Along Q s' es

@[simp] theorem exec_nil (s : σ) : M.exec s [] = some s := rfl

@[simp] theorem exec_cons (s : σ) (e : ε) (es : List ε) :
    M.exec s (e :: es) = (M.step s e).bind fun s' => M.exec s' es := rfl

@[simp] theorem always_nil {P : σ → Prop} {s : σ} : M.Always P s [] ↔ P s := Iff.rfl

@[simp] theorem always_cons {P : σ → Prop} {s : σ} {e : ε} {es : List ε} :
    M.Always P s (e :: es) ↔ P s ∧ ∀ s', M.step s e = some s' → M.Always P s' es := Iff.rfl

@[simp] theorem along_nil {Q : σ → ε → σ → Prop} {s : σ} : M.Along Q s [] ↔ True := Iff.rfl

@[simp] theorem along_cons {Q : σ → ε → σ → Prop} {s : σ} {e : ε} {es : List ε} :
    M.Along Q s (e :: es) ↔ ∀ s', M.step s e = some s' → Q s e s' ∧ M.Along Q s' es := Iff.rfl

variable {M}

theorem Always.head {P : σ → Prop} {s : σ} {es : List ε} (h : M.Always P s es) : P s := by
  cases es with
  | nil => exact h
  | cons e es => exact h.1

/-- **`Always` is what its name says**: the property, at the end of every prefix of the run. -/
theorem always_iff_exec {P : σ → Prop} {s : σ} {es : List ε} :
    M.Always P s es ↔ ∀ p s', p <+: es → M.exec s p = some s' → P s' := by
  induction es generalizing s with
  | nil =>
    refine ⟨fun hs p s' hp hex => ?_, fun h => h [] s List.prefix_rfl rfl⟩
    rw [List.prefix_nil.mp hp] at hex
    exact Option.some.inj hex ▸ hs
  | cons e es ih =>
    rw [always_cons]
    constructor
    · rintro ⟨hs, hes⟩ p s' hp hex
      cases p with
      | nil => exact Option.some.inj hex ▸ hs
      | cons d p =>
        obtain ⟨rfl, hp'⟩ := List.cons_prefix_cons.mp hp
        obtain ⟨s₁, h₁, h₂⟩ := Option.bind_eq_some_iff.mp hex
        exact ih.mp (hes s₁ h₁) p s' hp' h₂
    · intro h
      refine ⟨h [] s List.nil_prefix rfl, fun s₁ h₁ => ih.mpr fun p s' hp hex => ?_⟩
      refine h (e :: p) s' (List.cons_prefix_cons.mpr ⟨rfl, hp⟩) ?_
      rw [exec_cons, h₁, Option.bind_some, hex]

/-- …in particular at its own end. -/
theorem Always.last {P : σ → Prop} {s s' : σ} {es : List ε} (h : M.Always P s es)
    (hex : M.exec s es = some s') : P s' := always_iff_exec.mp h es s' List.prefix_rfl hex

theorem Always.mono {P P' : σ → Prop} (hPP' : ∀ s, P s → P' s) {s : σ} {es : List ε}
    (h : M.Always P s es) : M.Always P' s es := by
  induction es generalizing s with
  | nil => exact hPP' s h
  | cons e es ih => exact ⟨hPP' s h.1, fun s' hstep => ih (h.2 s' hstep)⟩

/-- What every event of a run obeys wherever it is taken, the run obeys throughout. -/
theorem along_of_forall {Q : σ → ε → σ → Prop} {s : σ} {es : List ε}
    (h : ∀ e ∈ es, ∀ s s', M.step s e = some s' → Q s e s') : M.Along Q s es := by
  induction es generalizing s with
  | nil => trivial
  | cons e es ih =>
    intro s' hstep
    exact ⟨h e List.mem_cons_self s s' hstep, ih fun d hd => h d (List.mem_cons_of_mem _ hd)⟩

/-- A condition on events alone, along a run that no event is refused in. -/
theorem along_iff_forall_mem {C : ε → Prop} (htotal : ∀ s e, ∃ s', M.step s e = some s') {s : σ}
    {es : List ε} : M.Along (fun _ e _ => C e) s es ↔ ∀ e ∈ es, C e := by
  refine ⟨fun h => ?_, fun h => along_of_forall fun e he _ _ _ => h e he⟩
  induction es generalizing s with
  | nil => exact fun e he => absurd he List.not_mem_nil
  | cons e es ih =>
    obtain ⟨s', hstep⟩ := htotal s e
    exact List.forall_mem_cons.mpr ⟨(h s' hstep).1, ih (h s' hstep).2⟩

/-! ## The rules -/

/-- **The invariant rule**: an invariant kept by every step that meets `C` holds throughout a run
all of whose steps do. -/
theorem always_of_along (Inv : σ → Prop) {C : σ → ε → σ → Prop}
    (keep : ∀ s e s', Inv s → M.step s e = some s' → C s e s' → Inv s')
    {s : σ} {es : List ε} (hs : Inv s) (hC : M.Along C s es) : M.Always Inv s es := by
  induction es generalizing s with
  | nil => exact hs
  | cons e es ih =>
    refine ⟨hs, fun s' hstep => ?_⟩
    obtain ⟨hc, hrest⟩ := hC s' hstep
    exact ih (keep s e s' hs hstep hc) hrest

/-- …and one kept by every step holds throughout every run. -/
theorem always_of_step (Inv : σ → Prop)
    (keep : ∀ s e s', Inv s → M.step s e = some s' → Inv s') {s : σ} {es : List ε} (hs : Inv s) :
    M.Always Inv s es := by
  induction es generalizing s with
  | nil => exact hs
  | cons e es ih => exact ⟨hs, fun s' hstep => ih (keep s e s' hs hstep)⟩

/-- **The exact rule**: where `Inv` is kept under `C` and implies `P`, and a step that breaks `C`
breaks `P`, the property holds throughout exactly the runs whose steps all meet `C`. -/
theorem always_iff_along (Inv : σ → Prop) {P : σ → Prop} {C : σ → ε → σ → Prop}
    (hP : ∀ s, Inv s → P s)
    (keep : ∀ s e s', Inv s → M.step s e = some s' → C s e s' → Inv s')
    (brk : ∀ s e s', Inv s → M.step s e = some s' → P s' → C s e s')
    {s : σ} {es : List ε} (hs : Inv s) : M.Always P s es ↔ M.Along C s es := by
  constructor
  · intro h
    induction es generalizing s with
    | nil => trivial
    | cons e es ih =>
      intro s' hstep
      have hrest := h.2 s' hstep
      have hc : C s e s' := brk s e s' hs hstep hrest.head
      exact ⟨hc, ih (keep s e s' hs hstep hc) hrest⟩
  · exact fun h => (always_of_along Inv keep hs h).mono hP

/-- **The step rule**: what every step from a state of an invariant obeys, a run obeys
throughout. -/
theorem along_of_step (Inv : σ → Prop) {Q : σ → ε → σ → Prop}
    (keep : ∀ s e s', Inv s → M.step s e = some s' → Inv s')
    (hQ : ∀ s e s', Inv s → M.step s e = some s' → Q s e s')
    {s : σ} {es : List ε} (hs : Inv s) : M.Along Q s es := by
  induction es generalizing s with
  | nil => trivial
  | cons e es ih => exact fun s' hstep => ⟨hQ s e s' hs hstep, ih (keep s e s' hs hstep)⟩

/-- …and what the steps that meet `C` obey, a run all of whose steps do obeys throughout. -/
theorem along_of_along (Inv : σ → Prop) {Q C : σ → ε → σ → Prop}
    (keep : ∀ s e s', Inv s → M.step s e = some s' → C s e s' → Inv s')
    (hQ : ∀ s e s', Inv s → M.step s e = some s' → C s e s' → Q s e s')
    {s : σ} {es : List ε} (hs : Inv s) (hC : M.Along C s es) : M.Along Q s es := by
  induction es generalizing s with
  | nil => trivial
  | cons e es ih =>
    intro s' hstep
    obtain ⟨hc, hrest⟩ := hC s' hstep
    exact ⟨hQ s e s' hs hstep hc, ih (keep s e s' hs hstep hc) hrest⟩

/-- **The exact rule for steps**: a law and a condition that agree wherever an invariant holds that
the condition keeps, agree on runs. -/
theorem along_iff_along (Inv : σ → Prop) {Q C : σ → ε → σ → Prop}
    (keep : ∀ s e s', Inv s → M.step s e = some s' → C s e s' → Inv s')
    (hQC : ∀ s e s', Inv s → M.step s e = some s' → (Q s e s' ↔ C s e s'))
    {s : σ} {es : List ε} (hs : Inv s) : M.Along Q s es ↔ M.Along C s es := by
  induction es generalizing s with
  | nil => exact Iff.rfl
  | cons e es ih =>
    rw [along_cons, along_cons]
    refine forall_congr' fun s' => forall_congr' fun hstep => ?_
    rw [hQC s e s' hs hstep]
    exact and_congr_right fun hc => ih (keep s e s' hs hstep hc)

/-- Two step conditions that agree wherever an invariant of the machine holds agree on its runs. -/
theorem along_congr (Inv : σ → Prop) {Q C : σ → ε → σ → Prop}
    (keep : ∀ s e s', Inv s → M.step s e = some s' → Inv s')
    (hQC : ∀ s e s', Inv s → M.step s e = some s' → (Q s e s' ↔ C s e s'))
    {s : σ} {es : List ε} (hs : Inv s) : M.Along Q s es ↔ M.Along C s es :=
  along_iff_along Inv (fun s e s' h hstep _ => keep s e s' h hstep) hQC hs

/-- **The counting rule**: what each step gains or loses one of, a run has as many of as it has
gained and not lost. -/
theorem exec_count {m : σ → ℕ} {gains loses : ε → Bool}
    (h : ∀ s e s', M.step s e = some s' → m s' + (loses e).toNat = m s + (gains e).toNat)
    {s s' : σ} {es : List ε} (hex : M.exec s es = some s') :
    m s' + es.countP loses = m s + es.countP gains := by
  induction es generalizing s with
  | nil => rw [Option.some.inj hex]; rfl
  | cons e es ih =>
    obtain ⟨s₁, h₁, h₂⟩ := Option.bind_eq_some_iff.mp hex
    have hstep := h s e s₁ h₁
    have hrest := ih h₂
    rw [List.countP_cons, List.countP_cons]
    have htoNat (b : Bool) : (if b = true then 1 else 0) = b.toNat := by cases b <;> rfl
    rw [htoNat, htoNat]
    omega

/-- **The last word**: where each event says what is read, or leaves it as it was, what is read
after a run is what was said last. -/
theorem read_exec {α : Type*} {read : σ → Option α} {said : ε → Option α}
    (h : ∀ s e s', M.step s e = some s' → read s' = (said e).or (read s))
    {s s' : σ} {es : List ε} (hex : M.exec s es = some s') :
    read s' = (es.reverse.findSome? said).or (read s) := by
  induction es generalizing s with
  | nil => rw [Option.some.inj hex]; rfl
  | cons e es ih =>
    obtain ⟨s₁, h₁, h₂⟩ := Option.bind_eq_some_iff.mp hex
    rw [ih h₂, h s e s₁ h₁, List.reverse_cons, List.findSome?_append, List.findSome?_singleton,
      Option.or_assoc]

end Machine

end Machinery
