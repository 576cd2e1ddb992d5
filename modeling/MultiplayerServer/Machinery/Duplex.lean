import Mathlib.Data.List.Infix
import Mathlib.Logic.Function.Basic
import MultiplayerServer.Machinery.Runs

/-!
# Machinery/Duplex — two machines at the ends of a pair of wires

Two runs of one machine, each of which takes some of its events off a wire, and puts what others of
them yield on a wire to the other end.

* `Duplex.forall_ends_step` — what an event keeps at its own end, it keeps at both;
* `Duplex.account_step` — what an end has got, followed by what is on its wire, is what the other
  end has given.
-/

namespace Machinery

/-- Two ends, with what is on the way to each of them. -/
structure Duplex (σ β : Type*) where
  ends : Bool → σ
  wires : Bool → List β

namespace Duplex

variable {σ ε β : Type*} [DecidableEq β]

/-- An event at an end: it takes what comes first on its wire, and puts what it has on the other. -/
def step (M : Machine σ ε) (takes puts : ε → List β) (d : Duplex σ β) (e : Bool × ε) :
    Option (Duplex σ β) :=
  if takes e.2 <+: d.wires e.1 then
    (M.step (d.ends e.1) e.2).map fun s =>
      { ends := Function.update d.ends e.1 s
        wires := fun side =>
          if side = e.1 then (d.wires side).drop (takes e.2).length else d.wires side ++ puts e.2 }
  else none

/-- The runs of the two of them. -/
def machine (M : Machine σ ε) (takes puts : ε → List β) : Machine (Duplex σ β) (Bool × ε) :=
  ⟨step M takes puts⟩

variable {M : Machine σ ε} {takes puts : ε → List β} {d d' : Duplex σ β} {e : Bool × ε}

theorem step_eq (h : (machine M takes puts).step d e = some d') :
    ∃ rest s, d.wires e.1 = takes e.2 ++ rest ∧ M.step (d.ends e.1) e.2 = some s
      ∧ d' = { ends := Function.update d.ends e.1 s
               wires := fun side => if side = e.1 then rest else d.wires side ++ puts e.2 } := by
  obtain ⟨⟨rest, hrest⟩, h⟩ := Option.ite_none_right_eq_some.mp h
  obtain ⟨s, hs, rfl⟩ := Option.map_eq_some_iff.mp h
  refine ⟨rest, s, hrest.symm, hs, ?_⟩
  congr 1
  funext side
  split
  · rename_i hside
    rw [hside, ← hrest, List.drop_left]
  · rfl

/-- **What an event keeps at its own end**, it keeps at both. -/
theorem forall_ends_step {P : σ → Prop} (h : ∀ side, P (d.ends side))
    (hkeep : ∀ {s}, M.step (d.ends e.1) e.2 = some s → P s)
    (hstep : (machine M takes puts).step d e = some d') (side : Bool) : P (d'.ends side) := by
  obtain ⟨rest, s, -, hs, rfl⟩ := step_eq hstep
  by_cases hside : side = e.1
  · subst hside
    simpa using hkeep hs
  · simpa [hside] using h side

/-- **What can happen at an end** can happen to the two of them, and leaves the other end alone. -/
theorem exists_step {e : ε} {side : Bool} {rest : List β} {s : σ}
    (hwire : d.wires side = takes e ++ rest) (hs : M.step (d.ends side) e = some s) :
    ∃ d', (machine M takes puts).step d (side, e) = some d'
      ∧ d'.ends side = s ∧ d'.wires side = rest
      ∧ (d'.ends !side) = (d.ends !side) ∧ (d'.wires !side) = (d.wires !side) ++ puts e := by
  refine ⟨_, (if_pos ⟨rest, hwire.symm⟩).trans (by rw [hs]; rfl), ?_⟩
  simp [hwire]

/-- **The account**: where an event adds what it takes to what an end has got, and what it puts to
what it has given, nothing is lost on the way. -/
theorem account_step {got gave : σ → List β}
    (hgot : ∀ {s e s'}, M.step s e = some s' → got s' = got s ++ takes e)
    (hgave : ∀ {s e s'}, M.step s e = some s' → gave s' = gave s ++ puts e)
    (h : ∀ side, got (d.ends side) ++ d.wires side = gave (d.ends !side))
    (hstep : (machine M takes puts).step d e = some d') (side : Bool) :
    got (d'.ends side) ++ d'.wires side = gave (d'.ends !side) := by
  obtain ⟨rest, s, hrest, hs, rfl⟩ := step_eq hstep
  have hside := h side
  by_cases hsame : side = e.1
  · subst hsame
    rw [hrest] at hside
    simp [hgot hs, hside]
  · have hother : (!side) = e.1 := by
      revert hsame
      cases side <;> cases e.1 <;> decide
    rw [hother] at hside ⊢
    simp [hsame, hgave hs, ← hside]

end Duplex

end Machinery
