import MultiplayerServer.Machinery.Runs

/-!
# Machinery/Ledger — what a queue gained and lost along a run

A machine with a queue somewhere in its state, run together with a record of what was appended to
the queue and what was removed from it.  The record is kept from outside, by comparing the queue
before and after each step: what is longer was appended, what is shorter was removed.  Whether the
queue is one is then an equation, `removed ++ queue = appended`, and it holds of every run whose
steps each leave the queue alone, append to its back or take from its front (`Fifo.step`).
-/

namespace Machinery

variable {σ ε α : Type*}

/-- A state, with what its queue has gained and lost so far. -/
structure Ledger (σ α : Type*) where
  state : σ
  appended : List α
  removed : List α

/-- The ledger of a queue that is empty still. -/
@[simp] def Ledger.start (s : σ) : Ledger σ α := ⟨s, [], []⟩

/-- `M`, with a ledger of its `queue`. -/
def Machine.ledger (M : Machine σ ε) (queue : σ → List α) : Machine (Ledger σ α) ε where
  step l e := (M.step l.state e).map fun s' =>
    { state := s'
      appended := l.appended ++ (queue s').drop (queue l.state).length
      removed := l.removed ++ (queue l.state).take ((queue l.state).length - (queue s').length) }

/-- What a queue may do in one step. -/
inductive FifoStep : List α → List α → Prop
  | same (q : List α) : FifoStep q q
  | push (q : List α) (x : α) : FifoStep q (q ++ [x])
  | pop (q : List α) (x : α) : FifoStep (x :: q) q

/-- **A step of a queue balances**: what it lost and what is left is what there was and what it
gained. -/
theorem FifoStep.balance {q q' : List α} (h : FifoStep q q') :
    q.take (q.length - q'.length) ++ q' = q ++ q'.drop q.length := by
  cases h with
  | same => simp
  | push q x => simp
  | pop q x => simp

variable {M : Machine σ ε} {queue : σ → List α} {l l' : Ledger σ α} {e : ε}

theorem step_ledger (h : (M.ledger queue).step l e = some l') :
    M.step l.state e = some l'.state
      ∧ l'.appended = l.appended ++ (queue l'.state).drop (queue l.state).length
      ∧ l'.removed = l.removed
        ++ (queue l.state).take ((queue l.state).length - (queue l'.state).length) := by
  obtain ⟨s', hs, rfl⟩ := Option.map_eq_some_iff.mp h
  exact ⟨hs, rfl, rfl⟩

namespace Ledger

/-- The queue is what was appended and not removed, in order. -/
def Fifo (queue : σ → List α) (l : Ledger σ α) : Prop := l.removed ++ queue l.state = l.appended

theorem Fifo.step (h : l.Fifo queue) (hstep : (M.ledger queue).step l e = some l')
    (hq : FifoStep (queue l.state) (queue l'.state)) : l'.Fifo queue := by
  obtain ⟨-, ha, hr⟩ := step_ledger hstep
  rw [Fifo, ha, hr, List.append_assoc, hq.balance, ← List.append_assoc, h]

end Ledger

end Machinery
