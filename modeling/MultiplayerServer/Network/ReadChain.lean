import MultiplayerServer.Network.ReceiveStream
import MultiplayerServer.Network.Reconnect

/-!
# Network/ReadChain — how many reads are under way

A read that succeeds arms the next, so that a chain of reads goes on until one of them fails.  What
starts a chain is a connect that succeeds, or a client that the game takes; that there is one
already is asked by neither, and all of them store into the one `receive_buffer_`.

* `oneRead_iff` — there are as many reads under way as chains that were started and have not failed,
  and never two of them in exactly the runs that start a chain only where there is none.
-/

namespace MultiplayerServer

open Machinery

namespace Event

/-- The events that start a chain of reads, -/
def startsChain : Event → Bool
  | .completion (.connect _ error) => !error
  | .accept taken => taken
  | _ => false

/-- …and those that end one. -/
def endsChain : Event → Bool
  | .completion (.receiveError _) => true
  | _ => false

/-- No event does both. -/
theorem endsChain_of_startsChain {e : Event} (h : e.startsChain = true) : e.endsChain = false := by
  cases e with
  | call f => rfl
  | accept taken => rfl
  | completion d =>
    cases d with
    | receiveError op => cases h
    | _ => rfl

end Event

namespace AsioTcpConnection

variable {c c' : AsioTcpConnection} {e : Event}

/-- A read that was replaced. -/
theorem length_erase_concat {α : Type*} [DecidableEq α] {l : List α} {a b : α} (h : a ∈ l) :
    (l.erase a ++ [b]).length = l.length := by
  rw [List.length_append, List.length_erase_of_mem h, List.length_singleton]
  exact Nat.sub_add_cancel (List.length_pos_of_mem h)

/-- An armed read is one more, whether it stores at once or not. -/
theorem length_armedReads (early : Option Chunk) :
    (c.armedReads early).length = c.reads.length + 1 := by
  have h := length_newReads_armed (c := c) (Nat.zero_le _) early
  simpa using h

/-- **One event** starts a chain, ends one, or replaces a read by the next. -/
theorem reads_step (h : machine.step c e = some c') :
    c'.reads.length + e.endsChain.toNat = c.reads.length + e.startsChain.toNat := by
  cases e with
  | call f =>
    rw [step_call h, (call_reads f).1]
    rfl
  | accept taken =>
    obtain ⟨-, rfl⟩ := step_accept h
    cases taken <;> simp [acceptPeer, Event.endsChain, Event.startsChain]
  | completion d =>
    have hd := step_completion h
    rw [(completed hd).reads]
    cases d with
    | connect op error => cases error <;> simp [Event.endsChain, Event.startsChain]
    | send op accepted => rfl
    | fill op chunk =>
      obtain ⟨hop, -, -⟩ := complete_fill hd
      exact length_erase_concat hop
    | receive op early =>
      obtain ⟨hop, -⟩ := complete_receive hd
      refine (length_armedReads early).trans ?_
      rw [List.length_erase_of_mem hop]
      exact Nat.sub_add_cancel (List.length_pos_of_mem hop)
    | receiveError op =>
      obtain ⟨hop, -⟩ := complete_receiveError hd
      rw [readsAfter, List.length_erase_of_mem hop]
      exact Nat.sub_add_cancel (List.length_pos_of_mem hop)

end AsioTcpConnection

open AsioTcpConnection

/-- **The reads under way are the chains that were started and have not failed**, after any run;
and there are never two of them in exactly the runs that start a chain only where there is none. -/
theorem oneRead_iff (net : Net) (memory : ReceiveBuffer) (ip : String) (port : ℤ)
    (es : List Event) :
    (∀ c, machine.exec (construct net memory ip port) es = some c →
        c.reads.length + es.countP Event.endsChain = es.countP Event.startsChain)
      ∧ (machine.Always (fun c => c.reads.length ≤ 1) (construct net memory ip port) es
        ↔ machine.Along (fun c e _ => e.startsChain = true → c.reads = [])
          (construct net memory ip port) es) := by
  constructor
  · intro c hex
    exact (Machine.exec_count (m := fun c : AsioTcpConnection => c.reads.length)
      (fun _ _ _ => reads_step) hex).trans (Nat.zero_add _)
  refine Machine.always_iff_along (fun c : AsioTcpConnection => c.reads.length ≤ 1)
    (fun _ h => h) ?_ ?_ (Nat.zero_le _)
  · intro c e c' h hstep hstarts
    have hcount := reads_step hstep
    cases hchain : e.startsChain with
    | false =>
      rw [hchain] at hcount
      exact (Nat.le_of_add_right_le hcount.le).trans h
    | true =>
      rw [hchain, hstarts hchain] at hcount
      exact Nat.le_of_add_right_le hcount.le
  · intro c e c' h hstep h' hchain
    have hcount := reads_step hstep
    have hends : e.endsChain = false := Event.endsChain_of_startsChain hchain
    rw [hchain, hends] at hcount
    have hle : c.reads.length + 1 ≤ 1 := hcount.symm.trans_le h'
    exact List.length_eq_zero_iff.mp (Nat.le_zero.mp (Nat.le_of_succ_le_succ hle))

end MultiplayerServer
