import MultiplayerServer.Machinery.Ledger
import MultiplayerServer.Network.SendQueue

/-!
# Network/WriteSlot — one write at a time, and a queue that never stalls

`is_sending_`, `send_buffer_` and the writes in flight are updated at different points of
`async_send` and `handle_send`.  Whatever those writes are of, the three agree: `OneWrite` of
`Network/SendQueue` is the invariant, and here it is read as the contract of the queue.

* `writeSlot_always` — the flag is the write in flight, there is at most one, and nothing is queued
  without one;
* the queue is first in, first out, and only an error-free completion takes from it.
-/

namespace MultiplayerServer

open Machinery

namespace AsioTcpConnection

/-- **The write slot**: `is_sending_` says whether there is a write outstanding, there are never
two, and nothing is queued without one. -/
structure WriteSlot (c : AsioTcpConnection) : Prop where
  isSending : c.isSending = true ↔ c.writes ≠ []
  single : c.writes.length ≤ 1
  moving : c.sendBuffer ≠ [] → c.writes ≠ []

variable {c c' : AsioTcpConnection}

theorem OneWrite.writeSlot (h : c.OneWrite) : c.WriteSlot := by
  cases hs : c.isSending with
  | false =>
    obtain ⟨hw, hq⟩ := h.idle hs
    constructor <;> simp [hs, hw, hq]
  | true =>
    obtain ⟨op, hw, -⟩ := h.busy hs
    constructor <;> simp [hs, hw]

/-- **What a step does to the queue**: `async_send` may append its payload, an error-free completion
may take the front, and nothing else changes it. -/
theorem OneWrite.queue (h : c.OneWrite) {e : SendEvent} (hstep : sends.step c e = some c') :
    c'.sendBuffer = c.sendBuffer
      ∨ (∃ data, e = .asyncSend data ∧ c'.sendBuffer = c.sendBuffer ++ [data])
      ∨ ∃ op data b, e = .handleSend op (some data) ∧ c.sendBuffer = b :: c'.sendBuffer := by
  cases e with
  | asyncSend data =>
    obtain rfl := sends_asyncSend hstep
    have hq := (h.asyncSend data).2
    cases hs : c.isSending with
    | false => exact Or.inl (by rw [hq, hs, (h.idle hs).2]; rfl)
    | true => exact Or.inr (Or.inl ⟨data, rfl, by rw [hq, hs]; rfl⟩)
  | handleSend op accepted =>
    have hq : c'.sendBuffer = c.unsent accepted.isNone :=
      (completed (sends_handleSend hstep)).sendBuffer
    cases accepted with
    | none => exact Or.inl hq
    | some data =>
      cases hfront : c.sendBuffer with
      | nil => exact Or.inl (by simpa [unsent, hfront] using hq)
      | cons b q =>
        exact Or.inr (Or.inr ⟨op, data, b, rfl, by simpa [unsent, hfront, eq_comm] using hq⟩)

/-- What one step enters into the ledger of the queue: the payload of an `async_send`, if anything;
and of removals at most one, and that only when a write completes without error. -/
structure Entered (l : Ledger AsioTcpConnection Bytes) (e : SendEvent)
    (l' : Ledger AsioTcpConnection Bytes) : Prop where
  appended : l'.appended = l.appended
    ∨ ∃ data, e = .asyncSend data ∧ l'.appended = l.appended ++ [data]
  removed : l'.removed = l.removed
    ∨ ∃ op data b, e = .handleSend op (some data) ∧ l'.removed = l.removed ++ [b]

/-- The runs of a connection that only sends, with a ledger of `send_buffer_`. -/
abbrev queueLedger : Machine (Ledger AsioTcpConnection Bytes) SendEvent := sends.ledger sendBuffer

variable {l l' : Ledger AsioTcpConnection Bytes} {e : SendEvent}

theorem OneWrite.fifoStep (h : c.OneWrite) (hstep : sends.step c e = some c') :
    FifoStep c.sendBuffer c'.sendBuffer := by
  rcases h.queue hstep with hq | ⟨data, -, hq⟩ | ⟨_, _, b, -, hq⟩
  · rw [hq]
    exact .same _
  · rw [hq]
    exact .push _ data
  · rw [hq]
    exact .pop _ b

theorem OneWrite.entered (h : l.state.OneWrite) (hstep : queueLedger.step l e = some l') :
    Entered l e l' := by
  obtain ⟨hs, ha, hr⟩ := step_ledger hstep
  rcases h.queue hs with hq | ⟨data, he, hq⟩ | ⟨op, data, b, he, hq⟩
  · exact ⟨Or.inl (by simp [ha, hq]), Or.inl (by simp [hr, hq])⟩
  · exact ⟨Or.inr ⟨data, he, by simp [ha, hq]⟩, Or.inl (by simp [hr, hq])⟩
  · exact ⟨Or.inl (by simp [ha, hq]), Or.inr ⟨op, data, b, he, by simp [hr, hq]⟩⟩

end AsioTcpConnection

open AsioTcpConnection

/-- **The write-slot contract**, of every run of sends and completions: at every point the flag is
the one write in flight, a queue with anything in it is moving, and the queue is what was appended
less what was removed, in order; and at every step nothing is removed but the front, once, by an
error-free completion. -/
theorem writeSlot_always (net : Net) (memory : ReceiveBuffer) (ip : String) (port : ℤ)
    (es : List SendEvent) :
    queueLedger.Always (fun l => l.state.WriteSlot ∧ l.Fifo sendBuffer)
        (.start (construct net memory ip port)) es
      ∧ queueLedger.Along Entered (.start (construct net memory ip port)) es := by
  have hone : (construct net memory ip port).OneWrite :=
    (unused_construct net memory ip port).oneWrite
  have keep (l e l') (h : l.state.OneWrite) (hstep : queueLedger.step l e = some l') :
      l'.state.OneWrite := (h.step (step_ledger hstep).1).1
  constructor
  · refine (Machine.always_of_step (fun l => l.state.OneWrite ∧ l.Fifo sendBuffer) ?_
      ⟨hone, rfl⟩).mono fun l h => ⟨h.1.writeSlot, h.2⟩
    rintro l e l' ⟨h, hfifo⟩ hstep
    exact ⟨keep l e l' h hstep, hfifo.step hstep (h.fifoStep (step_ledger hstep).1)⟩
  · exact Machine.along_of_step (fun l => l.state.OneWrite) keep
      (fun l e l' h hstep => h.entered hstep) hone

end MultiplayerServer
