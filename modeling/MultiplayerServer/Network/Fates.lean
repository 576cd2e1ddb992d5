import MultiplayerServer.Machinery.Yield
import MultiplayerServer.Network.SendQueue

/-!
# Network/Fates — what becomes of each payload

A payload of `async_send` is written some time, or it is still queued, or it is lost; and there are
two ways to be lost.  The one that starts a write is never queued, and so never written; and when
that write, which is of nothing, completes, `handle_send` drops the first of those that were queued
behind it.

* `payloads_perm` — each payload has one of the three fates, and only one.
-/

namespace MultiplayerServer

open Machinery

namespace SendEvent

/-- The payloads passed to `async_send`. -/
def payloads : SendEvent → List Bytes
  | .asyncSend data => [data]
  | .handleSend _ _ => []

/-- The payloads a write of which completes. -/
def written : SendEvent → List Bytes
  | .handleSend ⟨_, some b⟩ (some _) => [b]
  | _ => []

end SendEvent

namespace AsioTcpConnection

/-- The payloads that a step loses: what `async_send` is called with while there is no write, and
what is dropped when a write of nothing completes. -/
def lost (c : AsioTcpConnection) : SendEvent → List Bytes
  | .asyncSend data => if c.isSending then [] else [data]
  | .handleSend ⟨_, none⟩ (some _) => c.sendBuffer.take 1
  | .handleSend _ _ => []

variable {c c' : AsioTcpConnection}

/-- **One step** takes no payload from the queue that is not written or lost, and queues no other
than those it is given. -/
theorem OneWrite.fates (h : c.OneWrite) {e : SendEvent} (hstep : sends.step c e = some c') :
    List.Perm (c'.sendBuffer ++ (e.written ++ c.lost e)) (c.sendBuffer ++ e.payloads) := by
  match e with
  | .asyncSend data =>
    rw [sends_asyncSend hstep, (h.asyncSend data).2]
    cases hsending : c.isSending with
    | true => simp [lost, SendEvent.written, SendEvent.payloads, hsending]
    | false => simp [lost, SendEvent.written, SendEvent.payloads, hsending, (h.idle hsending).2]
  | .handleSend op none =>
    rw [(completed (sends_handleSend hstep)).sendBuffer]
    cases op.buffer <;> simp [unsent, lost, SendEvent.written, SendEvent.payloads]
  | .handleSend ⟨epoch, none⟩ (some data) =>
    rw [(completed (sends_handleSend hstep)).sendBuffer]
    rcases hqueue : c.sendBuffer with _ | ⟨b, rest⟩
    · simp [unsent, hqueue, lost, SendEvent.written, SendEvent.payloads]
    · simp [unsent, hqueue, lost, SendEvent.written, SendEvent.payloads]
  | .handleSend ⟨epoch, some b⟩ (some data) =>
    -- the write was of the front of the queue, which goes
    obtain ⟨rest, hqueue⟩ : ∃ rest, c.sendBuffer = b :: rest :=
      List.head?_eq_some_iff.mp ((h.handleSend (sends_handleSend hstep)).2 b rfl)
    rw [(completed (sends_handleSend hstep)).sendBuffer]
    simp [unsent, hqueue, lost, SendEvent.written, SendEvent.payloads]

end AsioTcpConnection

open AsioTcpConnection

/-- **Every payload of a run is written, or queued still, or lost**, as often as it was passed to
`async_send` and no more, whatever the completions do. -/
theorem payloads_perm (net : Net) (memory : ReceiveBuffer) (ip : String) (port : ℤ)
    {es : List SendEvent} {c : AsioTcpConnection}
    (hex : sends.exec (construct net memory ip port) es = some c) :
    List.Perm
      (c.sendBuffer ++ (es.flatMap SendEvent.written
        ++ sends.yield lost (construct net memory ip port) es))
      (es.flatMap SendEvent.payloads) := by
  have hperm := Machine.perm_of_exec sendBuffer OneWrite
    (fun c e c' h hstep => ⟨(h.step hstep).1, h.fates hstep⟩)
    (unused_construct net memory ip port).oneWrite hex
  rw [Machine.yield_event hex] at hperm
  refine List.Perm.trans (List.Perm.append_left _ ?_) hperm
  rw [← Machine.yield_event hex]
  exact Machine.yield_append.symm

/-- Of three payloads, the third is written. -/
theorem payloads_perm_three :
    ∃ c, sends.exec (construct .loopback .zeroes "127.0.0.1" 8080)
        [.asyncSend [1], .asyncSend [2], .asyncSend [3], .handleSend ⟨0, none⟩ (some []),
          .handleSend ⟨0, some [3]⟩ (some [3])] = some c
      ∧ List.Perm
        (c.sendBuffer ++ (List.flatMap SendEvent.written
            [.asyncSend [1], .asyncSend [2], .asyncSend [3], .handleSend ⟨0, none⟩ (some []),
              .handleSend ⟨0, some [3]⟩ (some [3])]
          ++ sends.yield lost (construct .loopback .zeroes "127.0.0.1" 8080)
            [.asyncSend [1], .asyncSend [2], .asyncSend [3], .handleSend ⟨0, none⟩ (some []),
              .handleSend ⟨0, some [3]⟩ (some [3])]))
        (List.flatMap SendEvent.payloads
          [.asyncSend [1], .asyncSend [2], .asyncSend [3], .handleSend ⟨0, none⟩ (some []),
            .handleSend ⟨0, some [3]⟩ (some [3])]) :=
  ⟨_, rfl, payloads_perm .loopback .zeroes "127.0.0.1" 8080 rfl⟩

end MultiplayerServer
