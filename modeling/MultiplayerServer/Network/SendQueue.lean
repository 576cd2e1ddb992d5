import MultiplayerServer.Network.ConnectionRuns

/-!
# Network/SendQueue — what becomes of the payloads of `async_send`

`async_send` starts a write when there is none under way and queues the payload otherwise; it writes
the front of the queue, to which it has not added the payload it was called with.  `handle_send`
drops the front of the queue when a write completes, whether or not that write was of the front, and
however much of it was written.

* `faithfulStream_iff` — the stream is faithful in exactly the runs that send nothing;
* `wired_sublist` — what does get through is neither duplicated nor reordered.
-/

namespace MultiplayerServer

open Machinery

/-- A step of a connection that only sends. -/
inductive SendEvent
  | asyncSend (data : Bytes)
  | handleSend (op : WriteOp) (accepted : Option Bytes)
  deriving DecidableEq

namespace SendEvent

/-- A send, among the events of a connection. -/
@[simp] def toEvent : SendEvent → Event
  | .asyncSend data => .call (.asyncSend data)
  | .handleSend op accepted => .completion (.send op accepted)

/-- The payload passed to `async_send`. -/
@[simp] def payload : SendEvent → Bytes
  | .asyncSend data => data
  | .handleSend _ _ => []

/-- The bytes accepted from a buffer that was the front of a queue. -/
@[simp] def wired : SendEvent → Bytes
  | .handleSend ⟨_, some _⟩ (some data) => data
  | _ => []

end SendEvent

/-- The bytes passed to `async_send`. -/
def Effect.sentBytes : Effect → Bytes
  | .sent data => data
  | _ => []

/-- The bytes the socket has accepted. -/
def Effect.acceptedBytes : Effect → Bytes
  | .accepted data => data
  | _ => []

namespace AsioTcpConnection

/-- The runs of a connection that only sends. -/
def sends : Machine AsioTcpConnection SendEvent := machine.comap SendEvent.toEvent

/-- Every payload passed to `async_send` so far, in call order. -/
def sentBytes (c : AsioTcpConnection) : Bytes := c.history.flatMap Effect.sentBytes

/-- Every byte the socket has accepted so far. -/
def acceptedBytes (c : AsioTcpConnection) : Bytes := c.history.flatMap Effect.acceptedBytes

/-- **The stream is faithful**: only the front of a non-empty queue is ever written, and what was
accepted, followed by what is still queued, is what was sent. -/
structure FaithfulStream (c : AsioTcpConnection) : Prop where
  front : ∀ op, .initiatedWrite op ∈ c.history → op.buffer ≠ none
  stream : c.acceptedBytes ++ c.sendBuffer.flatten = c.sentBytes

/-- Nothing has been sent. -/
structure Unused (c : AsioTcpConnection) : Prop where
  sendBuffer : c.sendBuffer = []
  isSending : c.isSending = false
  writes : c.writes = []
  history : c.history = []

variable {c c' : AsioTcpConnection}

theorem unused_construct (net : Net) (memory : ReceiveBuffer) (ip : String) (port : ℤ) :
    (construct net memory ip port).Unused := ⟨rfl, rfl, rfl, rfl⟩

theorem Unused.faithfulStream (h : c.Unused) : c.FaithfulStream where
  front op hop := by simp [h.history] at hop
  stream := by simp [acceptedBytes, sentBytes, h.history, h.sendBuffer]

theorem sends_asyncSend {data : Bytes} (h : sends.step c (.asyncSend data) = some c') :
    c' = c.call (.asyncSend data) := step_call h

theorem sends_handleSend {op : WriteOp} {accepted : Option Bytes}
    (h : sends.step c (.handleSend op accepted) = some c') :
    c.complete (.send op accepted) = some c' := step_completion h

/-- **The first payload is never written**: `front()` is called on the empty queue instead. -/
theorem Unused.not_faithfulStream_asyncSend (h : c.Unused) (data : Bytes) :
    ¬ (c.call (.asyncSend data)).FaithfulStream := by
  intro hf
  refine hf.front ⟨c.epoch, none⟩ ?_ rfl
  rw [call_history]
  simp [effectsOfCall, h.sendBuffer, h.isSending]

/-! ## What does get through -/

/-- The outstanding write of a connection is all that `is_sending_` and the queue say of it: there
is at most one, nothing is queued without one, and it writes the front of the queue if it writes
anything defined. -/
structure OneWrite (c : AsioTcpConnection) : Prop where
  idle : c.isSending = false → c.writes = [] ∧ c.sendBuffer = []
  busy : c.isSending = true → ∃ op, c.writes = [op] ∧ ∀ b ∈ op.buffer, c.sendBuffer.head? = some b

theorem Unused.oneWrite (h : c.Unused) : c.OneWrite where
  idle _ := ⟨h.writes, h.sendBuffer⟩
  busy hbusy := by simp [h.isSending] at hbusy

/-- An `async_send` queues its payload behind a write, and starts a write of nothing otherwise. -/
theorem OneWrite.asyncSend (h : c.OneWrite) (data : Bytes) :
    (c.call (.asyncSend data)).OneWrite
      ∧ (c.call (.asyncSend data)).sendBuffer
        = if c.isSending then c.sendBuffer ++ [data] else [] := by
  cases hs : c.isSending with
  | false =>
    obtain ⟨hw, hq⟩ := h.idle hs
    refine ⟨⟨?_, fun _ => ⟨⟨c.epoch, none⟩, ?_⟩⟩, ?_⟩ <;>
      simp [call, AsioTcpConnection.asyncSend, hs, hw, hq]
  | true =>
    obtain ⟨op, hw, hop⟩ := h.busy hs
    have heq : c.call (.asyncSend data)
        = { c.emit (.sent data) with sendBuffer := c.sendBuffer ++ [data] } := by
      simp [call, AsioTcpConnection.asyncSend, hs]
    rw [heq]
    refine ⟨⟨fun hidle => by simp [hs] at hidle, fun _ => ⟨op, hw, fun b hb => ?_⟩⟩, rfl⟩
    simp [List.head?_append, hop b hb]

theorem complete_send_writes {op : WriteOp} {accepted : Option Bytes}
    (hd : c.complete (.send op accepted) = some c') : op ∈ c.writes := by
  cases accepted with
  | some data => exact (complete_send hd).1
  | none => exact (complete_sendError hd).1

theorem complete_send_isSending {op : WriteOp} {accepted : Option Bytes}
    (hd : c.complete (.send op accepted) = some c') :
    c'.isSending = true ↔ c.unsent accepted.isNone ≠ [] := by
  have hsending (c : AsioTcpConnection) (error : Bool) (n : ℕ) :
      (c.handleSend error n).isSending = true ↔ c.unsent error ≠ [] := by
    rw [handleSend_eq]
    split <;> simp [*]
  cases accepted with
  | some data =>
    obtain ⟨-, -, rfl⟩ := complete_send hd
    exact hsending _ _ _
  | none =>
    obtain ⟨-, rfl⟩ := complete_sendError hd
    rw [hsending]
    simp [unsent]

/-- **A completion is of the one write there is**, and leaves at most one in its place. -/
theorem OneWrite.handleSend (h : c.OneWrite) {op : WriteOp} {accepted : Option Bytes}
    (hd : c.complete (.send op accepted) = some c') :
    c'.OneWrite ∧ ∀ b ∈ op.buffer, c.sendBuffer.head? = some b := by
  have hc := completed hd
  have hmem : op ∈ c.writes := complete_send_writes hd
  have hsending : c.isSending = true := by
    cases hs : c.isSending with
    | false => simp [(h.idle hs).1] at hmem
    | true => rfl
  obtain ⟨op', hw, hop⟩ := h.busy hsending
  obtain rfl : op = op' := by simpa [hw] using hmem
  refine ⟨⟨fun hidle => ?_, fun hbusy => ?_⟩, hop⟩
  · have hdone : c.unsent accepted.isNone = [] := by
      simpa [hidle] using complete_send_isSending hd
    rw [hc.writes, hc.sendBuffer]
    simp [hdone, hw]
  · have hmore := (complete_send_isSending hd).mp hbusy
    refine ⟨⟨c.epoch, (c.unsent accepted.isNone).head?⟩, ?_, ?_⟩
    · rw [hc.writes]
      simp [hmore, hw]
    · rw [hc.sendBuffer]
      simp

/-- **One step neither duplicates nor reorders**: what it puts on the wire, followed by what it
leaves in the queue, is part of what was in the queue, followed by what was sent. -/
theorem OneWrite.step (h : c.OneWrite) {e : SendEvent} (hstep : sends.step c e = some c') :
    c'.OneWrite
      ∧ List.Sublist (e.wired ++ c'.sendBuffer.flatten) (c.sendBuffer.flatten ++ e.payload) := by
  cases e with
  | asyncSend data =>
    obtain rfl := sends_asyncSend hstep
    obtain ⟨hone, hq⟩ := h.asyncSend data
    refine ⟨hone, ?_⟩
    rw [hq]
    split <;> simp
  | handleSend op accepted =>
    have hd := sends_handleSend hstep
    obtain ⟨hone, hfront⟩ := h.handleSend hd
    refine ⟨hone, ?_⟩
    rw [(completed hd).sendBuffer, sendBufferAfter, SendEvent.payload, List.append_nil]
    match op, accepted with
    | ⟨_, some b⟩, some data =>
      obtain ⟨-, htakes, -⟩ := complete_send hd
      obtain ⟨ps, hq⟩ : ∃ ps, c.sendBuffer = b :: ps := List.head?_eq_some_iff.mp (hfront b rfl)
      rw [unsent, hq, List.flatten_cons]
      exact (htakes b rfl).1.sublist.append (List.Sublist.refl _)
    | ⟨_, none⟩, some _ =>
      rw [unsent]
      cases c.sendBuffer <;> simp
    | _, none => simp [unsent]

/-- …and so a run does not either. -/
theorem OneWrite.exec (h : c.OneWrite) {es : List SendEvent} (hex : sends.exec c es = some c') :
    List.Sublist (es.flatMap SendEvent.wired ++ c'.sendBuffer.flatten)
      (c.sendBuffer.flatten ++ es.flatMap SendEvent.payload) := by
  induction es generalizing c with
  | nil =>
    obtain rfl := Option.some.inj hex
    simp
  | cons e es ih =>
    obtain ⟨c₁, h₁, h₂⟩ := Option.bind_eq_some_iff.mp hex
    obtain ⟨hone, hsub⟩ := h.step h₁
    rw [List.flatMap_cons, List.flatMap_cons, List.append_assoc, ← List.append_assoc _ e.payload]
    calc List.Sublist (e.wired ++ (es.flatMap SendEvent.wired ++ c'.sendBuffer.flatten))
          (e.wired ++ (c₁.sendBuffer.flatten ++ es.flatMap SendEvent.payload)) :=
        (List.Sublist.refl _).append (ih hone h₂)
      List.Sublist _ (c.sendBuffer.flatten ++ e.payload ++ es.flatMap SendEvent.payload) := by
        rw [← List.append_assoc]
        exact hsub.append (List.Sublist.refl _)

end AsioTcpConnection

open AsioTcpConnection

/-- **Asynchronous sending is faithful in exactly the runs in which nothing is sent.** -/
theorem faithfulStream_iff (net : Net) (memory : ReceiveBuffer) (ip : String) (port : ℤ)
    (es : List SendEvent) :
    sends.Always FaithfulStream (construct net memory ip port) es
      ↔ sends.Along (fun _ e _ => ∀ data, e ≠ .asyncSend data)
        (construct net memory ip port) es := by
  refine Machine.always_iff_along Unused (fun _ => Unused.faithfulStream) ?_ ?_
    (unused_construct net memory ip port)
  · intro c e c' h hstep hquiet
    cases e with
    | asyncSend data => exact absurd rfl (hquiet data)
    | handleSend op accepted =>
      have hop := complete_send_writes (sends_handleSend hstep)
      simp [h.writes] at hop
  · rintro c e c' h hstep hf data rfl
    rw [sends_asyncSend hstep] at hf
    exact h.not_faithfulStream_asyncSend data hf

/-- One payload, one byte. -/
theorem not_faithfulStream_of_asyncSend :
    ¬ sends.Always FaithfulStream (construct .loopback .zeroes "127.0.0.1" 8080)
      [.asyncSend [1]] := by
  intro h
  have hend := (h.last rfl).front ⟨0, none⟩
  exact absurd rfl (hend (by decide))

/-- **What gets through is part of what was sent, in its order**: of the bytes accepted from a front
that existed, followed by what is still queued, none comes twice and none too early. -/
theorem wired_sublist (net : Net) (memory : ReceiveBuffer) (ip : String) (port : ℤ)
    {es : List SendEvent} {c : AsioTcpConnection}
    (hex : sends.exec (construct net memory ip port) es = some c) :
    List.Sublist (es.flatMap SendEvent.wired ++ c.sendBuffer.flatten)
      (es.flatMap SendEvent.payload) :=
  (unused_construct net memory ip port).oneWrite.exec hex

end MultiplayerServer
