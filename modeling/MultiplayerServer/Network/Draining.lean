import MultiplayerServer.Machinery.Progress
import MultiplayerServer.Network.SendQueue

/-!
# Network/Draining — what it takes for the send queue to empty

A write that completes without an error moves the queue on, and one that fails is made again.  What
is left to do is counted by `owed`: the writes of what is queued, or the one of nothing that is
under way.

* `drains_always` — error-free completions empty the queue, each of them pays one, and failed ones
  never do.
-/

namespace MultiplayerServer

open Machinery

namespace SendEvent

/-- A write completes, -/
def Succeeds : SendEvent → Prop
  | .handleSend _ (some _) => True
  | _ => False

/-- …or it fails. -/
def Fails : SendEvent → Prop
  | .handleSend _ none => True
  | _ => False

end SendEvent

namespace AsioTcpConnection

variable {c c' : AsioTcpConnection} {op : WriteOp} {data : Bytes} {accepted : Option Bytes}

/-- How many error-free completions it takes until nothing is queued or under way. -/
def owed (c : AsioTcpConnection) : ℕ := if c.isSending then max c.sendBuffer.length 1 else 0

/-- Nothing is queued, and no write is under way. -/
structure Idle (c : AsioTcpConnection) : Prop where
  isSending : c.isSending = false
  writes : c.writes = []
  sendBuffer : c.sendBuffer = []

/-- Whatever is queued or under way can be got through with, in as many completions as are owed, and
in no fewer; and what is queued stays so as long as its writes fail, however often that may be. -/
structure Drains (c : AsioTcpConnection) : Prop where
  drained : ∃ c', sends.CanReach SendEvent.Succeeds c c' ∧ c'.Idle
  account : ∀ ds c', (∀ d ∈ ds, d.Succeeds) → sends.exec c ds = some c' →
    c'.owed + ds.length = c.owed
  stuck : c.sendBuffer ≠ [] → ∀ ds c', (∀ d ∈ ds, d.Fails) → sends.exec c ds = some c' →
    c'.sendBuffer = c.sendBuffer ∧ ∃ e c'', e.Fails ∧ sends.step c' e = some c''

/-- The write that is under way writes the front of the queue, on a connection that is there. -/
structure Sending (c : AsioTcpConnection) : Prop where
  alive : c.alive = true
  oneWrite : c.OneWrite

theorem Unused.sending (h : c.Unused) (halive : c.alive = true) : c.Sending := ⟨halive, h.oneWrite⟩

/-- Only the end of a connection is the end of it. -/
theorem alive_call {f : Call} (hlasts : f ≠ .destroy) : (c.call f).alive = c.alive := by
  cases f with
  | destroy => exact absurd rfl hlasts
  | close | setConnectedCallback set | setDisconnectedCallback set | setReceiveCallback set =>
    simp [call]
  | connect outcome =>
    simp only [call, connect]
    split_ifs
    · rfl
    · cases outcome with
      | granted => rcases c.requestConnect.socket.connect true with ⟨_ | _, socket⟩ <;>
          simp [requestConnect]
      | _ => rfl
  | asyncConnect resolved =>
    simp only [call, asyncConnect]
    split_ifs <;> rfl
  | asyncSend data =>
    simp only [call, AsioTcpConnection.asyncSend]
    split_ifs <;> rfl

theorem Sending.step {e : SendEvent} (h : c.Sending) (hstep : sends.step c e = some c') :
    c'.Sending where
  alive := by
    cases e with
    | asyncSend data =>
      rw [sends_asyncSend hstep]
      exact (alive_call (f := .asyncSend data) nofun).trans h.alive
    | handleSend op accepted => exact (completed (sends_handleSend hstep)).alive.trans h.alive
  oneWrite := (h.oneWrite.step hstep).1

/-- **Nothing is owed of what is idle.** -/
theorem OneWrite.idle_iff (h : c.OneWrite) : c.Idle ↔ c.owed = 0 := by
  cases hsending : c.isSending with
  | true =>
    refine iff_of_false (fun hidle => ?_) (by simp [owed, hsending])
    exact absurd hidle.isSending (by simp [hsending])
  | false =>
    obtain ⟨hwrites, hqueue⟩ := h.idle hsending
    exact iff_of_true ⟨hsending, hwrites, hqueue⟩ (by simp [owed, hsending])

/-- A completion is of a write, and there is none unless one is under way. -/
theorem OneWrite.isSending_of_complete (h : c.OneWrite)
    (hd : c.complete (.send op accepted) = some c') : c.isSending = true := by
  cases hsending : c.isSending with
  | false => exact absurd (complete_send_writes hd) (by simp [(h.idle hsending).1])
  | true => rfl

/-- **A completion pays one.** -/
theorem OneWrite.owed_success (h : c.OneWrite)
    (hd : c.complete (.send op (some data)) = some c') : c'.owed + 1 = c.owed := by
  have hmore := complete_send_isSending hd
  have hqueue : c'.sendBuffer = c.sendBuffer.tail := (completed hd).sendBuffer
  rw [owed, owed, h.isSending_of_complete hd, hqueue]
  rcases hfront : c.sendBuffer with _ | ⟨b, _ | ⟨b', q⟩⟩ <;> simp [unsent, hfront] at hmore ⊢ <;>
    simp [hmore]

/-- **One that fails** pays nothing of what is queued. -/
theorem sendBuffer_failure (hd : c.complete (.send op none) = some c') :
    c'.sendBuffer = c.sendBuffer := (completed hd).sendBuffer

/-- What is under way can succeed, and it can fail. -/
theorem Sending.exists_step (h : c.Sending) (hsending : c.isSending = true) :
    (∃ e c', SendEvent.Succeeds e ∧ sends.step c e = some c')
      ∧ ∃ e c', SendEvent.Fails e ∧ sends.step c e = some c' := by
  obtain ⟨op, hwrites, -⟩ := h.oneWrite.busy hsending
  have hop : op ∈ c.writes := by simp [hwrites]
  have htakes : op.Takes (op.buffer.getD []) := fun b hb => by
    rw [Option.mem_def.mp hb]
    simp
  exact ⟨⟨.handleSend op (some _), _, trivial, (if_pos h.alive).trans (if_pos ⟨hop, htakes⟩)⟩,
    ⟨.handleSend op none, _, trivial, (if_pos h.alive).trans (if_pos hop)⟩⟩

/-- Where something is owed, a write is under way. -/
theorem isSending_of_owed (h : c.owed ≠ 0) : c.isSending = true := by
  cases hsending : c.isSending with
  | false => simp [owed, hsending] at h
  | true => rfl

theorem Sending.owed_step {e : SendEvent} (h : c.Sending) (he : e.Succeeds)
    (hstep : sends.step c e = some c') : c'.owed + 1 = c.owed := by
  match e with
  | .handleSend op (some data) => exact h.oneWrite.owed_success (sends_handleSend hstep)

theorem Sending.drained (h : c.Sending) :
    ∃ c', sends.CanReach SendEvent.Succeeds c c' ∧ c'.Idle := by
  obtain ⟨c', hreach, hc', hnone⟩ := Machine.exists_canReach (M := sends) Sending owed
    (fun c h howed => by
      obtain ⟨e, c', he, hstep⟩ := (h.exists_step (isSending_of_owed howed)).1
      exact ⟨e, c', he, hstep, h.step hstep, by have := h.owed_step he hstep; omega⟩) h
  exact ⟨c', hreach, hc'.oneWrite.idle_iff.mpr hnone⟩

theorem Sending.account {ds : List SendEvent} (h : c.Sending) (hds : ∀ d ∈ ds, d.Succeeds)
    (hex : sends.exec c ds = some c') : c'.owed + ds.length = c.owed := by
  induction ds generalizing c with
  | nil =>
    obtain rfl := Option.some.inj hex
    rfl
  | cons d ds ih =>
    obtain ⟨c₁, h₁, h₂⟩ := Option.bind_eq_some_iff.mp hex
    obtain ⟨hd, hds⟩ := List.forall_mem_cons.mp hds
    calc c'.owed + (d :: ds).length = c'.owed + ds.length + 1 := rfl
      _ = c₁.owed + 1 := by rw [ih (h.step h₁) hds h₂]
      _ = c.owed := h.owed_step hd h₁

/-- A write that fails is followed by another one of the same queue. -/
theorem Sending.exec_fails {ds : List SendEvent} (h : c.Sending) (hds : ∀ d ∈ ds, d.Fails)
    (hex : sends.exec c ds = some c') : c'.Sending ∧ c'.sendBuffer = c.sendBuffer := by
  refine (Machine.always_of_along (fun c' => c'.Sending ∧ c'.sendBuffer = c.sendBuffer) ?_ ⟨h, rfl⟩
    (Machine.along_of_forall fun d hd _ _ _ => hds d hd)).last hex
  rintro c₁ d c₂ ⟨h₁, hsame⟩ hstep hd
  match d with
  | .handleSend op none =>
    exact ⟨h₁.step hstep, (sendBuffer_failure (sends_handleSend hstep)).trans hsame⟩

theorem OneWrite.isSending_of_queued (h : c.OneWrite) (hqueued : c.sendBuffer ≠ []) :
    c.isSending = true := by
  cases hsending : c.isSending with
  | false => exact absurd (h.idle hsending).2 hqueued
  | true => rfl

theorem Sending.drains (h : c.Sending) : c.Drains where
  drained := h.drained
  account _ _ := h.account
  stuck hqueued ds c' hds hex := by
    obtain ⟨hc', hsame⟩ := h.exec_fails hds hex
    exact ⟨hsame, (hc'.exists_step (hc'.oneWrite.isSending_of_queued (hsame ▸ hqueued))).2⟩

end AsioTcpConnection

open AsioTcpConnection

/-- **The queue drains, if it is let, in every state it can get to**: as many error-free completions
as there are payloads queued — one, if a write of nothing is under way — empty it, and fewer do not.
No number of failed ones gets it any further, and there is always another one that can fail. -/
theorem drains_always (net : Net) (memory : ReceiveBuffer) (ip : String) (port : ℤ)
    (es : List SendEvent) :
    sends.Always Drains (construct net memory ip port) es :=
  (Machine.always_of_step Sending (fun _ _ _ h hstep => h.step hstep)
    ((unused_construct net memory ip port).sending rfl)).mono fun _ => Sending.drains

end MultiplayerServer
