import MultiplayerServer.Network.ConnectionRuns

/-!
# Network/ReceiveStream — what `received_callback_` is given

There is one `receive_buffer_` for all reads of a connection, and `handle_receive` arms the next
read before it hands over what the last one stored.  Whatever is waiting at the socket by then is
stored on top of it.

* `deliversStream_iff` — the chunks are handed over as they came in exactly the runs in which a
  chunk stored early begins with the chunk it is stored over, or the other way round.
-/

namespace MultiplayerServer

open Machinery

/-- A step of a receiving connection.  The chain of its reads has been started: neither the
completion of a connect nor an accept, which start another, is among them.  A handler is one step,
`early` being all that comes between the arming of the next read and the call of
`received_callback_`. -/
inductive ReadEvent
  | store (op : ReadOp) (chunk : Chunk)
  | handleReceive (op : ReadOp) (early : Option Chunk)
  | handleReceiveError (op : ReadOp)
  | handleSend (op : WriteOp) (accepted : Option Bytes)
  /-- Any call that leaves `received_callback_` as it is. -/
  | call (f : Call) (keeps : ∀ set, f ≠ .setReceiveCallback set)

namespace ReadEvent

/-- A step of a receiving connection, among the events of a connection. -/
@[simp] def toEvent : ReadEvent → Event
  | .store op chunk => .completion (.fill op chunk)
  | .handleReceive op early => .completion (.receive op early)
  | .handleReceiveError op => .completion (.receiveError op)
  | .handleSend op accepted => .completion (.send op accepted)
  | .call f _ => .call f

/-- What the new read stores at once leaves the chunk to be handed over as it is: one of the two
begins with the other. -/
def Spares : ReadEvent → Prop
  | .handleReceive op early =>
    ∀ chunk ∈ op.stored, ∀ next ∈ early, next.bytes <+: chunk.bytes ∨ chunk.bytes <+: next.bytes
  | _ => True

end ReadEvent

/-- The bytes passed to `received_callback_`. -/
@[simp] def Effect.receivedBytes : Effect → Option Bytes
  | .received data => some data
  | _ => none

/-- The bytes a read stored. -/
@[simp] def Effect.storedBytes : Effect → Option Bytes
  | .stored chunk => some chunk.bytes
  | _ => none

namespace AsioTcpConnection

/-- The runs of a receiving connection. -/
def receives : Machine AsioTcpConnection ReadEvent := machine.comap ReadEvent.toEvent

/-- What was passed to `received_callback_` so far. -/
def delivered (c : AsioTcpConnection) : List Bytes := c.history.filterMap Effect.receivedBytes

/-- The chunks read from the socket so far. -/
def chunksRead (c : AsioTcpConnection) : List Bytes := c.history.filterMap Effect.storedBytes

/-- The chunks whose completion is still to be delivered. -/
def pending (c : AsioTcpConnection) : List Bytes :=
  c.reads.filterMap fun op => op.stored.map Chunk.bytes

/-- **The stream is delivered unchanged**: what the callback was given, followed by what it is still
owed, is what was read, chunk by chunk. -/
def DeliversStream (c : AsioTcpConnection) : Prop := c.delivered ++ c.pending = c.chunksRead

instance (c : AsioTcpConnection) : Decidable c.DeliversStream :=
  inferInstanceAs (Decidable (_ = _))

/-- A connection that has just begun to receive. -/
structure Receiving (c : AsioTcpConnection) : Prop where
  receivedCallback : c.receivedCallback = true
  reads : c.reads = [⟨c.epoch, none⟩]
  delivered : c.delivered = []
  chunksRead : c.chunksRead = []

/-- At most one read is outstanding, and a chunk whose completion is still to be delivered is what
`receive_buffer_` starts with. -/
structure OneRead (c : AsioTcpConnection) : Prop where
  receivedCallback : c.receivedCallback = true
  single : c.reads.length ≤ 1
  holds : ∀ op ∈ c.reads, ∀ chunk ∈ op.stored,
    c.receiveBuffer.bytes.take chunk.bytes.length = chunk.bytes
  delivers : c.DeliversStream

variable {c c' : AsioTcpConnection}

theorem Receiving.oneRead (h : c.Receiving) : c.OneRead where
  receivedCallback := h.receivedCallback
  single := by simp [h.reads]
  holds := by simp [h.reads]
  delivers := by simp [DeliversStream, pending, h.delivered, h.chunksRead, h.reads]

/-- Both ways to a receiving connection: a connect of its own… -/
theorem receiving_connected (net : Net) (memory : ReceiveBuffer) (ip : String) (port : ℤ) :
    ∃ c, machine.exec (construct net memory ip port)
        [.call (.setReceiveCallback true), .call (.asyncConnect true),
          .completion (.connect ⟨0, 0⟩ false)] = some c ∧ c.Receiving := by
  refine ⟨_, rfl, ?_⟩
  constructor <;> rfl

/-- …and an accept. -/
theorem receiving_accepted (net : Net) (memory : ReceiveBuffer) (ip : String) (port : ℤ) :
    (((construct net memory ip port).call (.setReceiveCallback true)).acceptPeer
      true).Receiving := by
  constructor <;> rfl

/-! ## The steps -/

/-- Effects that neither read nor hand over. -/
theorem OneRead.of_quiet (h : c.OneRead) {effects : List Effect}
    (hcallback : c'.receivedCallback = c.receivedCallback)
    (hbuffer : c'.receiveBuffer = c.receiveBuffer) (hreads : c'.reads = c.reads)
    (hhistory : c'.history = c.history ++ effects)
    (hquiet : ∀ e ∈ effects, e.receivedBytes = none ∧ e.storedBytes = none) : c'.OneRead where
  receivedCallback := hcallback.trans h.receivedCallback
  single := hreads ▸ h.single
  holds := by rw [hreads, hbuffer]; exact h.holds
  delivers := by
    have hreceived : effects.filterMap Effect.receivedBytes = [] :=
      List.filterMap_eq_nil_iff.mpr fun e he => (hquiet e he).1
    have hstored : effects.filterMap Effect.storedBytes = [] :=
      List.filterMap_eq_nil_iff.mpr fun e he => (hquiet e he).2
    have hd := h.delivers
    simp only [DeliversStream, AsioTcpConnection.delivered, AsioTcpConnection.chunksRead, pending,
      hhistory, hreads, List.filterMap_append, hreceived, hstored, List.append_nil] at hd ⊢
    exact hd

/-- A call is such an effect… -/
theorem effectsOfCall_quiet {f : Call} {e : Effect} (he : e ∈ c.effectsOfCall f) :
    e.receivedBytes = none ∧ e.storedBytes = none := by
  cases f <;> grind [effectsOfCall, Effect.receivedBytes, Effect.storedBytes]

/-- …and touches nothing of the reads. -/
theorem call_reads (f : Call) :
    (c.call f).reads = c.reads ∧ (c.call f).receiveBuffer = c.receiveBuffer := by
  cases f <;> simp [call]

theorem call_receivedCallback {f : Call} (keeps : ∀ set, f ≠ .setReceiveCallback set) :
    (c.call f).receivedCallback = c.receivedCallback := by
  cases f with
  | setReceiveCallback set => exact absurd rfl (keeps set)
  | _ => simp [call]

/-- The one read there is. -/
theorem OneRead.reads_eq (h : c.OneRead) {op : ReadOp} (hop : op ∈ c.reads) : c.reads = [op] := by
  obtain ⟨op', hop'⟩ := List.length_eq_one_iff.mp
    (le_antisymm h.single (List.length_pos_of_mem hop))
  rw [hop', List.mem_singleton] at hop
  rw [hop', hop]

/-- A read that stores owes the callback its chunk. -/
theorem OneRead.store (h : c.OneRead) {op : ReadOp} {chunk : Chunk}
    (hd : c.complete (.fill op chunk) = some c') : c'.OneRead := by
  obtain ⟨hop, hnone, rfl⟩ := complete_fill hd
  have hreads := h.reads_eq hop
  have hdel : c.delivered = c.chunksRead := by
    simpa [DeliversStream, pending, hreads, hnone] using h.delivers
  constructor
  · exact h.receivedCallback
  · simp [hreads]
  · simp [hreads]
  · simp only [DeliversStream, delivered, chunksRead, pending, fill, emit, hreads,
      List.filterMap_append, Effect.receivedBytes, Effect.storedBytes] at hdel ⊢
    simp [hdel, List.filterMap_cons]

/-- A read that fails owes it nothing. -/
theorem OneRead.fail (h : c.OneRead) {op : ReadOp}
    (hd : c.complete (.receiveError op) = some c') : c'.OneRead := by
  have hc := completed hd
  obtain ⟨hop, hnone, -⟩ := complete_receiveError hd
  have hreads : c'.reads = [] := by rw [hc.reads, readsAfter, h.reads_eq hop, List.erase_cons_head]
  have hdel : c.delivered = c.chunksRead := by
    simpa [DeliversStream, pending, h.reads_eq hop, hnone] using h.delivers
  constructor
  · exact hc.receivedCallback.trans h.receivedCallback
  · simp [hreads]
  · simp [hreads]
  · simp only [DeliversStream, delivered, chunksRead, pending, hc.history, hreads,
      List.filterMap_append, effectsOf] at hdel ⊢
    split <;> simp [hdel, List.filterMap_cons]

/-- **What `handle_receive` hands over** is what the array starts with once the next read is
armed. -/
theorem OneRead.receive (h : c.OneRead) {op : ReadOp} {early : Option Chunk}
    (hd : c.complete (.receive op early) = some c') :
    ∃ chunk, op.stored = some chunk
      ∧ c.receiveBuffer.bytes.take chunk.bytes.length = chunk.bytes
      ∧ c.delivered ++ [chunk.bytes] = c.chunksRead
      ∧ c'.delivered
        = c.delivered ++ [(c.armedBuffer early).bytes.take chunk.bytes.length]
      ∧ c'.pending = early.toList.map Chunk.bytes
      ∧ c'.chunksRead = c.chunksRead ++ early.toList.map Chunk.bytes := by
  have hc := completed hd
  obtain ⟨hop, chunk, hstored, -⟩ := complete_receive hd
  have hreads := h.reads_eq hop
  refine ⟨chunk, hstored, h.holds op hop chunk hstored, ?_, ?_, ?_, ?_⟩
  · simpa [DeliversStream, pending, hreads, hstored] using h.delivers
  · cases early <;> simp [delivered, hc.history, effectsOf, hstored, h.receivedCallback,
      List.filterMap_cons]
  · cases early <;> simp [pending, hc.reads, hreads, armedReads]
  · cases early <;> simp [chunksRead, hc.history, effectsOf, hstored, h.receivedCallback,
      List.filterMap_cons]

/-- **The chunk is handed over as it was read exactly when the next one spares it.** -/
theorem OneRead.delivers_iff (h : c.OneRead) {op : ReadOp} {early : Option Chunk}
    (hd : c.complete (.receive op early) = some c') :
    c'.DeliversStream ↔ (ReadEvent.handleReceive op early).Spares := by
  obtain ⟨chunk, hstored, hholds, hbefore, hdelivered, hpending, hread⟩ := h.receive hd
  have hstep : c'.DeliversStream
      ↔ (c.armedBuffer early).bytes.take chunk.bytes.length = chunk.bytes := by
    rw [DeliversStream, hdelivered, hpending, hread, ← hbefore, List.append_left_inj,
      List.append_right_inj, List.cons.injEq, and_iff_left rfl]
  rw [hstep]
  cases early with
  | none => simp [armedBuffer, hholds, ReadEvent.Spares]
  | some next =>
    rw [armedBuffer, ReceiveBuffer.store, take_overlay_eq_iff hholds]
    simp [ReadEvent.Spares, hstored]

theorem OneRead.receive_oneRead (h : c.OneRead) {op : ReadOp} {early : Option Chunk}
    (hd : c.complete (.receive op early) = some c') (hdel : c'.DeliversStream) : c'.OneRead := by
  have hc := completed hd
  obtain ⟨hop, -⟩ := complete_receive hd
  have hreads : c'.reads = [⟨c.epoch, early⟩] := by
    cases early <;> simp [hc.reads, h.reads_eq hop, armedReads]
  refine ⟨hc.receivedCallback.trans h.receivedCallback, by simp [hreads], ?_, hdel⟩
  rw [hreads, hc.receiveBuffer]
  cases early <;> simp [armedBuffer]

/-- **Every other step keeps the stream.** -/
theorem OneRead.step (h : c.OneRead) {e : ReadEvent} (hstep : receives.step c e = some c')
    (he : e.Spares) : c'.OneRead := by
  match e with
  | .store op chunk => exact h.store (step_completion hstep)
  | .handleReceiveError op => exact h.fail (step_completion hstep)
  | .handleReceive op early =>
    have hd := step_completion hstep
    exact h.receive_oneRead hd ((h.delivers_iff hd).mpr he)
  | .handleSend op accepted =>
    have hc := completed (step_completion hstep)
    refine h.of_quiet hc.receivedCallback hc.receiveBuffer hc.reads hc.history ?_
    simp only [effectsOf]
    split_ifs <;> cases accepted <;> simp
  | .call f keeps =>
    obtain rfl := step_call hstep
    exact h.of_quiet (call_receivedCallback keeps) (call_reads f).2 (call_reads f).1
      (call_history f) fun _ => effectsOfCall_quiet

end AsioTcpConnection

open AsioTcpConnection

/-- **The callback is given the stream in exactly the runs in which every chunk stored early spares
the one before it.** -/
theorem deliversStream_iff {c : AsioTcpConnection} (h : c.Receiving) (es : List ReadEvent) :
    receives.Always DeliversStream c es ↔ receives.Along (fun _ e _ => e.Spares) c es := by
  refine Machine.always_iff_along OneRead (fun _ h => h.delivers) 
    (fun _ _ _ h hstep he => h.step hstep he) ?_ h.oneRead
  intro c e c' h hstep hdel
  match e with
  | .handleReceive op early => exact (h.delivers_iff (step_completion hstep)).mp hdel
  | .store _ _ | .handleReceiveError _ | .handleSend _ _ | .call _ _ => trivial

/-- Two chunks: the second is stored over the first, and begins with it. -/
theorem deliversStream_of_spared :
    receives.Always DeliversStream
      (((construct .loopback .zeroes "localhost" 8080).call (.setReceiveCallback true)).acceptPeer
        true)
      [.store ⟨0, none⟩ ⟨[1], by decide, by decide⟩,
        .handleReceive ⟨0, some ⟨[1], by decide, by decide⟩⟩
          (some ⟨[1, 2], by decide, by decide⟩),
        .handleReceive ⟨0, some ⟨[1, 2], by decide, by decide⟩⟩ none] :=
  (deliversStream_iff (receiving_accepted .loopback .zeroes "localhost" 8080) _).mpr
    fun _ _ => ⟨trivial, fun _ _ => ⟨by rintro _ ⟨⟩ _ ⟨⟩; exact Or.inr ⟨[2], rfl⟩, fun _ _ =>
      ⟨fun _ _ _ h => (Option.not_mem_none _ h).elim, trivial⟩⟩⟩

/-- The second chunk is waiting when the first is handled: the callback is given the second. -/
theorem not_deliversStream_of_fastPeer :
    ¬ receives.Always DeliversStream
      (((construct .loopback .zeroes "localhost" 8080).call (.setReceiveCallback true)).acceptPeer
        true)
      [.store ⟨0, none⟩ ⟨[1], by decide, by decide⟩,
        .handleReceive ⟨0, some ⟨[1], by decide, by decide⟩⟩
          (some ⟨[2], by decide, by decide⟩)] := by
  intro h
  have hend := h.last rfl
  exact absurd hend (by decide)

end MultiplayerServer
