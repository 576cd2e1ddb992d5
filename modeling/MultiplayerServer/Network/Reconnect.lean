import MultiplayerServer.Network.ConnectionRuns

/-!
# Network/Reconnect — the status, the socket, and the connection before this one

`status_` is written by three routes that establish a connection and two that tear one down, none of
which looks at the socket; and `close()` followed by a new `connect()` gives the same object a
second connection, whose handlers are the first one's.

* `statusAgrees_iff` — on which runs `kConnected` says what the socket is;
* `staleUntouched_iff` — which late completions of an earlier connection leave a later one alone.
-/

namespace MultiplayerServer

open Machinery

namespace AsioTcpConnection

variable {c c' : AsioTcpConnection}

/-! ## The status and the socket -/

/-- **`get_status()` is `kConnected` exactly when the socket holds a live connection**, so that
nothing is done to a live connection by connecting again. -/
structure StatusAgrees (c : AsioTcpConnection) : Prop where
  status_iff : c.status = .kConnected ↔ c.socket.link = .up
  connect_noop : c.socket.link = .up →
    ∀ outcome resolved, c.connect outcome = (true, c) ∧ c.asyncConnect resolved = (some true, c)

/-- The no-ops are a matter of the status alone. -/
theorem StatusAgrees.of_status_iff (h : c.status = .kConnected ↔ c.socket.link = .up) :
    c.StatusAgrees where
  status_iff := h
  connect_noop hup outcome resolved :=
    ⟨connect_of_busy (Or.inl (h.mpr hup)) outcome,
      asyncConnect_of_busy (Or.inl (h.mpr hup)) resolved⟩

/-- The events after which the status still says what the socket is: no accept, no error of a write
of the live connection, and no connect completion from before a `close()`, unless it happens to
report what the socket is anyway. -/
def Truthful (c : AsioTcpConnection) : Event → Prop
  | .accept _ => False
  | .completion (.connect op error) =>
    op.epoch = c.epoch ∨ if error then c.socket.link ≠ .up else c.socket.link = .up
  | .completion (.send op none) => op.epoch = c.epoch → c.socket.link ≠ .up
  | _ => True

theorem close_link_ne_up (h : c.status = .kConnected ↔ c.socket.link = .up) :
    c.close.socket.link ≠ .up := by
  rw [close_socket]
  split
  · rename_i hcl
    exact fun hup => by simp [h.mpr hup] at hcl
  · simp

theorem connect_agrees (h : c.status = .kConnected ↔ c.socket.link = .up)
    (outcome : ConnectOutcome) : (c.connect outcome).2.status = .kConnected
      ↔ (c.connect outcome).2.socket.link = .up := by
  unfold connect
  split
  · exact h
  · rename_i hidle
    have hdown : c.socket.link ≠ .up := fun hup => hidle (Or.inl (h.mpr hup))
    have hst : c.status ≠ .kConnected := fun hup => hidle (Or.inl hup)
    cases outcome <;> simp [Socket.connect, hdown, hst]

theorem asyncConnect_agrees (h : c.status = .kConnected ↔ c.socket.link = .up) (resolved : Bool) :
    (c.asyncConnect resolved).2.status = .kConnected
      ↔ (c.asyncConnect resolved).2.socket.link = .up := by
  rw [asyncConnect]
  split
  · exact h
  · rename_i hidle
    have hdown : c.socket.link ≠ .up := fun hup => hidle (Or.inl (h.mpr hup))
    cases resolved
    · exact h
    · simp [hdown]

/-- **No call of the owner parts the status from the socket.** -/
theorem call_agrees (h : c.status = .kConnected ↔ c.socket.link = .up) (f : Call) :
    (c.call f).status = .kConnected ↔ (c.call f).socket.link = .up := by
  cases f with
  | connect outcome => exact connect_agrees (by simpa using h) outcome
  | asyncConnect resolved => exact asyncConnect_agrees (by simpa using h) resolved
  | asyncSend data => simpa [call] using h
  | close => simpa [call] using close_link_ne_up h
  | destroy => simpa [call] using close_link_ne_up h
  | setConnectedCallback set => exact h
  | setDisconnectedCallback set => exact h
  | setReceiveCallback set => exact h

theorem settle_true_link_ne_up (h : c.socket.link ≠ .up) (epoch : ℕ) :
    (c.settle epoch true).socket.link ≠ .up := by
  rw [settle_socket]
  split <;> simp [h]

/-- **A completion keeps the status to the socket exactly when it is truthful.** -/
theorem complete_agrees_iff {d : Completion} (h : c.status = .kConnected ↔ c.socket.link = .up)
    (hd : c.complete d = some c') :
    (c'.status = .kConnected ↔ c'.socket.link = .up) ↔ c.Truthful (.completion d) := by
  have hc := completed hd
  rw [hc.status, hc.socket]
  cases d with
  | connect op error =>
    simp only [statusAfter, socketAfter, settle_socket, Truthful]
    by_cases hep : op.epoch = c.epoch <;> cases error <;> simp [hep]
  | send op accepted =>
    cases accepted with
    | some data => simpa [Truthful] using h
    | none =>
      simp only [statusAfter, socketAfter, settle_socket, Truthful, h]
      by_cases hep : op.epoch = c.epoch <;> simp [hep]
  | fill op chunk => simpa [Truthful] using h
  | receive op early => simpa [Truthful] using h
  | receiveError op =>
    simp only [statusAfter, socketAfter, Truthful, iff_true]
    split
    · rename_i hcl
      have hdown : c.socket.link ≠ .up := fun hup => by simp [h.mpr hup] at hcl
      simpa using settle_true_link_ne_up hdown op.epoch
    · simp

end AsioTcpConnection

open AsioTcpConnection

/-- **The status agrees with the socket on exactly the runs of truthful events.** -/
theorem statusAgrees_iff (net : Net) (memory : ReceiveBuffer) (ip : String) (port : ℤ)
    (es : List Event) :
    machine.Always StatusAgrees (construct net memory ip port) es
      ↔ machine.Along (fun c e _ => c.Truthful e) (construct net memory ip port) es := by
  refine Machine.always_iff_along (fun c => c.status = .kConnected ↔ c.socket.link = .up)
    (fun _ => StatusAgrees.of_status_iff) ?_ ?_ ?_
  · intro c e c' h hstep htrue
    cases e with
    | call f => exact step_call hstep ▸ call_agrees h f
    | completion d => exact (complete_agrees_iff h (step_completion hstep)).mpr htrue
    | accept taken => exact htrue.elim
  · intro c e c' h hstep hagrees
    cases e with
    | call f => trivial
    | completion d => exact (complete_agrees_iff h (step_completion hstep)).mp hagrees.status_iff
    | accept taken =>
      obtain ⟨hnone, rfl⟩ := step_accept hstep
      have := hagrees.status_iff
      simp [hnone] at this
  · simp only [construct]
    cases net.fromString ip with
    | none => simp
    | some family => cases family <;> simp

/-- A peer is accepted; nobody tells the status. -/
theorem not_statusAgrees_of_accept :
    ¬ machine.Always StatusAgrees (construct .loopback .zeroes "localhost" 8080)
      [.accept true] := by
  intro h
  have hend := (h.last rfl).status_iff
  exact absurd hend (by decide)

/-! ## The connection before this one

`connectEpoch` is `epoch` at the latest request for a connection.  An operation of a smaller epoch
was initiated before a `close()` that came before that request: it belongs to an earlier connection.
-/

/-- The epoch of the operation whose handler a completion invokes. -/
def Completion.opEpoch : Completion → Option ℕ
  | .connect op _ => some op.epoch
  | .send op _ => some op.epoch
  | .fill _ _ => none
  | .receive op _ => some op.epoch
  | .receiveError op => some op.epoch

/-- A call of `connected_callback_` or `disconnected_callback_`. -/
def Effect.isCallback : Effect → Bool
  | .connected _ => true
  | .disconnected => true
  | _ => false

namespace AsioTcpConnection

/-- A completion that belongs to an earlier connection. -/
def Stale (c : AsioTcpConnection) (d : Completion) : Prop := ∃ n ∈ d.opEpoch, n < c.connectEpoch

/-- The outstanding connects initiated since the latest request for a connection. -/
def newConnects (c : AsioTcpConnection) : List ConnectOp :=
  c.connects.filter (c.connectEpoch ≤ ·.epoch)

/-- The outstanding writes initiated since. -/
def newWrites (c : AsioTcpConnection) : List WriteOp :=
  c.writes.filter (c.connectEpoch ≤ ·.epoch)

/-- The outstanding reads initiated since. -/
def newReads (c : AsioTcpConnection) : List ReadOp :=
  c.reads.filter (c.connectEpoch ≤ ·.epoch)

/-- The calls of the connected and the disconnected callback. -/
def callbacks (c : AsioTcpConnection) : List Effect := c.history.filter Effect.isCallback

/-- **Nothing of the new connection has changed**: its status, its socket, its outstanding
operations, and what its owner was told. -/
structure Untouched (c c' : AsioTcpConnection) : Prop where
  status : c'.status = c.status
  socket : c'.socket = c.socket
  connects : c'.newConnects = c.newConnects
  writes : c'.newWrites = c.newWrites
  reads : c'.newReads = c.newReads
  callbacks : c'.callbacks = c.callbacks

/-- The stale completions that happen to do nothing. -/
def Inert (c : AsioTcpConnection) : Completion → Prop
  | .connect _ error => error = true ∧ c.status = .kDisconnected ∧ c.connectedCallback = false
  | .send _ (some _) => c.sendBuffer.length ≤ 1
  | .send _ none => c.sendBuffer = []
  | .fill _ _ => True
  | .receive _ _ => False
  | .receiveError _ => c.status = .kClosed

variable {c c' : AsioTcpConnection}

/-! ### Counting the new operations -/

/-- Taking an old operation off a list leaves the new ones of the list as they are. -/
theorem filter_erase_old {α : Type} [DecidableEq α] (new : α → Bool) {op : α} (hop : new op = false)
    (ops : List α) : (ops.erase op).filter new = ops.filter new := by
  rw [← List.erase_filter]
  exact List.erase_of_not_mem fun hmem => by simp [hop] at hmem

/-- So what matters is whether the handler put a new one in its place. -/
theorem filter_replace_old_iff {α : Type} [DecidableEq α] (new : α → Bool) {op : α}
    (hop : new op = false) (ops more : List α) :
    (ops.erase op ++ more).filter new = ops.filter new ↔ more.filter new = [] := by
  rw [List.filter_append, filter_erase_old new hop, List.append_right_eq_self]

/-- An armed read is one more new read, whether it stores at once or not. -/
theorem length_newReads_armed {n : ℕ} (hn : n ≤ c.epoch) (early : Option Chunk) :
    ((c.armedReads early).filter (n ≤ ·.epoch)).length
      = (c.reads.filter (n ≤ ·.epoch)).length + 1 := by
  cases early with
  | none => simp [armedReads, hn]
  | some chunk =>
    let op : ReadOp := ⟨c.epoch, none⟩
    have hmem : op ∈ (c.reads ++ [op]).filter (n ≤ ·.epoch) := by simp [op, hn]
    rw [armedReads, List.filter_append, ← List.erase_filter, List.length_append,
      List.length_erase_of_mem hmem]
    simp [op, hn]

/-- What a completion says is about the socket of its own epoch. -/
theorem settle_socket_of_ne {n : ℕ} (h : n ≠ c.epoch) (error : Bool) :
    (c.settle n error).socket = c.socket := by
  rw [settle_socket, if_neg h]

/-! ### The handlers, one by one -/

/-- A stale connect that succeeds starts a second chain of reads; one that fails sets the status and
calls back. -/
theorem untouched_connect_iff {op : ConnectOp} {error : Bool} (hle : c.connectEpoch ≤ c.epoch)
    (hlt : op.epoch < c.connectEpoch) (hc : Completed c (.connect op error) c') :
    Untouched c c' ↔ c.Inert (.connect op error) := by
  have hne : op.epoch ≠ c.epoch := by omega
  constructor
  · rintro ⟨hst, -, -, -, hr, hcb⟩
    cases error with
    | false =>
      simp [newReads, hc.connectEpoch, hc.reads, hle] at hr
    | true =>
      have hstatus : c'.status = .kDisconnected := hc.status
      refine ⟨rfl, hst ▸ hstatus, ?_⟩
      simpa [callbacks, hc.history, effectsOf, Effect.isCallback] using hcb
  · rintro ⟨rfl, hst, hcb⟩
    constructor
    · exact hc.status.trans hst.symm
    · exact hc.socket.trans (settle_socket_of_ne hne true)
    · rw [newConnects, hc.connectEpoch, hc.connects]
      exact filter_erase_old _ (by simpa using hlt) _
    · simp [newWrites, hc.connectEpoch, hc.writes]
    · simp [newReads, hc.connectEpoch, hc.reads]
    · simp [callbacks, hc.history, effectsOf, hcb]

/-- A stale write that completes with something left in the queue puts it on the new connection. -/
theorem untouched_send_iff {op : WriteOp} {accepted : Option Bytes} (hle : c.connectEpoch ≤ c.epoch)
    (hlt : op.epoch < c.connectEpoch) (hc : Completed c (.send op accepted) c') :
    Untouched c c' ↔ c.unsent accepted.isNone = [] := by
  have hne : op.epoch ≠ c.epoch := by omega
  have hwrites : c'.newWrites = c.newWrites ↔ c.unsent accepted.isNone = [] := by
    rw [newWrites, hc.connectEpoch, hc.writes, newWrites, writesAfter,
      filter_replace_old_iff _ (by simpa using hlt)]
    split <;> simp [*]
  refine ⟨fun h => hwrites.mp h.writes, fun hdone => ⟨hc.status, ?_, ?_, hwrites.mpr hdone, ?_, ?_⟩⟩
  · cases accepted with
    | some data => exact hc.socket
    | none => exact hc.socket.trans (settle_socket_of_ne hne true)
  · simp [newConnects, hc.connectEpoch, hc.connects]
  · simp [newReads, hc.connectEpoch, hc.reads]
  · cases accepted <;> simp_all [callbacks, hc.history, effectsOf, Effect.isCallback]

/-- A stale read that succeeds arms the next one. -/
theorem not_untouched_receive {op : ReadOp} {early : Option Chunk} (hle : c.connectEpoch ≤ c.epoch)
    (hlt : op.epoch < c.connectEpoch) (hc : Completed c (.receive op early) c') :
    ¬ Untouched c c' := by
  intro h
  have hlen : c'.newReads.length = c.newReads.length + 1 := by
    rw [newReads, hc.connectEpoch, hc.reads]
    refine (length_newReads_armed (c := { c with reads := c.reads.erase op }) hle early).trans ?_
    rw [filter_erase_old _ (by simpa using hlt), newReads]
  rw [h.reads] at hlen
  omega

/-- A stale read that fails closes the new connection, if it can still be closed. -/
theorem untouched_receiveError_iff {op : ReadOp} (hle : c.connectEpoch ≤ c.epoch)
    (hlt : op.epoch < c.connectEpoch) (hc : Completed c (.receiveError op) c') :
    Untouched c c' ↔ c.status = .kClosed := by
  have hne : op.epoch ≠ c.epoch := by omega
  refine ⟨fun h => h.status.symm.trans hc.status, fun hcl => ⟨hc.status.trans hcl.symm, ?_, ?_, ?_,
    ?_, ?_⟩⟩
  · exact hc.socket.trans ((if_pos hcl).trans (settle_socket_of_ne hne true))
  · simp [newConnects, hc.connectEpoch, hc.connects]
  · simp [newWrites, hc.connectEpoch, hc.writes]
  · rw [newReads, hc.connectEpoch, hc.reads]
    exact filter_erase_old _ (by simpa using hlt) _
  · simp [callbacks, hc.history, effectsOf, hcl]

/-- **One stale completion leaves the new connection alone exactly when it is inert.** -/
theorem untouched_iff_inert {d : Completion} (hle : c.connectEpoch ≤ c.epoch) (hstale : c.Stale d)
    (hd : c.complete d = some c') : Untouched c c' ↔ c.Inert d := by
  have hc := completed hd
  obtain ⟨n, hn, hlt⟩ := hstale
  cases d with
  | connect op error =>
    cases hn
    exact untouched_connect_iff hle hlt hc
  | send op accepted =>
    cases hn
    rw [untouched_send_iff hle hlt hc]
    cases accepted <;> simp [unsent, Inert, ← List.length_eq_zero_iff, Nat.sub_eq_zero_iff_le]
  | fill op chunk => cases hn
  | receive op early =>
    cases hn
    exact iff_of_false (not_untouched_receive hle hlt hc) id
  | receiveError op =>
    cases hn
    exact untouched_receiveError_iff hle hlt hc

/-- **No connection is requested in an epoch to come.** -/
theorem connectEpoch_le_epoch (c : AsioTcpConnection) (e : Event) (c' : AsioTcpConnection)
    (hle : c.connectEpoch ≤ c.epoch) (hstep : machine.step c e = some c') :
    c'.connectEpoch ≤ c'.epoch := by
  cases e with
  | call f =>
    rw [step_call hstep]
    cases f <;> simp [call] <;> omega
  | completion d =>
    have hc := completed (step_completion hstep)
    rw [hc.connectEpoch, hc.epoch]
    cases d <;> simp <;> omega
  | accept taken =>
    obtain ⟨-, rfl⟩ := step_accept hstep
    simpa using hle

end AsioTcpConnection

/-- **Stale completions leave a new connection alone in exactly the runs in which they are inert.**
-/
theorem staleUntouched_iff (net : Net) (memory : ReceiveBuffer) (ip : String) (port : ℤ)
    (es : List Event) :
    machine.Along (fun c e c' => ∀ d, e = .completion d → c.Stale d → Untouched c c')
        (construct net memory ip port) es
      ↔ machine.Along (fun c e _ => ∀ d, e = .completion d → c.Stale d → c.Inert d)
        (construct net memory ip port) es := by
  refine Machine.along_congr (fun c => c.connectEpoch ≤ c.epoch) connectEpoch_le_epoch ?_ le_rfl
  intro c e c' hle hstep
  refine forall_congr' fun d => forall_congr' fun he => forall_congr' fun hstale => ?_
  subst he
  exact untouched_iff_inert hle hstale (step_completion hstep)

/-- The read of the first connection is aborted once the second is up, and closes it. -/
theorem not_staleUntouched_of_abortedRead :
    ¬ machine.Along (fun c e c' => ∀ d, e = .completion d → c.Stale d → Untouched c c')
      (construct .loopback .zeroes "127.0.0.1" 8080)
      [.call (.asyncConnect true), .completion (.connect ⟨0, 0⟩ false), .call .close,
        .call (.connect .granted), .completion (.receiveError ⟨0, none⟩)] := by
  intro h
  obtain ⟨-, h⟩ := h _ rfl
  obtain ⟨-, h⟩ := h _ rfl
  obtain ⟨-, h⟩ := h _ rfl
  obtain ⟨-, h⟩ := h _ rfl
  have hclosed := ((h _ rfl).1 _ rfl ⟨0, rfl, by decide⟩).status
  exact absurd hclosed (by decide)

end MultiplayerServer
