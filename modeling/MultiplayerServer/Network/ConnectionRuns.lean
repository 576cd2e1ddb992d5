import MultiplayerServer.Machinery.Runs
import MultiplayerServer.Network.AsioTcpConnection

/-!
# Network/ConnectionRuns — the runs of one connection

What can happen to a connection between two handler invocations: its owner calls a member function
(`Call`), the `io_context` delivers a completion of an outstanding operation (`Completion`), or the
server accepts a peer on it.  A completion may come at any time after its operation was initiated,
before or after `close()`, with success or with an error; `Takes` is the only thing a successful
write has to respect.

`settle` keeps the socket's `link` true to the operating system.  It looks at `epoch`, which no
handler does: what a completion says is about the socket its operation was initiated on.
-/

namespace MultiplayerServer

open Machinery

/-- A call of a member function.  Left out are `send` and `receive`, which block
(`Network/BlockingTransfer`), `start_receive`, `on_…` and `handle_…`, which the server and the
handlers call, `get_status(ConnectionStatus)` of `Connection`, which nobody does, and those that
only read, or set an option or a number for one. -/
inductive Call
  | setConnectedCallback (set : Bool)
  | setDisconnectedCallback (set : Bool)
  | setReceiveCallback (set : Bool)
  | connect (outcome : AsioTcpConnection.ConnectOutcome)
  | asyncConnect (resolved : Bool)
  | asyncSend (data : Bytes)
  | close
  /-- The destructor, after which nothing happens any more. -/
  | destroy
  deriving DecidableEq

/-- What the `io_context` does with an outstanding operation. -/
inductive Completion
  | connect (op : ConnectOp) (error : Bool)
  /-- `handle_send`, with the bytes the socket accepted; `none` is an error. -/
  | send (op : WriteOp) (accepted : Option Bytes)
  /-- A read stores its bytes; its completion is still to come. -/
  | fill (op : ReadOp) (chunk : Chunk)
  /-- `handle_receive` without error, for a read that has stored its bytes. -/
  | receive (op : ReadOp) (early : Option Chunk)
  | receiveError (op : ReadOp)
  deriving DecidableEq

/-- An event in the life of a connection. -/
inductive Event
  | call (f : Call)
  | completion (d : Completion)
  /-- The server accepts a peer on this connection, and the game has `taken` it or not. -/
  | accept (taken : Bool)
  deriving DecidableEq

namespace AsioTcpConnection

variable (c : AsioTcpConnection)

/-- The owner asks for a new connection. -/
def requestConnect : AsioTcpConnection :=
  { c with connectEpoch := c.epoch }.emit .connectRequested

/-- What a completion of an operation initiated at `epoch` tells of the socket. -/
def settle (epoch : ℕ) (error : Bool) : AsioTcpConnection :=
  if epoch = c.epoch then
    { c with socket := if error then c.socket.fail else c.socket.establish }
  else c

/-- A call of the owner. -/
def call : Call → AsioTcpConnection
  | .setConnectedCallback set => { c with connectedCallback := set }
  | .setDisconnectedCallback set => { c with disconnectedCallback := set }
  | .setReceiveCallback set => { c with receivedCallback := set }
  | .connect outcome => (c.requestConnect.connect outcome).2
  | .asyncConnect resolved => (c.requestConnect.asyncConnect resolved).2
  | .asyncSend data => ((c.emit (.sent data)).asyncSend data).2
  | .close => c.close
  | .destroy => { c.close with alive := false }

/-- The delivery of a completion; `none` when there is no such operation outstanding. -/
def complete : Completion → Option AsioTcpConnection
  | .connect op error =>
    if op ∈ c.connects then
      some (({ c with connects := c.connects.erase op }.settle op.epoch error).handleConnect error)
    else none
  | .send op (some data) =>
    if op ∈ c.writes ∧ op.Takes data then
      some (({ c with writes := c.writes.erase op }.emit (.accepted data)).handleSend false
        data.length)
    else none
  | .send op none =>
    if op ∈ c.writes then
      some (({ c with writes := c.writes.erase op }.settle op.epoch true).handleSend true 0)
    else none
  | .fill op chunk =>
    if op ∈ c.reads ∧ op.stored = none then some (c.fill op chunk) else none
  | .receive op early =>
    match op.stored with
    | some chunk =>
      if op ∈ c.reads then
        some ({ c with reads := c.reads.erase op }.handleReceive false chunk.bytes.length early)
      else none
    | none => none
  | .receiveError op =>
    if op ∈ c.reads ∧ op.stored = none then
      some (({ c with reads := c.reads.erase op }.settle op.epoch true).handleReceive true 0 none)
    else none

/-- A peer is accepted on the connection, which starts to read if the game `taken` it. -/
def acceptPeer (taken : Bool) : AsioTcpConnection :=
  let c := { c with socket := c.socket.establish }
  if taken then c.startReceive else c

/-- The server accepts only on a connection nothing has happened to, and the operating system only
on a socket that is not open. -/
def accept (taken : Bool) : Option AsioTcpConnection :=
  if c.status = .kNone ∧ c.socket.isOpen = false ∧ c.history = [] then some (c.acceptPeer taken)
  else none

/-- One event. -/
def step (c : AsioTcpConnection) (e : Event) : Option AsioTcpConnection :=
  if c.alive then
    match e with
    | .call f => some (c.call f)
    | .completion d => c.complete d
    | .accept taken => c.accept taken
  else none

/-- The runs of a connection. -/
def machine : Machine AsioTcpConnection Event := ⟨step⟩

/-- The completions alone: what is still delivered when the owner makes no more calls. -/
def completions : Machine AsioTcpConnection Completion := machine.comap .completion

variable {c}

/-! ## What an event can do -/

@[simp] theorem requestConnect_frame :
    c.requestConnect.status = c.status ∧ c.requestConnect.socket = c.socket
      ∧ c.requestConnect.receivedCallback = c.receivedCallback
      ∧ c.requestConnect.receiveBuffer = c.receiveBuffer
      ∧ c.requestConnect.sendBuffer = c.sendBuffer ∧ c.requestConnect.isSending = c.isSending
      ∧ c.requestConnect.connects = c.connects ∧ c.requestConnect.writes = c.writes
      ∧ c.requestConnect.reads = c.reads ∧ c.requestConnect.epoch = c.epoch
      ∧ c.requestConnect.connectEpoch = c.epoch
      ∧ c.requestConnect.history = c.history ++ [.connectRequested] := by
  simp [requestConnect]

@[simp] theorem settle_frame (epoch : ℕ) (error : Bool) :
    (c.settle epoch error).status = c.status
      ∧ (c.settle epoch error).connectedCallback = c.connectedCallback
      ∧ (c.settle epoch error).disconnectedCallback = c.disconnectedCallback
      ∧ (c.settle epoch error).receivedCallback = c.receivedCallback
      ∧ (c.settle epoch error).receiveBuffer = c.receiveBuffer
      ∧ (c.settle epoch error).sendBuffer = c.sendBuffer
      ∧ (c.settle epoch error).isSending = c.isSending
      ∧ (c.settle epoch error).connects = c.connects ∧ (c.settle epoch error).writes = c.writes
      ∧ (c.settle epoch error).reads = c.reads ∧ (c.settle epoch error).epoch = c.epoch
      ∧ (c.settle epoch error).connectEpoch = c.connectEpoch
      ∧ (c.settle epoch error).alive = c.alive
      ∧ (c.settle epoch error).history = c.history := by
  rw [settle]
  split <;> simp

/-- A completion of an earlier epoch says nothing about the socket. -/
theorem settle_socket (epoch : ℕ) (error : Bool) :
    (c.settle epoch error).socket =
      if epoch = c.epoch then if error then c.socket.fail else c.socket.establish
      else c.socket := by
  rw [settle]
  split <;> rfl

variable {c' : AsioTcpConnection}

theorem step_call {f : Call} (h : machine.step c (.call f) = some c') : c' = c.call f := by
  simp only [machine, step, Option.ite_none_right_eq_some, Option.some.injEq] at h
  exact h.2.symm

theorem step_completion {d : Completion} (h : machine.step c (.completion d) = some c') :
    c.complete d = some c' := by
  simp only [machine, step, Option.ite_none_right_eq_some] at h
  exact h.2

theorem step_accept {taken : Bool} (h : machine.step c (.accept taken) = some c') :
    c.status = .kNone ∧ c' = c.acceptPeer taken := by
  simp only [machine, step, accept, Option.ite_none_right_eq_some, Option.some.injEq] at h
  exact ⟨h.2.1.1, h.2.2.symm⟩

@[simp] theorem acceptPeer_frame (taken : Bool) :
    (c.acceptPeer taken).status = c.status ∧ (c.acceptPeer taken).socket = c.socket.establish
      ∧ (c.acceptPeer taken).connects = c.connects ∧ (c.acceptPeer taken).epoch = c.epoch
      ∧ (c.acceptPeer taken).connectEpoch = c.connectEpoch
      ∧ (c.acceptPeer taken).history = c.history
        ++ if taken then [.initiatedRead ⟨c.epoch, none⟩] else [] := by
  cases taken <;> simp [acceptPeer]

theorem complete_connect {op : ConnectOp} {error : Bool}
    (h : c.complete (.connect op error) = some c') :
    op ∈ c.connects ∧ c' = ({ c with connects := c.connects.erase op }.settle op.epoch
      error).handleConnect error := by
  simp only [complete, Option.ite_none_right_eq_some, Option.some.injEq] at h
  exact ⟨h.1, h.2.symm⟩

theorem complete_send {op : WriteOp} {data : Bytes}
    (h : c.complete (.send op (some data)) = some c') :
    op ∈ c.writes ∧ op.Takes data ∧ c' = ({ c with writes := c.writes.erase op }.emit
      (.accepted data)).handleSend false data.length := by
  simp only [complete, Option.ite_none_right_eq_some, Option.some.injEq] at h
  exact ⟨h.1.1, h.1.2, h.2.symm⟩

theorem complete_sendError {op : WriteOp} (h : c.complete (.send op none) = some c') :
    op ∈ c.writes ∧ c' = ({ c with writes := c.writes.erase op }.settle op.epoch true).handleSend
      true 0 := by
  simp only [complete, Option.ite_none_right_eq_some, Option.some.injEq] at h
  exact ⟨h.1, h.2.symm⟩

theorem complete_fill {op : ReadOp} {chunk : Chunk} (h : c.complete (.fill op chunk) = some c') :
    op ∈ c.reads ∧ op.stored = none ∧ c' = c.fill op chunk := by
  simp only [complete, Option.ite_none_right_eq_some, Option.some.injEq] at h
  exact ⟨h.1.1, h.1.2, h.2.symm⟩

theorem complete_receive {op : ReadOp} {early : Option Chunk}
    (h : c.complete (.receive op early) = some c') :
    op ∈ c.reads ∧ ∃ chunk, op.stored = some chunk ∧ c' = { c with
      reads := c.reads.erase op }.handleReceive false chunk.bytes.length early := by
  simp only [complete] at h
  split at h
  case h_1 chunk hstored =>
    simp only [Option.ite_none_right_eq_some, Option.some.injEq] at h
    exact ⟨h.1, chunk, hstored, h.2.symm⟩
  case h_2 => cases h

theorem complete_receiveError {op : ReadOp} (h : c.complete (.receiveError op) = some c') :
    op ∈ c.reads ∧ op.stored = none ∧ c' = ({ c with reads := c.reads.erase op }.settle op.epoch
      true).close := by
  simp only [complete, Option.ite_none_right_eq_some, Option.some.injEq] at h
  exact ⟨h.1.1, h.1.2, h.2.symm⟩

/-- What the world sees of a call. -/
def effectsOfCall (c : AsioTcpConnection) : Call → List Effect
  | .connect _ => [.connectRequested]
  | .asyncConnect resolved =>
    .connectRequested
      :: if c.status = .kConnected ∨ c.status = .kConnecting then []
        else if resolved then [.initiatedConnect ⟨c.serial, c.epoch⟩] else []
  | .asyncSend data =>
    .sent data
      :: if c.sendBuffer.length > 0 then []
        else if c.isSending then [] else [.initiatedWrite ⟨c.epoch, c.sendBuffer.head?⟩]
  | .close => if c.status ≠ .kClosed ∧ c.disconnectedCallback then [.disconnected] else []
  | .destroy => if c.status ≠ .kClosed ∧ c.disconnectedCallback then [.disconnected] else []
  | _ => []

theorem call_history (f : Call) : (c.call f).history = c.history ++ c.effectsOfCall f := by
  cases f with
  | asyncConnect resolved =>
    simp [call, effectsOfCall, asyncConnect_history, requestConnect]
  | asyncSend data => simp [call, effectsOfCall, asyncSend_history]
  | close => exact close_history
  | destroy => exact close_history
  | _ => simp [call, effectsOfCall]

/-! ## A completion, field by field

Everything later modules need of a handler: they read its fields off `Completed` and unfold none of
it. -/

/-- What the world sees of a completion. -/
def effectsOf (c : AsioTcpConnection) : Completion → List Effect
  | .connect _ error =>
    (if c.connectedCallback then [.connected (!error)] else [])
      ++ if error then [] else [.initiatedRead ⟨c.epoch, none⟩]
  | .send _ accepted =>
    accepted.toList.map .accepted
      ++ if c.unsent accepted.isNone = [] then []
        else [.initiatedWrite ⟨c.epoch, (c.unsent accepted.isNone).head?⟩]
  | .fill _ chunk => [.stored chunk]
  | .receive op early =>
    .initiatedRead ⟨c.epoch, none⟩ :: early.toList.map .stored
      ++ if c.receivedCallback then
          [.received ((c.armedBuffer early).bytes.take (op.stored.elim 0 (·.bytes.length)))]
        else []
  | .receiveError _ =>
    if c.status ≠ .kClosed ∧ c.disconnectedCallback then [.disconnected] else []

/-- `status_` after a completion: the two connect handlers and the failed read write it. -/
@[simp] def statusAfter (c : AsioTcpConnection) : Completion → ConnectionStatus
  | .connect _ error => if error then .kDisconnected else .kConnected
  | .receiveError _ => .kClosed
  | _ => c.status

@[simp] def socketAfter (c : AsioTcpConnection) : Completion → Socket
  | .connect op error => (c.settle op.epoch error).socket
  | .send op none => (c.settle op.epoch true).socket
  | .receiveError op =>
    if c.status = .kClosed then (c.settle op.epoch true).socket else c.socket.close
  | _ => c.socket

@[simp] def sendBufferAfter (c : AsioTcpConnection) : Completion → List Bytes
  | .send _ accepted => c.unsent accepted.isNone
  | _ => c.sendBuffer

@[simp] def connectsAfter (c : AsioTcpConnection) : Completion → List ConnectOp
  | .connect op _ => c.connects.erase op
  | _ => c.connects

/-- The outstanding writes after a completion: the completed one is gone, and what is left in the
queue is written on. -/
@[simp] def writesAfter (c : AsioTcpConnection) : Completion → List WriteOp
  | .send op accepted =>
    c.writes.erase op ++ if c.unsent accepted.isNone = [] then []
      else [⟨c.epoch, (c.unsent accepted.isNone).head?⟩]
  | _ => c.writes

/-- The outstanding reads after a completion: a connect that succeeds and a read that succeeds each
arm one. -/
@[simp] def readsAfter (c : AsioTcpConnection) : Completion → List ReadOp
  | .connect _ error => c.reads ++ if error then [] else [⟨c.epoch, none⟩]
  | .send _ _ => c.reads
  | .fill op chunk => c.reads.erase op ++ [{ op with stored := some chunk }]
  | .receive op early => { c with reads := c.reads.erase op }.armedReads early
  | .receiveError op => c.reads.erase op

@[simp] def receiveBufferAfter (c : AsioTcpConnection) : Completion → ReceiveBuffer
  | .fill _ chunk => c.receiveBuffer.store chunk
  | .receive _ early => c.armedBuffer early
  | _ => c.receiveBuffer

@[simp] def epochAfter (c : AsioTcpConnection) : Completion → ℕ
  | .receiveError _ => c.epoch + 1
  | _ => c.epoch

/-- The connection after a completion. -/
structure Completed (c : AsioTcpConnection) (d : Completion) (c' : AsioTcpConnection) : Prop where
  status : c'.status = c.statusAfter d
  socket : c'.socket = c.socketAfter d
  sendBuffer : c'.sendBuffer = c.sendBufferAfter d
  connects : c'.connects = c.connectsAfter d
  writes : c'.writes = c.writesAfter d
  reads : c'.reads = c.readsAfter d
  receivedCallback : c'.receivedCallback = c.receivedCallback
  receiveBuffer : c'.receiveBuffer = c.receiveBufferAfter d
  epoch : c'.epoch = c.epochAfter d
  connectEpoch : c'.connectEpoch = c.connectEpoch
  alive : c'.alive = c.alive
  history : c'.history = c.history ++ c.effectsOf d

theorem completed {d : Completion} (h : c.complete d = some c') : Completed c d c' := by
  cases d with
  | connect op error =>
    obtain ⟨_, rfl⟩ := complete_connect h
    constructor <;> simp [settle_socket, handleConnect_reads, handleConnect_history, effectsOf]
  | send op accepted =>
    cases accepted with
    | some data =>
      obtain ⟨_, _, rfl⟩ := complete_send h
      constructor <;> simp [unsent, handleSend_writes, handleSend_history, effectsOf]
    | none =>
      obtain ⟨_, rfl⟩ := complete_sendError h
      constructor <;>
        simp [unsent, settle_socket, handleSend_writes, handleSend_history, effectsOf]
  | fill op chunk =>
    obtain ⟨_, _, rfl⟩ := complete_fill h
    constructor <;> simp [effectsOf]
  | receive op early =>
    obtain ⟨_, chunk, hstored, rfl⟩ := complete_receive h
    constructor <;> simp [handleReceive_history, effectsOf, hstored] <;> rfl
  | receiveError op =>
    obtain ⟨_, _, rfl⟩ := complete_receiveError h
    constructor <;> simp [close_history, close_socket, settle_socket, Socket.close, effectsOf]

end AsioTcpConnection

end MultiplayerServer
