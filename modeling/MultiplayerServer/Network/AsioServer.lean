import MultiplayerServer.Machinery.Runs
import MultiplayerServer.Network.ConnectionRuns

/-!
# Network/AsioServer — the server object and its runs

`Server` of `server.h` with the member functions of `asio_server.cpp`.  The server is read together
with what the `io_context` keeps for it, its outstanding `async_accept`s, and with the threads of
its pool.  A handler runs inside `io_context::run` on a pool thread, where nothing catches: an
exception that leaves it ends the process, and `terminated` says so.

The options set on the acceptor are taken to be accepted, the UDP half of the server is empty in the
source too, and the log lines are left out.
-/

namespace MultiplayerServer

open Machinery

/-- `ServerStatus`, from `server.h`. -/
inductive ServerStatus
  | kNone
  | kRunning
  | kStopped
  | kError
  deriving DecidableEq, Repr

/-- The exceptions of `start_tcp_accept`: of the resolver, and of the constructor of the acceptor.
-/
inductive SystemError
  | unresolved
  | notListening
  deriving DecidableEq, Repr

/-- An outstanding `async_accept`, with the connection bound to its handler. -/
structure AcceptOp where
  serial : ℕ
  connection : AsioTcpConnection
  deriving DecidableEq

/-- What a server does that the operating system or the game sees. -/
inductive ServerEffect
  /-- The constructor of an acceptor was called, while this process listened on `held`. -/
  | constructedAcceptor (endpoint : Endpoint) (held : List Endpoint)
  | issuedAccept (op : AcceptOp)
  /-- `on_connection_accepted_callback_` was given a connection, which is as it was left. -/
  | handedOver (connection : AsioTcpConnection)
  /-- `on_server_closed_callback_()` -/
  | closed
  deriving DecidableEq

/-- `AsioServer`, with the `Server` it derives from. -/
structure AsioServer where
  ipAddress : String
  port : ℤ
  status : ServerStatus := .kNone
  hasTcp : Bool
  hasUdp : Bool
  ioContextThreadCount : ℤ := 2
  /-- The endpoint `acceptor_` was made with. -/
  acceptor : Option Endpoint := none
  /-- How many threads were put into the pool, and how many of them are joinable. -/
  ioContextThreadsPool : ℕ := 0
  joinable : ℕ := 0
  /-- Whether the callbacks are set. -/
  onConnectionAcceptedCallback : Bool := false
  onServerClosedCallback : Bool := false
  /-- Whether `io_context_` has been stopped. -/
  stopped : Bool := false
  /-- The outstanding `async_accept`s. -/
  accepts : List AcceptOp := []
  /-- How many `async_accept`s have been issued. -/
  serial : ℕ := 0
  /-- Whether an exception has left a handler. -/
  terminated : Bool := false
  history : List ServerEffect := []
  deriving DecidableEq

namespace AsioServer

/-- The constructor. -/
def construct (ipAddress : String) (port : ℤ) (hasTcp hasUdp : Bool) : AsioServer where
  ipAddress := ipAddress
  port := port
  hasTcp := hasTcp
  hasUdp := hasUdp

variable (net : Net) (memory : ReceiveBuffer) (s : AsioServer)

/-- Records an effect. -/
@[simp] def emit (e : ServerEffect) : AsioServer := { s with history := s.history ++ [e] }

/-! ## Accepting -/

/-- `acceptor_ = std::make_shared<acceptor>(*io_context_, endpoint)`: the new acceptor opens, binds
and listens while `acceptor_` still holds the old one.  It is recorded with the endpoint it was
asked for, which is not the one it listens on where that is of port 0. -/
def makeAcceptor (endpoint : Endpoint) : Except SystemError Unit × AsioServer :=
  let held := s.acceptor.toList
  let s := s.emit (.constructedAcceptor endpoint held)
  if net.binds endpoint held then (.ok (), { s with acceptor := some endpoint })
  else (.error .notListening, s)

/-- The next accept, with the connection made for it. -/
def nextAccept : AcceptOp where
  serial := s.serial
  connection := AsioTcpConnection.construct net memory s.ipAddress s.port

/-- `acceptor_->async_accept(*connection->get_socket(), …)` -/
def asyncAccept : AsioServer :=
  let op := s.nextAccept net memory
  { s with accepts := s.accepts ++ [op], serial := s.serial + 1 }.emit (.issuedAccept op)

/-- `start_tcp_accept` -/
def startTcpAccept : Except SystemError Unit × AsioServer :=
  match net.resolve s.ipAddress s.port with
  | none => (.error .unresolved, s)
  | some endpoint =>
    match s.makeAcceptor net endpoint with
    | (.error e, s) => (.error e, s)
    | (.ok (), s) => (.ok (), { s.asyncAccept net memory with status := .kRunning })

/-- `start_udp_accept` -/
def startUdpAccept : AsioServer := s

/-- `handle_tcp_accept`.  `answer` is what the callback returns; `none` when it throws. -/
def handleTcpAccept (error : Bool) (connection : AsioTcpConnection) (answer : Option Bool) :
    AsioServer :=
  if error then s
  else
    match s.startTcpAccept net memory with
    | (.error _, s) => { s with terminated := true }
    | (.ok (), s) =>
      if s.onConnectionAcceptedCallback then
        match answer with
        | some taken => s.emit (.handedOver (connection.acceptPeer taken))
        | none => { s.emit (.handedOver (connection.acceptPeer false)) with terminated := true }
      else s

/-! ## Starting and stopping -/

/-- What `i < thread_count` makes of the count: the counter is a `std::size_t`, and the count is
converted to one. -/
def threadCount (count : ℤ) : ℕ := (BitVec.ofInt 64 count).toNat

/-- `start_io_context_thread_pool` -/
def startIoContextThreadPool : AsioServer :=
  { s with
    ioContextThreadsPool := s.ioContextThreadsPool + threadCount s.ioContextThreadCount
    joinable := s.joinable + threadCount s.ioContextThreadCount }

/-- `start`, with its result; an exception reaches the caller. -/
def start : Except SystemError Bool × AsioServer :=
  if s.status = .kRunning then (.ok true, s)
  else
    match if s.hasTcp then s.startTcpAccept net memory else (.ok (), s) with
    | (.error e, s) => (.error e, s)
    | (.ok (), s) =>
      let s := if s.hasUdp then s.startUdpAccept else s
      (.ok true, s.startIoContextThreadPool)

/-- `stop`, with its result. -/
def stop : Bool × AsioServer :=
  if s.status = .kStopped then (true, s)
  else
    let s := { s with stopped := true, joinable := 0 }
    (true, if s.onServerClosedCallback then s.emit .closed else s)

/-! ## The runs of a server -/

/-- What an accept completes with. -/
inductive Outcome
  | failed
  /-- A peer was accepted, and the callback gives this answer. -/
  | accepted (answer : Option Bool)
  deriving DecidableEq

/-- An event in the life of a server. -/
inductive ServerEvent
  | setIpAddress (ipAddress : String)
  | setPort (port : ℤ)
  | setIoContextThreadCount (count : ℤ)
  | registOnClientConnected
  | registOnServerClosed
  | start
  | stop
  /-- The `io_context` delivers the completion of the accept of this serial number. -/
  | completion (serial : ℕ) (outcome : Outcome)
  deriving DecidableEq

/-- The delivery of a completion, unless the `io_context` is stopped or there is no such accept. -/
def complete (serial : ℕ) (outcome : Outcome) : Option AsioServer :=
  match s.accepts.find? (·.serial = serial) with
  | none => none
  | some op =>
    if s.stopped then none
    else
      let s := { s with accepts := s.accepts.erase op }
      match outcome with
      | .failed => some (s.handleTcpAccept net memory true op.connection none)
      | .accepted answer => some (s.handleTcpAccept net memory false op.connection answer)

/-- One event. -/
def step (s : AsioServer) (e : ServerEvent) : Option AsioServer :=
  if s.terminated then none
  else
    match e with
    | .setIpAddress ipAddress => some { s with ipAddress := ipAddress }
    | .setPort port => some { s with port := port }
    | .setIoContextThreadCount count => some { s with ioContextThreadCount := count }
    | .registOnClientConnected => some { s with onConnectionAcceptedCallback := true }
    | .registOnServerClosed => some { s with onServerClosedCallback := true }
    | .start => some (s.start net memory).2
    | .stop => some s.stop.2
    | .completion serial outcome => s.complete net memory serial outcome

/-- The runs of a server. -/
def machine : Machine AsioServer ServerEvent := ⟨step net memory⟩

end AsioServer

end MultiplayerServer
