import MultiplayerServer.Machinery.Overlay

/-!
# Network/Connection — what a connection is made of

The vocabulary of `connection.h` and of the `boost::asio` objects an `AsioTcpConnection` holds: its
status, its socket, its receive array, and the operations the `io_context` keeps outstanding for
it.  The operating system and `boost::asio` themselves enter through `Net` and through the events of
`Network/ConnectionRuns`.
-/

namespace MultiplayerServer

open Machinery

/-- `ConnectionStatus`, from `connection.h`. -/
inductive ConnectionStatus
  | kNone
  | kConnecting
  | kConnected
  | kDisconnected
  | kClosed
  deriving DecidableEq, Repr

/-! ## Bytes -/

/-- The contents of a buffer. -/
abbrev Bytes := List UInt8

/-- `MAX_BUFFER_SIZE` -/
def maxBufferSize : ℕ := 1024

/-- The bytes one `async_read_some` stores: at least one, and no more than it was given room for. -/
structure Chunk where
  bytes : Bytes
  pos : 0 < bytes.length
  le : bytes.length ≤ maxBufferSize
  deriving DecidableEq

/-- `std::array<char, MAX_BUFFER_SIZE>` -/
structure ReceiveBuffer where
  bytes : Bytes
  length_eq : bytes.length = maxBufferSize
  deriving DecidableEq

/-- A read stores its bytes at the front of the array. -/
def ReceiveBuffer.store (b : ReceiveBuffer) (chunk : Chunk) : ReceiveBuffer where
  bytes := overlay chunk.bytes b.bytes
  length_eq := by rw [length_overlay (b.length_eq ▸ chunk.le), b.length_eq]

/-- An array of zeroes. -/
def ReceiveBuffer.zeroes : ReceiveBuffer := ⟨List.replicate maxBufferSize 0, List.length_replicate⟩

/-- **A chunk just stored is what the array starts with.** -/
@[simp] theorem ReceiveBuffer.take_store (b : ReceiveBuffer) (chunk : Chunk) :
    (b.store chunk).bytes.take chunk.bytes.length = chunk.bytes := take_overlay _ _

/-! ## The network -/

/-- `boost::asio::ip::address` is one of the two. -/
inductive AddressFamily
  | v4
  | v6
  deriving DecidableEq, Repr

/-- `boost::asio::ip::tcp::endpoint` -/
structure Endpoint where
  family : AddressFamily
  address : ℕ
  port : ℕ
  deriving DecidableEq, Repr

/-- What `boost::asio` and the operating system answer, the same way every time they are asked. -/
structure Net where
  /-- `address::from_string`; `none` is its error. -/
  fromString : String → Option AddressFamily
  /-- The first endpoint `resolver::resolve` yields; `none` when it throws. -/
  resolve : String → ℤ → Option Endpoint
  /-- Whether an endpoint can be opened, bound and listened on, given those this process already
  listens on, each by what it was asked for: at port 0 the system chooses a port of its own. -/
  binds : Endpoint → List Endpoint → Bool

/-- A host that knows its two loopback addresses, and refuses a second listener on an endpoint,
unless it is to choose the port itself. -/
def Net.loopback : Net where
  fromString ip := if ip = "127.0.0.1" then some .v4 else if ip = "::1" then some .v6 else none
  resolve ip port := some
    { family := if ip = "::1" then .v6 else .v4, address := 1, port := port.toNat }
  binds endpoint held := decide (endpoint.port = 0 ∨ endpoint ∉ held)

/-- How a socket stands to its peer. -/
inductive Link
  /-- Not connected, or torn down by `close`. -/
  | down
  /-- An established TCP connection. -/
  | up
  /-- An established connection of which an error completion has been handled. -/
  | broken
  deriving DecidableEq, Repr

/-- `boost::asio::ip::tcp::socket` -/
structure Socket where
  isOpen : Bool
  link : Link := .down
  deriving DecidableEq, Repr

namespace Socket

/-- `connect` and `async_connect` open a socket that is not open yet. -/
def opened (s : Socket) : Socket := { s with isOpen := true }

/-- The socket once the operating system has connected it. -/
def establish (_ : Socket) : Socket := { isOpen := true, link := .up }

/-- `socket::connect`: the operating system refuses to connect an established socket again. -/
def connect (s : Socket) (granted : Bool) : Bool × Socket :=
  if s.link = .up then (false, s)
  else if granted then (true, s.establish)
  else (false, s.opened)

/-- The socket once an error of one of its operations has been reported. -/
def fail (s : Socket) : Socket := { s with link := if s.link = .up then .broken else s.link }

/-- `shutdown` and `close` -/
def close (_ : Socket) : Socket := { isOpen := false, link := .down }

@[simp] theorem opened_link (s : Socket) : s.opened.link = s.link := rfl

@[simp] theorem establish_link (s : Socket) : s.establish.link = .up := rfl

@[simp] theorem close_link (s : Socket) : s.close.link = .down := rfl

@[simp] theorem fail_link_ne_up (s : Socket) : s.fail.link ≠ .up := by
  rw [fail]
  split <;> simp_all

end Socket

/-! ## Outstanding operations

`epoch` counts the calls of `close()` made before the operation was initiated: it is the mark the
handlers do not carry, and only statements about a run read it. -/

/-- An outstanding `async_connect`. -/
structure ConnectOp where
  serial : ℕ
  epoch : ℕ
  deriving DecidableEq, Repr

/-- An outstanding `async_write_some`.  Its buffer is what `send_buffer_.front()` gave: `none` when
the list was empty, where the C++ call is undefined. -/
structure WriteOp where
  epoch : ℕ
  buffer : Option Bytes
  deriving DecidableEq, Repr

/-- Whether a write may complete without error having put `data` on the wire: the first bytes of its
buffer, not none of them unless it is empty; an undefined buffer may hold anything. -/
def WriteOp.Takes (op : WriteOp) (data : Bytes) : Prop :=
  ∀ b ∈ op.buffer, data <+: b ∧ (data = [] → b = [])

instance (op : WriteOp) (data : Bytes) : Decidable (op.Takes data) := by
  rw [WriteOp.Takes]
  infer_instance

/-- An outstanding `async_read_some`, with the bytes it has stored already, if it has. -/
structure ReadOp where
  epoch : ℕ
  stored : Option Chunk
  deriving DecidableEq

end MultiplayerServer
