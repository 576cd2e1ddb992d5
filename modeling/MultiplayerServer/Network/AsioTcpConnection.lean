import MultiplayerServer.Network.Connection

/-!
# Network/AsioTcpConnection — the connection object and its member functions

One definition for each function of `asio_tcp_connection.cpp`, in the source's order of statements.
The object is read together with what the `io_context` keeps for it: the outstanding operations, and
a `history` of what it did that somebody outside could see.  A callback is recorded there, not run;
whatever it throws is caught at the call site.  So a handler is what the class itself does: what a
callback does to the connection it is called for is a call of the owner like any other, which comes
after the handler and not in the midst of it.  Only `Network/Reentry` runs one.

`bytes_transferred` of `handle_send` is only ever logged, and so is the size of `async_send`: the
log lines are left out.
-/

namespace MultiplayerServer

/-- What a connection does that its owner, its peer or the operating system sees. -/
inductive Effect
  /-- `connect()` or `async_connect()` was called. -/
  | connectRequested
  | initiatedConnect (op : ConnectOp)
  | initiatedWrite (op : WriteOp)
  | initiatedRead (op : ReadOp)
  /-- A payload was passed to `async_send`. -/
  | sent (data : Bytes)
  /-- The socket accepted bytes of a write. -/
  | accepted (data : Bytes)
  /-- A read stored its bytes in `receive_buffer_`. -/
  | stored (chunk : Chunk)
  /-- `received_callback_(data, size)` -/
  | received (data : Bytes)
  /-- `connected_callback_(success)` -/
  | connected (success : Bool)
  /-- `disconnected_callback_()` -/
  | disconnected
  deriving DecidableEq

/-- `AsioTcpConnection`, with the `Connection` it derives from. -/
structure AsioTcpConnection where
  status : ConnectionStatus := .kNone
  ip : String
  port : ℤ
  /-- Whether `connected_callback_` is set. -/
  connectedCallback : Bool := false
  /-- Whether `disconnected_callback_` is set. -/
  disconnectedCallback : Bool := false
  /-- Whether `received_callback_` is set. -/
  receivedCallback : Bool := false
  socket : Socket
  receiveBuffer : ReceiveBuffer
  sendBuffer : List Bytes := []
  isSending : Bool := false
  /-- The outstanding `async_connect`s. -/
  connects : List ConnectOp := []
  /-- The outstanding `async_write_some`s. -/
  writes : List WriteOp := []
  /-- The outstanding `async_read_some`s. -/
  reads : List ReadOp := []
  /-- How many `async_connect`s have been initiated. -/
  serial : ℕ := 0
  /-- How often `close()` has been called. -/
  epoch : ℕ := 0
  /-- `epoch` when `connect()` or `async_connect()` was last called. -/
  connectEpoch : ℕ := 0
  /-- Whether the destructor has not run. -/
  alive : Bool := true
  history : List Effect := []
  deriving DecidableEq

namespace AsioTcpConnection

/-- The constructor.  `memory` is what the uninitialised array happens to hold; the socket is opened
exactly when `ip` is an address literal, of either family.  `open` and `set_option` are taken to
succeed: when they throw there is no object. -/
def construct (net : Net) (memory : ReceiveBuffer) (ip : String) (port : ℤ) :
    AsioTcpConnection where
  ip := ip
  port := port
  receiveBuffer := memory
  socket :=
    match net.fromString ip with
    | none => { isOpen := false }
    | some .v4 => { isOpen := true }
    | some .v6 => { isOpen := true }

variable (c : AsioTcpConnection)

/-- Records an effect. -/
@[simp] def emit (e : Effect) : AsioTcpConnection := { c with history := c.history ++ [e] }

/-- `Connection::set_status` -/
@[simp] def setStatus (status : ConnectionStatus) : AsioTcpConnection := { c with status := status }

/-! ## Initiating an operation -/

/-- `socket_->async_connect(…, handle_connect)` -/
@[simp] def initiateConnect : AsioTcpConnection :=
  let op : ConnectOp := { serial := c.serial, epoch := c.epoch }
  { c with socket := c.socket.opened, connects := c.connects ++ [op], serial := c.serial + 1 }
    |>.emit (.initiatedConnect op)

/-- `socket_->async_write_some(send_buffer_.front(), handle_send)` -/
@[simp] def initiateWrite : AsioTcpConnection :=
  let op : WriteOp := { epoch := c.epoch, buffer := c.sendBuffer.head? }
  { c with writes := c.writes ++ [op] } |>.emit (.initiatedWrite op)

/-- `start_receive` -/
@[simp] def startReceive : AsioTcpConnection :=
  let op : ReadOp := { epoch := c.epoch, stored := none }
  { c with reads := c.reads ++ [op] } |>.emit (.initiatedRead op)

/-- The operating system performs an outstanding read: its bytes are in `receive_buffer_`, its
completion is still to be delivered. -/
@[simp] def fill (op : ReadOp) (chunk : Chunk) : AsioTcpConnection :=
  { c with
      reads := c.reads.erase op ++ [{ op with stored := some chunk }]
      receiveBuffer := c.receiveBuffer.store chunk }
    |>.emit (.stored chunk)

/-! ## Closing -/

/-- The last part of `close`: the disconnected callback. -/
def onDisconnected : AsioTcpConnection :=
  if c.disconnectedCallback then c.emit .disconnected else c

/-- `close` -/
def close : AsioTcpConnection :=
  let c := { c with epoch := c.epoch + 1 }
  if c.status = .kClosed then c
  else ({ c with socket := c.socket.close }.setStatus .kClosed).onDisconnected

/-! ## Connecting -/

/-- What the resolver and the peer answer to a blocking `connect`. -/
inductive ConnectOutcome
  | unresolved
  | refused
  | granted
  deriving DecidableEq, Repr

/-- `connect` -/
def connect (outcome : ConnectOutcome) : Bool × AsioTcpConnection :=
  if c.status = .kConnected ∨ c.status = .kConnecting then (true, c)
  else
    match outcome with
    | .unresolved => (false, c)
    | .refused => (false, { c with socket := (c.socket.connect false).2 })
    | .granted =>
      match c.socket.connect true with
      | (false, socket) => (false, { c with socket := socket })
      | (true, socket) => (true, { c with socket := socket }.setStatus .kConnected)

/-- `async_connect`; `none` is the exception of the throwing overload of `resolve`. -/
def asyncConnect (resolved : Bool) : Option Bool × AsioTcpConnection :=
  if c.status = .kConnected ∨ c.status = .kConnecting then (some true, c)
  else if resolved then (some true, c.initiateConnect.setStatus .kConnecting)
  else (none, c)

/-- `on_connected` -/
def onConnected (success : Bool) : AsioTcpConnection :=
  let c := if c.connectedCallback then c.emit (.connected success) else c
  if success then c.startReceive else c

/-- `handle_connect` -/
def handleConnect (error : Bool) : AsioTcpConnection :=
  if error then (c.setStatus .kDisconnected).onConnected false
  else (c.setStatus .kConnected).onConnected true

/-! ## Sending -/

/-- `async_send`, with its result: whether a write was started. -/
def asyncSend (data : Bytes) : Bool × AsioTcpConnection :=
  if c.sendBuffer.length > 0 then
    (false, { c with sendBuffer := c.sendBuffer ++ [data] })
  else if c.isSending then
    (false, { c with sendBuffer := c.sendBuffer ++ [data] })
  else
    (true, { c with isSending := true }.initiateWrite)

/-- `handle_send` -/
def handleSend (error : Bool) (_bytesTransferred : ℕ) : AsioTcpConnection :=
  let c := { c with isSending := false }
  let c :=
    if c.sendBuffer.length > 0 then
      if error then c else { c with sendBuffer := c.sendBuffer.tail }
    else c
  if c.sendBuffer.length > 0 then { c with isSending := true }.initiateWrite else c

/-! ## Receiving -/

/-- `on_received(receive_buffer_.data(), size)` -/
def onReceived (size : ℕ) : AsioTcpConnection :=
  if c.receivedCallback then c.emit (.received (c.receiveBuffer.bytes.take size)) else c

/-- `start_receive`, where the operating system may have the next bytes at hand and perform the read
at once. -/
def startReceiveFilled : Option Chunk → AsioTcpConnection
  | none => c.startReceive
  | some chunk => c.startReceive.fill { epoch := c.epoch, stored := none } chunk

/-- `handle_receive`.  `early` is what the newly armed read stores before `on_received` runs. -/
def handleReceive (error : Bool) (bytesTransferred : ℕ) (early : Option Chunk) :
    AsioTcpConnection :=
  if error then c.close
  else (c.startReceiveFilled early).onReceived bytesTransferred

/-! ## What each function leaves alone

Stated as one conjunction for each function: `simp` takes it apart, and no later proof unfolds the
function for a field it does not write. -/

variable {c}

@[simp] theorem onDisconnected_frame :
    c.onDisconnected.status = c.status ∧ c.onDisconnected.socket = c.socket
      ∧ c.onDisconnected.receivedCallback = c.receivedCallback
      ∧ c.onDisconnected.connectedCallback = c.connectedCallback
      ∧ c.onDisconnected.receiveBuffer = c.receiveBuffer
      ∧ c.onDisconnected.sendBuffer = c.sendBuffer ∧ c.onDisconnected.isSending = c.isSending
      ∧ c.onDisconnected.connects = c.connects ∧ c.onDisconnected.writes = c.writes
      ∧ c.onDisconnected.reads = c.reads ∧ c.onDisconnected.epoch = c.epoch
      ∧ c.onDisconnected.connectEpoch = c.connectEpoch
      ∧ c.onDisconnected.alive = c.alive := by
  rw [onDisconnected]
  split <;> simp

theorem onDisconnected_history :
    c.onDisconnected.history
      = c.history ++ if c.disconnectedCallback then [.disconnected] else [] := by
  rw [onDisconnected]
  split <;> simp

/-- A second `close` only counts as a call. -/
theorem close_of_closed (h : c.status = .kClosed) : c.close = { c with epoch := c.epoch + 1 } := by
  simp [close, h]

theorem close_of_ne_closed (h : c.status ≠ .kClosed) :
    c.close = ({ c with epoch := c.epoch + 1, socket := c.socket.close }.setStatus
      .kClosed).onDisconnected := by
  simp [close, h]

/-- **`close` always ends in `kClosed`.** -/
@[simp] theorem close_status : c.close.status = .kClosed := by
  by_cases h : c.status = .kClosed
  · rw [close_of_closed h]
    exact h
  · simp [close_of_ne_closed h]

/-- The socket of a connection that was closed already is left as it is. -/
theorem close_socket :
    c.close.socket = if c.status = .kClosed then c.socket else c.socket.close := by
  by_cases h : c.status = .kClosed
  · simp [close_of_closed h, h]
  · simp [close_of_ne_closed h, h]

@[simp] theorem close_frame :
    c.close.receivedCallback = c.receivedCallback ∧ c.close.receiveBuffer = c.receiveBuffer
      ∧ c.close.sendBuffer = c.sendBuffer ∧ c.close.isSending = c.isSending
      ∧ c.close.connects = c.connects ∧ c.close.writes = c.writes ∧ c.close.reads = c.reads
      ∧ c.close.epoch = c.epoch + 1 ∧ c.close.connectEpoch = c.connectEpoch
      ∧ c.close.alive = c.alive := by
  by_cases h : c.status = .kClosed
  · simp [close_of_closed h]
  · simp [close_of_ne_closed h]

theorem close_history :
    c.close.history = c.history
      ++ if c.status ≠ .kClosed ∧ c.disconnectedCallback then [.disconnected] else [] := by
  by_cases h : c.status = .kClosed
  · simp [close_of_closed h, h]
  · simp [close_of_ne_closed h, onDisconnected_history, h]

/-- **`connect` is a no-op while the status says the connection is up or coming up.** -/
theorem connect_of_busy (h : c.status = .kConnected ∨ c.status = .kConnecting)
    (outcome : ConnectOutcome) : c.connect outcome = (true, c) := by
  simp [connect, h]

/-- …and so is `async_connect`. -/
theorem asyncConnect_of_busy (h : c.status = .kConnected ∨ c.status = .kConnecting)
    (resolved : Bool) : c.asyncConnect resolved = (some true, c) := by
  simp [asyncConnect, h]

@[simp] theorem connect_frame (outcome : ConnectOutcome) :
    (c.connect outcome).2.receivedCallback = c.receivedCallback
      ∧ (c.connect outcome).2.receiveBuffer = c.receiveBuffer
      ∧ (c.connect outcome).2.sendBuffer = c.sendBuffer
      ∧ (c.connect outcome).2.isSending = c.isSending
      ∧ (c.connect outcome).2.connects = c.connects ∧ (c.connect outcome).2.writes = c.writes
      ∧ (c.connect outcome).2.reads = c.reads ∧ (c.connect outcome).2.epoch = c.epoch
      ∧ (c.connect outcome).2.connectEpoch = c.connectEpoch
      ∧ (c.connect outcome).2.history = c.history := by
  unfold connect
  split
  · simp
  · cases outcome <;> simp only [true_and]
    split <;> simp

@[simp] theorem asyncConnect_frame (resolved : Bool) :
    (c.asyncConnect resolved).2.receivedCallback = c.receivedCallback
      ∧ (c.asyncConnect resolved).2.receiveBuffer = c.receiveBuffer
      ∧ (c.asyncConnect resolved).2.sendBuffer = c.sendBuffer
      ∧ (c.asyncConnect resolved).2.isSending = c.isSending
      ∧ (c.asyncConnect resolved).2.writes = c.writes
      ∧ (c.asyncConnect resolved).2.reads = c.reads
      ∧ (c.asyncConnect resolved).2.epoch = c.epoch
      ∧ (c.asyncConnect resolved).2.connectEpoch = c.connectEpoch := by
  rw [asyncConnect]
  split_ifs <;> simp

theorem asyncConnect_history (resolved : Bool) :
    (c.asyncConnect resolved).2.history = c.history
      ++ if c.status = .kConnected ∨ c.status = .kConnecting then []
        else if resolved then [.initiatedConnect ⟨c.serial, c.epoch⟩] else [] := by
  rw [asyncConnect]
  split_ifs <;> simp

/-- What a completed write leaves in the queue: its head goes unless there was an error, and nobody
asks how much of it was written. -/
def unsent (c : AsioTcpConnection) (error : Bool) : List Bytes :=
  if error then c.sendBuffer else c.sendBuffer.tail

/-- **`handle_send` in one piece**: it drops the head unless there was an error, and writes the next
head if there is one. -/
theorem handleSend_eq (error : Bool) (n : ℕ) :
    c.handleSend error n =
      if c.unsent error = [] then { c with isSending := false, sendBuffer := c.unsent error }
      else { c with isSending := true, sendBuffer := c.unsent error }.initiateWrite := by
  have hq : (if c.sendBuffer.length > 0 then
        if error then { c with isSending := false }
        else { c with isSending := false, sendBuffer := c.sendBuffer.tail }
      else { c with isSending := false })
      = { c with isSending := false, sendBuffer := c.unsent error } := by
    rw [unsent]
    cases error <;> cases c.sendBuffer <;> simp
  rw [handleSend]
  simp only [hq]
  simp [← List.length_eq_zero_iff, Nat.pos_iff_ne_zero, ite_not]

@[simp] theorem handleSend_frame (error : Bool) (n : ℕ) :
    (c.handleSend error n).status = c.status ∧ (c.handleSend error n).socket = c.socket
      ∧ (c.handleSend error n).receivedCallback = c.receivedCallback
      ∧ (c.handleSend error n).receiveBuffer = c.receiveBuffer
      ∧ (c.handleSend error n).connects = c.connects ∧ (c.handleSend error n).reads = c.reads
      ∧ (c.handleSend error n).epoch = c.epoch
      ∧ (c.handleSend error n).connectEpoch = c.connectEpoch
      ∧ (c.handleSend error n).alive = c.alive
      ∧ (c.handleSend error n).sendBuffer = c.unsent error := by
  rw [handleSend_eq]
  split <;> simp

theorem handleSend_writes (error : Bool) (n : ℕ) :
    (c.handleSend error n).writes = c.writes
      ++ if c.unsent error = [] then []
        else [{ epoch := c.epoch, buffer := (c.unsent error).head? }] := by
  rw [handleSend_eq]
  split <;> simp

theorem handleSend_history (error : Bool) (n : ℕ) :
    (c.handleSend error n).history = c.history
      ++ if c.unsent error = [] then []
        else [.initiatedWrite { epoch := c.epoch, buffer := (c.unsent error).head? }] := by
  rw [handleSend_eq]
  split <;> simp

@[simp] theorem asyncSend_frame (data : Bytes) :
    (c.asyncSend data).2.status = c.status ∧ (c.asyncSend data).2.socket = c.socket
      ∧ (c.asyncSend data).2.receivedCallback = c.receivedCallback
      ∧ (c.asyncSend data).2.receiveBuffer = c.receiveBuffer
      ∧ (c.asyncSend data).2.connects = c.connects ∧ (c.asyncSend data).2.reads = c.reads
      ∧ (c.asyncSend data).2.epoch = c.epoch
      ∧ (c.asyncSend data).2.connectEpoch = c.connectEpoch := by
  rw [asyncSend]
  split_ifs <;> simp

@[simp] theorem onConnected_frame (success : Bool) :
    (c.onConnected success).status = c.status ∧ (c.onConnected success).socket = c.socket
      ∧ (c.onConnected success).receivedCallback = c.receivedCallback
      ∧ (c.onConnected success).receiveBuffer = c.receiveBuffer
      ∧ (c.onConnected success).sendBuffer = c.sendBuffer
      ∧ (c.onConnected success).connects = c.connects
      ∧ (c.onConnected success).writes = c.writes ∧ (c.onConnected success).epoch = c.epoch
      ∧ (c.onConnected success).connectEpoch = c.connectEpoch
      ∧ (c.onConnected success).alive = c.alive := by
  cases hcb : c.connectedCallback <;> cases success <;> simp [onConnected, hcb]

/-- A successful connect starts to read; a failed one does not. -/
theorem onConnected_reads (success : Bool) :
    (c.onConnected success).reads
      = c.reads ++ if success then [{ epoch := c.epoch, stored := none }] else [] := by
  cases hcb : c.connectedCallback <;> cases success <;> simp [onConnected, hcb]

theorem onConnected_history (success : Bool) :
    (c.onConnected success).history = c.history
      ++ (if c.connectedCallback then [.connected success] else [])
      ++ if success then [.initiatedRead { epoch := c.epoch, stored := none }] else [] := by
  cases hcb : c.connectedCallback <;> cases success <;> simp [onConnected, hcb]

/-- An `async_send` that finds the queue empty and no write under way writes the front of the empty
queue. -/
theorem asyncSend_history (data : Bytes) :
    (c.asyncSend data).2.history = c.history
      ++ if c.sendBuffer.length > 0 then []
        else if c.isSending then [] else [.initiatedWrite ⟨c.epoch, c.sendBuffer.head?⟩] := by
  rw [asyncSend]
  split_ifs <;> simp

/-- The status `handle_connect` leaves, whatever it was before. -/
@[simp] theorem handleConnect_status (error : Bool) :
    (c.handleConnect error).status = if error then .kDisconnected else .kConnected := by
  cases error <;> simp [handleConnect]

@[simp] theorem handleConnect_frame (error : Bool) :
    (c.handleConnect error).socket = c.socket
      ∧ (c.handleConnect error).receivedCallback = c.receivedCallback
      ∧ (c.handleConnect error).receiveBuffer = c.receiveBuffer
      ∧ (c.handleConnect error).sendBuffer = c.sendBuffer
      ∧ (c.handleConnect error).connects = c.connects
      ∧ (c.handleConnect error).writes = c.writes
      ∧ (c.handleConnect error).epoch = c.epoch
      ∧ (c.handleConnect error).connectEpoch = c.connectEpoch
      ∧ (c.handleConnect error).alive = c.alive := by
  cases error <;> simp [handleConnect]

theorem handleConnect_reads (error : Bool) :
    (c.handleConnect error).reads
      = c.reads ++ if error then [] else [{ epoch := c.epoch, stored := none }] := by
  cases error <;> simp [handleConnect, onConnected_reads]

theorem handleConnect_history (error : Bool) :
    (c.handleConnect error).history = c.history
      ++ (if c.connectedCallback then [.connected (!error)] else [])
      ++ if error then [] else [.initiatedRead { epoch := c.epoch, stored := none }] := by
  cases error <;> simp [handleConnect, onConnected_history]

@[simp] theorem onReceived_frame (size : ℕ) :
    (c.onReceived size).status = c.status ∧ (c.onReceived size).socket = c.socket
      ∧ (c.onReceived size).receivedCallback = c.receivedCallback
      ∧ (c.onReceived size).receiveBuffer = c.receiveBuffer
      ∧ (c.onReceived size).sendBuffer = c.sendBuffer
      ∧ (c.onReceived size).connects = c.connects ∧ (c.onReceived size).writes = c.writes
      ∧ (c.onReceived size).reads = c.reads ∧ (c.onReceived size).epoch = c.epoch
      ∧ (c.onReceived size).connectEpoch = c.connectEpoch
      ∧ (c.onReceived size).alive = c.alive := by
  rw [onReceived]
  split <;> simp

theorem onReceived_history (size : ℕ) :
    (c.onReceived size).history = c.history
      ++ if c.receivedCallback then [.received (c.receiveBuffer.bytes.take size)] else [] := by
  rw [onReceived]
  split <;> simp

/-- The array after a read was armed, with what it may have stored at once. -/
def armedBuffer (c : AsioTcpConnection) : Option Chunk → ReceiveBuffer
  | none => c.receiveBuffer
  | some chunk => c.receiveBuffer.store chunk

/-- The reads after a read was armed. -/
def armedReads (c : AsioTcpConnection) : Option Chunk → List ReadOp
  | none => c.reads ++ [⟨c.epoch, none⟩]
  | some chunk =>
    (c.reads ++ [⟨c.epoch, none⟩] : List ReadOp).erase ⟨c.epoch, none⟩ ++ [⟨c.epoch, some chunk⟩]

/-- **`handle_receive` in order**: the next read is armed and may store at once; what the array
holds by then is handed over. -/
theorem handleReceive_eq (n : ℕ) (early : Option Chunk) :
    c.handleReceive false n early =
      ({ c with
          reads := c.armedReads early
          receiveBuffer := c.armedBuffer early
          history := c.history ++ .initiatedRead { epoch := c.epoch, stored := none }
            :: early.toList.map .stored } : AsioTcpConnection).onReceived n := by
  cases early <;> simp [handleReceive, startReceiveFilled, armedReads, armedBuffer]

@[simp] theorem handleReceive_error (n : ℕ) (early : Option Chunk) :
    c.handleReceive true n early = c.close := rfl

@[simp] theorem handleReceive_frame (n : ℕ) (early : Option Chunk) :
    (c.handleReceive false n early).status = c.status
      ∧ (c.handleReceive false n early).socket = c.socket
      ∧ (c.handleReceive false n early).receivedCallback = c.receivedCallback
      ∧ (c.handleReceive false n early).receiveBuffer = c.armedBuffer early
      ∧ (c.handleReceive false n early).sendBuffer = c.sendBuffer
      ∧ (c.handleReceive false n early).connects = c.connects
      ∧ (c.handleReceive false n early).writes = c.writes
      ∧ (c.handleReceive false n early).reads = c.armedReads early
      ∧ (c.handleReceive false n early).epoch = c.epoch
      ∧ (c.handleReceive false n early).connectEpoch = c.connectEpoch
      ∧ (c.handleReceive false n early).alive = c.alive := by
  simp [handleReceive_eq]

theorem handleReceive_history (n : ℕ) (early : Option Chunk) :
    (c.handleReceive false n early).history = c.history
      ++ .initiatedRead { epoch := c.epoch, stored := none } :: early.toList.map .stored
      ++ if c.receivedCallback then [.received ((c.armedBuffer early).bytes.take n)] else [] := by
  simp [handleReceive_eq, onReceived_history]

end AsioTcpConnection

end MultiplayerServer
