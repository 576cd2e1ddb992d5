import MultiplayerServer.Network.ReceiveStream

/-!
# Network/BlockingTransfer — the blocking `send` and `receive`

`send` calls `write_some` once and reports success whatever part of the payload it took; `receive`
calls `read_some` once and hands over the whole of the caller's buffer, whatever part of it was
read.  Neither looks at the number of bytes it is told.

* `faithfulTransfer_iff` — the stream is faithful in exactly the runs in which every write takes its
  whole payload and every read fills its buffer.
-/

namespace MultiplayerServer

open Machinery

namespace AsioTcpConnection

variable (c : AsioTcpConnection)

/-- `on_received(data, size)` -/
def onReceivedFrom (data : Bytes) (size : ℕ) : AsioTcpConnection :=
  if c.receivedCallback then c.emit (.received (data.take size)) else c

/-- `handle_receive` passes `receive_buffer_` to it. -/
theorem onReceived_eq (size : ℕ) :
    c.onReceived size = c.onReceivedFrom c.receiveBuffer.bytes size := rfl

/-- `send`, with its result and the bytes put on the wire: `write_some` takes the first of the
payload, as many as it likes; `none` is its error. -/
def send (data : Bytes) : Option ℕ → Bool × Bytes
  | none => (false, [])
  | some written => (true, data.take written)

/-- `receive` into `buffer`, with its result and what the buffer holds then: `read_some` stores the
bytes it read at the front; `none` is its error. -/
def receive (buffer : Bytes) : Option Bytes → Bool × Bytes × AsioTcpConnection
  | none => (false, buffer, c)
  | some read =>
    let buffer' := overlay read buffer
    (true, buffer', c.onReceivedFrom buffer' buffer.length)

variable {c}

theorem onReceivedFrom_delivered (data : Bytes) (size : ℕ) :
    (c.onReceivedFrom data size).delivered.flatten
      = c.delivered.flatten ++ if c.receivedCallback then data.take size else [] := by
  rw [onReceivedFrom]
  split <;> simp [delivered]

@[simp] theorem onReceivedFrom_receivedCallback (data : Bytes) (size : ℕ) :
    (c.onReceivedFrom data size).receivedCallback = c.receivedCallback := by
  rw [onReceivedFrom]
  split <;> rfl

end AsioTcpConnection

open AsioTcpConnection

/-- Whether `write_some` or `read_some` may transfer `n` of `size` bytes: at least one, unless none
was asked for. -/
def Transfers (n size : ℕ) : Prop := n ≤ size ∧ (n = 0 → size = 0)

instance (n size : ℕ) : Decidable (Transfers n size) := inferInstanceAs (Decidable (_ ∧ _))

/-- A call at one of the two ends. -/
inductive TransferEvent
  /-- `send(data)`, of which `write_some` took so many bytes. -/
  | send (data : Bytes) (written : Option ℕ)
  /-- `receive` into a buffer with these contents, into which `read_some` read so many bytes. -/
  | receive (buffer : Bytes) (read : Option ℕ)
  deriving DecidableEq

/-- A byte stream, with the connection at its receiving end. -/
structure Transfer where
  receiver : AsioTcpConnection
  /-- Written at one end, and not read at the other. -/
  inFlight : Bytes := []
  /-- The payloads passed to `send`, one after the other. -/
  sent : Bytes := []
  /-- Whether every `send` returned true. -/
  allSent : Bool := true
  deriving DecidableEq

namespace Transfer

variable (t : Transfer)

/-- One call. -/
def step (t : Transfer) : TransferEvent → Option Transfer
  | .send data written =>
    if ∀ n ∈ written, Transfers n data.length then
      let (ok, wire) := AsioTcpConnection.send data written
      some { t with
        inFlight := t.inFlight ++ wire
        sent := t.sent ++ data
        allSent := t.allSent && ok }
    else none
  | .receive buffer read =>
    if ∀ n ∈ read, Transfers n buffer.length ∧ n ≤ t.inFlight.length then
      let (_, _, receiver) := t.receiver.receive buffer (read.map t.inFlight.take)
      some { t with receiver := receiver, inFlight := t.inFlight.drop (read.getD 0) }
    else none

/-- The calls at the two ends of one stream. -/
def machine : Machine Transfer TransferEvent := ⟨step⟩

/-- The bytes handed to `received_callback_` are a beginning of those sent, if every `send` returned
true. -/
def Beginning : Prop := t.allSent → t.receiver.delivered.flatten <+: t.sent

instance : Decidable t.Beginning := inferInstanceAs (Decidable (_ → _))

/-- **The stream is faithful**: while every `send` returned true, what the callback was given is a
beginning of what was sent, and together with what is in flight it is all of it: nothing reported as
sent is missing, and nothing is handed over that was not read. -/
structure Faithful : Prop where
  beginning : t.Beginning
  whole : t.allSent → t.receiver.receivedCallback →
    t.receiver.delivered.flatten ++ t.inFlight = t.sent

/-- The call transfers all it was asked to: the payload is written whole, the buffer is filled. -/
def Whole (t : Transfer) (e : TransferEvent) (_ : Transfer) : Prop :=
  t.allSent → t.receiver.receivedCallback →
    match e with
    | .send data written => ∀ n ∈ written, n = data.length
    | .receive buffer read => ∀ n ∈ read, n = buffer.length

/-- Everything written is in flight or was handed over; without a callback nothing is. -/
structure Conserved : Prop where
  delivered : t.receiver.receivedCallback = false → t.receiver.delivered = []
  whole : t.allSent → t.receiver.receivedCallback →
    t.receiver.delivered.flatten ++ t.inFlight = t.sent

variable {t} {t' : Transfer}

theorem Conserved.faithful (h : t.Conserved) : t.Faithful where
  beginning hsent := by
    cases hcb : t.receiver.receivedCallback with
    | false => simp [h.delivered hcb]
    | true => exact ⟨t.inFlight, h.whole hsent hcb⟩
  whole := h.whole

theorem step_send {data : Bytes} {written : Option ℕ}
    (h : machine.step t (.send data written) = some t') :
    (∀ n ∈ written, Transfers n data.length)
      ∧ t' = { t with
          inFlight := t.inFlight ++ (AsioTcpConnection.send data written).2
          sent := t.sent ++ data
          allSent := t.allSent && (AsioTcpConnection.send data written).1 } := by
  simp only [machine, step, Option.ite_none_right_eq_some, Option.some.injEq] at h
  exact ⟨h.1, h.2.symm⟩

theorem step_receive {buffer : Bytes} {read : Option ℕ}
    (h : machine.step t (.receive buffer read) = some t') :
    (∀ n ∈ read, Transfers n buffer.length ∧ n ≤ t.inFlight.length)
      ∧ t' = { t with
          receiver := (t.receiver.receive buffer (read.map t.inFlight.take)).2.2
          inFlight := t.inFlight.drop (read.getD 0) } := by
  simp only [machine, step, Option.ite_none_right_eq_some, Option.some.injEq] at h
  exact ⟨h.1, h.2.symm⟩

/-- **What a read adds to the stream**: the whole of the buffer it was given. -/
theorem receive_delivered {c : AsioTcpConnection} {buffer read : Bytes}
    (hfit : read.length ≤ buffer.length) :
    (c.receive buffer (some read)).2.2.delivered.flatten
      = c.delivered.flatten ++ if c.receivedCallback then overlay read buffer else [] := by
  simp only [receive, onReceivedFrom_delivered]
  rw [List.take_of_length_le (length_overlay hfit).le]

/-- A write keeps the bytes together exactly when it takes the whole payload. -/
theorem append_take_eq_iff {pre data : Bytes} {n : ℕ} (hn : n ≤ data.length) :
    pre ++ data.take n = pre ++ data ↔ n = data.length := by
  rw [List.append_cancel_left_eq, List.take_eq_self_iff]
  omega

/-- A read keeps the bytes together exactly when it fills the buffer. -/
theorem overlay_append_eq_iff {buffer wire : Bytes} {n : ℕ} (hbuf : n ≤ buffer.length)
    (hwire : n ≤ wire.length) :
    overlay (wire.take n) buffer ++ wire.drop n = wire ↔ n = buffer.length := by
  have hlen : (wire.take n).length = n := List.length_take_of_le hwire
  constructor
  · intro h
    have hsum := congrArg List.length h
    rw [List.length_append, length_overlay (hlen.trans_le hbuf), List.length_drop] at hsum
    omega
  · rintro rfl
    rw [overlay, hlen, List.drop_length, List.append_nil, List.take_append_drop]

/-- **A `send`** keeps the stream together exactly when it writes its whole payload. -/
theorem Conserved.send (h : t.Conserved) {data : Bytes} {written : Option ℕ}
    (hstep : machine.step t (.send data written) = some t') :
    (t'.Faithful → Whole t (.send data written) t')
      ∧ (Whole t (.send data written) t' → t'.Conserved) := by
  obtain ⟨hn, rfl⟩ := step_send hstep
  cases written with
  | none => exact ⟨fun _ _ _ => nofun, fun _ => ⟨h.delivered, by simp [AsioTcpConnection.send]⟩⟩
  | some n =>
    have hle : n ≤ data.length := (hn n rfl).1
    have hiff (hsent : t.allSent) (hcb : t.receiver.receivedCallback) :
        t.receiver.delivered.flatten ++ (t.inFlight ++ data.take n) = t.sent ++ data
          ↔ n = data.length := by
      rw [← h.whole hsent hcb, ← List.append_assoc, append_take_eq_iff hle]
    constructor
    · rintro hf hsent hcb _ ⟨⟩
      exact (hiff hsent hcb).mp (hf.whole (by simpa [AsioTcpConnection.send] using hsent) hcb)
    · refine fun hw => ⟨h.delivered, fun hsent hcb => ?_⟩
      have hsent : t.allSent := by simpa [AsioTcpConnection.send] using hsent
      exact (hiff hsent hcb).mpr (hw hsent hcb n rfl)

/-- **A `receive`** keeps it together exactly when it fills its whole buffer. -/
theorem Conserved.receive (h : t.Conserved) {buffer : Bytes} {read : Option ℕ}
    (hstep : machine.step t (.receive buffer read) = some t') :
    (t'.Faithful → Whole t (.receive buffer read) t')
      ∧ (Whole t (.receive buffer read) t' → t'.Conserved) := by
  obtain ⟨hn, rfl⟩ := step_receive hstep
  cases read with
  | none => exact ⟨fun _ _ _ => nofun, fun _ => ⟨h.delivered, h.whole⟩⟩
  | some n =>
    obtain ⟨⟨hbuf, -⟩, hwire⟩ := hn n rfl
    have hcbk : (t.receiver.receive buffer (some (t.inFlight.take n))).2.2.receivedCallback
        = t.receiver.receivedCallback := onReceivedFrom_receivedCallback _ _
    have hdel := receive_delivered (c := t.receiver)
      ((List.length_take_of_le hwire).trans_le hbuf)
    have hiff (hsent : t.allSent) (hcb : t.receiver.receivedCallback) :
        (t.receiver.receive buffer (some (t.inFlight.take n))).2.2.delivered.flatten
            ++ t.inFlight.drop n = t.sent
          ↔ n = buffer.length := by
      rw [hdel, if_pos hcb, ← h.whole hsent hcb, List.append_assoc,
        List.append_cancel_left_eq, overlay_append_eq_iff hbuf hwire]
    constructor
    · rintro hf hsent hcb _ ⟨⟩
      exact (hiff hsent hcb).mp (hf.whole hsent (hcbk.trans hcb))
    · refine fun hw => ⟨fun hcb => ?_, fun hsent hcb => ?_⟩
      · have hcb : t.receiver.receivedCallback = false := hcbk.symm.trans hcb
        simpa [AsioTcpConnection.receive, onReceivedFrom, hcb] using h.delivered hcb
      · have hcb : t.receiver.receivedCallback := hcbk.symm.trans hcb
        exact (hiff hsent hcb).mpr (hw hsent hcb n rfl)

/-- **One call**: it keeps the stream together exactly when it transfers all it was asked to. -/
theorem Conserved.step (h : t.Conserved) {e : TransferEvent} (hstep : machine.step t e = some t') :
    (t'.Faithful → Whole t e t') ∧ (Whole t e t' → t'.Conserved) := by
  cases e with
  | send data written => exact h.send hstep
  | receive buffer read => exact h.receive hstep

/-- A stream nothing has been sent on, and the connection at its receiving end. -/
def start (net : Net) (memory : ReceiveBuffer) (ip : String) (port : ℤ) (callback : Bool) :
    Transfer where
  receiver := { construct net memory ip port with receivedCallback := callback }

theorem conserved_start (net : Net) (memory : ReceiveBuffer) (ip : String) (port : ℤ)
    (callback : Bool) : (start net memory ip port callback).Conserved :=
  ⟨fun _ => rfl, fun _ _ => rfl⟩

end Transfer

open Transfer

/-- **Blocking transfer is faithful in exactly the runs in which every call transfers all it was
asked to**, for as long as every `send` returns true and somebody is there to be handed the
bytes. -/
theorem faithfulTransfer_iff (net : Net) (memory : ReceiveBuffer) (ip : String) (port : ℤ)
    (callback : Bool) (es : List TransferEvent) :
    Transfer.machine.Always Faithful (start net memory ip port callback) es
      ↔ Transfer.machine.Along Whole (start net memory ip port callback) es :=
  Machine.always_iff_along Conserved (fun _ => Conserved.faithful)
    (fun _ _ _ h hstep => (h.step hstep).2) (fun _ _ _ h hstep => (h.step hstep).1)
    (conserved_start net memory ip port callback)

/-- A payload of two bytes of which one is written, and a buffer of two bytes of which one is
filled: in both runs every `send` returned true, and the callback was given what is no beginning of
what was sent. -/
theorem not_beginning_of_short_transfer :
    ¬ Transfer.machine.Always Beginning (start .loopback .zeroes "127.0.0.1" 8080 true)
        [.send [1, 2] (some 1), .send [3] (some 1), .receive [0, 0] (some 2)]
      ∧ ¬ Transfer.machine.Always Beginning (start .loopback .zeroes "127.0.0.1" 8080 true)
        [.send [7, 8] (some 2), .receive [0, 0] (some 1)] := by
  refine ⟨fun h => ?_, fun h => ?_⟩
  · have hend := h.last rfl
    revert hend
    decide +kernel
  · have hend := h.last rfl
    revert hend
    decide +kernel

end MultiplayerServer
