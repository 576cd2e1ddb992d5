import MultiplayerServer.Network.ConnectionRuns

/-!
# Network/Reentry — a disconnected callback that calls `close()` again

`close` runs the game's callback before it returns, and the callback may call `close` in turn, as
often as it likes, and end with an exception.  `Network/AsioTcpConnection` records the callback as
an effect; here it is run, with fuel for the depth of the calls.

* `isSome_close` — two calls deep is deep enough: the status is written before the callback runs, so
  the calls the callback makes return at once;
* `disconnects_match` — the callback runs once for every change of the status to `kClosed`.
-/

namespace MultiplayerServer

open Machinery

/-- What one invocation of the callback does: some calls of `close`, and it returns or throws. -/
structure Reaction where
  closes : ℕ
  throws : Bool
  deriving DecidableEq, Repr

/-- A connection, with a count of the changes of its status from another value to `kClosed`. -/
structure Watched where
  connection : AsioTcpConnection
  closings : ℕ := 0
  deriving DecidableEq

namespace Watched

/-- How often the callback was invoked. -/
def invocations (w : Watched) : ℕ := w.connection.history.count .disconnected

/-- `set_status`, watched. -/
def setStatus (w : Watched) (status : ConnectionStatus) : Watched where
  connection := w.connection.setStatus status
  closings := w.closings
    + if w.connection.status ≠ .kClosed ∧ status = .kClosed then 1 else 0

/-- One call of `close` after the other. -/
def repeatClose (close : Watched → Option Watched) : ℕ → Watched → Option Watched
  | 0, w => some w
  | n + 1, w => (close w).bind (repeatClose close n)

/-- The body of the callback, and whether it throws. -/
def react (close : Watched → Option Watched) (reaction : Reaction) (w : Watched) :
    Option (Bool × Watched) :=
  (repeatClose close reaction.closes w).map (reaction.throws, ·)

/-- `close`, run by a callback whose invocations do what `reactions` says; `none` is out of fuel. -/
def close (reactions : ℕ → Reaction) : ℕ → Watched → Option Watched
  | 0, _ => none
  | fuel + 1, w =>
    let w := { w with connection := { w.connection with epoch := w.connection.epoch + 1 } }
    if w.connection.status = .kClosed then some w
    else
      let w := { w with connection := { w.connection with socket := w.connection.socket.close } }
      let w := w.setStatus .kClosed
      if w.connection.disconnectedCallback then
        -- what is thrown is caught, and only logged
        (react (close reactions fuel) (reactions w.invocations)
          { w with connection := w.connection.emit .disconnected }).map Prod.snd
      else some w

/-- One event: the destructor and a failed read come down to `close`, the others are as they
were. -/
def step (reactions : ℕ → Reaction) (fuel : ℕ) (w : Watched) (e : Event) : Option Watched :=
  if w.connection.alive then
    match e with
    | .call .close => w.close reactions fuel
    | .call .destroy =>
      (w.close reactions fuel).map fun w =>
        { w with connection := { w.connection with alive := false } }
    | .completion (.receiveError op) =>
      if op ∈ w.connection.reads ∧ op.stored = none then
        close reactions fuel { w with
          connection := { w.connection with reads := w.connection.reads.erase op }.settle
            op.epoch true }
      else none
    | e =>
      (AsioTcpConnection.machine.step w.connection e).map fun c =>
        { connection := c
          closings := w.closings
            + if w.connection.status ≠ .kClosed ∧ c.status = .kClosed then 1 else 0 }
  else none

/-- The runs of a connection whose callback runs. -/
def machine (reactions : ℕ → Reaction) (fuel : ℕ) : Machine Watched Event :=
  ⟨step reactions fuel⟩

/-- A connection that has just been made and given a callback. -/
def start (net : Net) (memory : ReceiveBuffer) (ip : String) (port : ℤ) : Watched where
  connection := { AsioTcpConnection.construct net memory ip port with disconnectedCallback := true }

/-- **The callback matches the transitions**: it was invoked once for each. -/
def Matches (w : Watched) : Prop := w.invocations = w.closings

/-! ## `close` terminates -/

variable {reactions : ℕ → Reaction} {w w' : Watched}

/-- A `close` that finds `kClosed` returns. -/
theorem close_of_closed (h : w.connection.status = .kClosed) (fuel : ℕ) :
    w.close reactions (fuel + 1)
      = some { w with connection := { w.connection with epoch := w.connection.epoch + 1 } } := by
  simp [close, h]

theorem repeatClose_of_closed (h : w.connection.status = .kClosed) (fuel n : ℕ) :
    repeatClose (close reactions (fuel + 1)) n w
      = some { w with connection := { w.connection with epoch := w.connection.epoch + n } } := by
  induction n generalizing w with
  | zero => rfl
  | succ n ih =>
    rw [repeatClose, close_of_closed h, Option.bind_some, ih (by exact h)]
    simp only [Nat.add_assoc, Nat.add_comm 1]

/-- How deep in calls a `close` ends: the epoch counts those its callback made too. -/
def closedEpoch (reactions : ℕ → Reaction) (w : Watched) : ℕ :=
  w.connection.epoch + 1
    + if w.connection.status ≠ .kClosed ∧ w.connection.disconnectedCallback then
        (reactions w.invocations).closes
      else 0

/-- **A `close` with a callback that runs does what `close` does**, and counts the calls. -/
theorem close_eq (w : Watched) (fuel : ℕ) :
    w.close reactions (fuel + 2)
      = some { connection := { w.connection.close with epoch := closedEpoch reactions w }
               closings := w.closings + if w.connection.status = .kClosed then 0 else 1 } := by
  by_cases h : w.connection.status = .kClosed
  · rw [close_of_closed h]
    simp [closedEpoch, AsioTcpConnection.close_of_closed h, h]
  · cases hcb : w.connection.disconnectedCallback with
    | false =>
      simp [close, closedEpoch, setStatus, AsioTcpConnection.close,
        AsioTcpConnection.onDisconnected, h, hcb]
    | true =>
      rw [close]
      simp only [h, hcb, if_false, setStatus, AsioTcpConnection.setStatus]
      rw [if_pos trivial, react, repeatClose_of_closed rfl]
      simp [closedEpoch, AsioTcpConnection.close, AsioTcpConnection.onDisconnected, h, hcb,
        invocations]

/-- **Every `close` terminates**, two calls deep, whatever the callback does. -/
theorem isSome_close (w : Watched) {fuel : ℕ} (hfuel : 2 ≤ fuel) :
    (w.close reactions fuel).isSome = true := by
  obtain ⟨n, rfl⟩ := Nat.exists_eq_add_of_le hfuel
  rw [Nat.add_comm, close_eq]
  rfl

end Watched

/-! ## What the other events leave alone -/

namespace AsioTcpConnection

variable {c c' : AsioTcpConnection}

/-- The callback stays set, is not invoked, and the status does not come to be `kClosed`. -/
structure Undisturbed (c c' : AsioTcpConnection) : Prop where
  callback : c.disconnectedCallback = true → c'.disconnectedCallback = true
  invoked : c'.history.count .disconnected = c.history.count .disconnected
  status : c'.status = .kClosed → c.status = .kClosed

theorem connect_status (outcome : ConnectOutcome) :
    (c.connect outcome).2.status = .kClosed → c.status = .kClosed := by
  unfold connect
  split
  · exact id
  · cases outcome with
    | unresolved => exact id
    | refused => exact id
    | granted =>
      simp only
      split
      · exact id
      · intro h
        cases h

theorem asyncConnect_status (resolved : Bool) :
    (c.asyncConnect resolved).2.status = .kClosed → c.status = .kClosed := by
  rw [asyncConnect]
  split_ifs <;> simp

/-- No member function but the setter writes the callback. -/
theorem disconnectedCallback_call {f : Call} (hf : f ≠ .setDisconnectedCallback false)
    (h : c.disconnectedCallback = true) : (c.call f).disconnectedCallback = true := by
  cases f with
  | setDisconnectedCallback set => cases set <;> simp_all [call]
  | connect outcome =>
    simp only [call, connect]
    split_ifs
    · exact h
    · cases outcome <;> simp only <;> first | exact h | skip
      split <;> exact h
  | asyncConnect resolved =>
    simp only [call, asyncConnect]
    split_ifs <;> simpa [requestConnect] using h
  | asyncSend data =>
    simp only [call, asyncSend]
    split_ifs <;> simpa using h
  | close =>
    simp only [call, close, onDisconnected]
    split_ifs <;> simpa using h
  | destroy =>
    simp only [call, close, onDisconnected]
    split_ifs <;> simpa using h
  | setConnectedCallback set => exact h
  | setReceiveCallback set => exact h

theorem disconnectedCallback_complete {d : Completion} (hd : c.complete d = some c')
    (h : c.disconnectedCallback = true) : c'.disconnectedCallback = true := by
  cases d with
  | connect op error =>
    obtain ⟨-, rfl⟩ := complete_connect hd
    cases error <;> simp only [handleConnect, onConnected] <;> split_ifs <;> simpa using h
  | send op accepted =>
    cases accepted with
    | some data =>
      obtain ⟨-, -, rfl⟩ := complete_send hd
      rw [handleSend_eq]
      split_ifs <;> simpa using h
    | none =>
      obtain ⟨-, rfl⟩ := complete_sendError hd
      rw [handleSend_eq]
      split_ifs <;> simpa using h
  | fill op chunk =>
    obtain ⟨-, -, rfl⟩ := complete_fill hd
    simpa using h
  | receive op early =>
    obtain ⟨-, chunk, -, rfl⟩ := complete_receive hd
    rw [handleReceive_eq, onReceived]
    split_ifs <;> simpa using h
  | receiveError op =>
    obtain ⟨-, -, rfl⟩ := complete_receiveError hd
    simp only [close, onDisconnected]
    split_ifs <;> simpa using h

theorem undisturbed_call {f : Call} (hclose : f ≠ .close) (hdestroy : f ≠ .destroy)
    (hset : f ≠ .setDisconnectedCallback false) : Undisturbed c (c.call f) := by
  refine ⟨disconnectedCallback_call hset, ?_, ?_⟩
  · rw [call_history, List.count_append, Nat.add_eq_left, List.count_eq_zero]
    cases f with
    | asyncConnect resolved => simp only [effectsOfCall]; split_ifs <;> simp
    | asyncSend data => simp only [effectsOfCall]; split_ifs <;> simp
    | close => contradiction
    | destroy => contradiction
    | _ => simp [effectsOfCall]
  · cases f with
    | connect outcome => exact connect_status (c := c.requestConnect) outcome
    | asyncConnect resolved => exact asyncConnect_status (c := c.requestConnect) resolved
    | asyncSend data => simp [call]
    | close => contradiction
    | destroy => contradiction
    | setConnectedCallback set => exact id
    | setDisconnectedCallback set => exact id
    | setReceiveCallback set => exact id

theorem undisturbed_complete {d : Completion} (hd : c.complete d = some c')
    (herror : ∀ op, d ≠ .receiveError op) : Undisturbed c c' := by
  have hc := completed hd
  refine ⟨disconnectedCallback_complete hd, ?_, ?_⟩
  · rw [hc.history, List.count_append, Nat.add_eq_left, List.count_eq_zero]
    cases d with
    | connect op error => simp only [effectsOf]; split_ifs <;> simp
    | send op accepted => cases accepted <;> simp only [effectsOf] <;> split_ifs <;> simp
    | fill op chunk => simp [effectsOf]
    | receive op early => cases early <;> simp only [effectsOf] <;> split_ifs <;> simp
    | receiveError op => exact absurd rfl (herror op)
  · rw [hc.status]
    cases d with
    | connect op error => cases error <;> simp
    | receiveError op => exact absurd rfl (herror op)
    | send op accepted => exact id
    | fill op chunk => exact id
    | receive op early => exact id

theorem undisturbed_accept (taken : Bool) : Undisturbed c (c.acceptPeer taken) := by
  refine ⟨fun h => ?_, ?_, by simp⟩
  · cases taken <;> simpa [acceptPeer] using h
  · rw [(acceptPeer_frame taken).2.2.2.2.2, List.count_append, Nat.add_eq_left,
      List.count_eq_zero]
    cases taken <;> simp

end AsioTcpConnection

/-! ## Runs -/

namespace Watched

variable {reactions : ℕ → Reaction} {fuel : ℕ} {w w' : Watched}

/-- The callback is set, and was invoked once for each change to `kClosed`. -/
structure Answered (w : Watched) : Prop where
  callback : w.connection.disconnectedCallback = true
  matched : w.Matches

theorem answered_start (net : Net) (memory : ReceiveBuffer) (ip : String) (port : ℤ) :
    (start net memory ip port).Answered := ⟨rfl, rfl⟩

/-- A connection that differs in nothing the callback shows. -/
theorem Answered.of_undisturbed (h : w.Answered) {c : AsioTcpConnection}
    (hc : AsioTcpConnection.Undisturbed w.connection c) :
    Answered { connection := c, closings := w.closings + if w.connection.status ≠ .kClosed
      ∧ c.status = .kClosed then 1 else 0 } := by
  refine ⟨hc.callback h.callback, ?_⟩
  rw [Matches, invocations, hc.invoked, if_neg fun hne => hne.1 (hc.status hne.2), Nat.add_zero]
  exact h.matched

/-- **A `close` invokes the callback if it changes the status**, and neither otherwise. -/
theorem Answered.close (h : w.Answered) (hclose : w.close reactions (fuel + 2) = some w') :
    w'.Answered := by
  rw [close_eq] at hclose
  obtain rfl := Option.some.inj hclose
  have hcall := AsioTcpConnection.disconnectedCallback_call (f := .close) (by simp) h.callback
  refine ⟨hcall, ?_⟩
  have hcount : w.connection.close.history.count .disconnected
      = w.invocations + if w.connection.status = .kClosed then 0 else 1 := by
    rw [AsioTcpConnection.close_history, List.count_append, h.callback, invocations]
    by_cases hst : w.connection.status = .kClosed <;> simp [hst]
  rw [Matches, invocations, hcount, h.matched]

/-- **A step answers every transition.** -/
theorem Answered.step (h : w.Answered) {e : Event}
    (hset : e ≠ .call (.setDisconnectedCallback false))
    (hstep : (machine reactions (fuel + 2)).step w e = some w') : w'.Answered := by
  obtain ⟨-, hstep⟩ := Option.ite_none_right_eq_some.mp hstep
  split at hstep
  · exact h.close hstep
  · obtain ⟨w₁, hclose, rfl⟩ := Option.map_eq_some_iff.mp hstep
    obtain ⟨hcallback, hmatched⟩ := h.close hclose
    exact ⟨hcallback, hmatched⟩
  · rename_i op
    obtain ⟨-, hclose⟩ := Option.ite_none_right_eq_some.mp hstep
    refine Answered.close ⟨?_, ?_⟩ hclose
    · simpa using h.callback
    · simpa [Matches, invocations] using h.matched
  · rename_i _ hclose hdestroy herror
    obtain ⟨c, hc, rfl⟩ := Option.map_eq_some_iff.mp hstep
    refine h.of_undisturbed ?_
    cases e with
    | call f =>
      rw [AsioTcpConnection.step_call hc]
      exact AsioTcpConnection.undisturbed_call (by rintro rfl; exact hclose rfl)
        (by rintro rfl; exact hdestroy rfl) (by rintro rfl; exact hset rfl)
    | completion d =>
      exact AsioTcpConnection.undisturbed_complete (AsioTcpConnection.step_completion hc)
        (by rintro op rfl; exact herror op rfl)
    | accept taken =>
      rw [(AsioTcpConnection.step_accept hc).2]
      exact AsioTcpConnection.undisturbed_accept taken

end Watched

open Watched

/-- **The disconnected callback is invoked once for every change of the status to `kClosed`, and
every `close` returns**, whatever the callback does and in whatever order things happen. -/
theorem disconnects_match (reactions : ℕ → Reaction) (net : Net) (memory : ReceiveBuffer)
    (ip : String) (port : ℤ) {es : List Event}
    (hes : ∀ e ∈ es, e ≠ .call (.setDisconnectedCallback false)) {fuel : ℕ} (hfuel : 2 ≤ fuel) :
    (∀ w : Watched, (w.close reactions fuel).isSome = true)
      ∧ (Watched.machine reactions fuel).Always Matches (start net memory ip port) es := by
  refine ⟨fun w => isSome_close w hfuel, ?_⟩
  obtain ⟨n, rfl⟩ := Nat.exists_eq_add_of_le' hfuel
  have hset : (Watched.machine reactions (n + 2)).Along
      (fun _ e _ => e ≠ .call (.setDisconnectedCallback false)) (start net memory ip port) es :=
    Machine.along_of_forall fun e he _ _ _ => hes e he
  exact (Machine.always_of_along Answered (fun w e w' h hstep hset => h.step hset hstep)
    (answered_start net memory ip port) hset).mono fun _ h => h.matched

/-- A callback that closes three times and throws, a connect that completes late, and a second
`close`. -/
theorem disconnects_match_late :
    (∀ w : Watched, (w.close (fun _ => ⟨3, true⟩) 2).isSome = true)
      ∧ (Watched.machine (fun _ => ⟨3, true⟩) 2).Always Matches
        (start .loopback .zeroes "127.0.0.1" 8080)
        [.call (.asyncConnect true), .call .close, .completion (.connect ⟨0, 0⟩ false),
          .call .close] :=
  disconnects_match (fun _ => ⟨3, true⟩) .loopback .zeroes "127.0.0.1" 8080 (by simp)
    (Nat.le_refl 2)

end MultiplayerServer
