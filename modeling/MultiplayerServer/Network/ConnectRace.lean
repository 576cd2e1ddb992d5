import MultiplayerServer.Network.ConnectionRuns

/-!
# Network/ConnectRace — `async_connect` against its own completion

`async_connect` initiates the connect first and sets `kConnecting` afterwards.  The `io_context` is
run by several threads, so the completion may be handled in between.  Here `async_connect` is two
steps, `begin` and `setConnecting`, with anything between them; `exec_uninterrupted` puts the two
together again.

* `connecting_iff_inTime` — `kConnecting` means a pending connect in exactly the runs in which no
  call sets it after the last completion;
* `Wedged.forever` — what becomes of a connection where one did.
-/

namespace MultiplayerServer

open Machinery

/-- A connection with the calls of `async_connect` that have initiated a connect and not set the
status yet. -/
structure Racing where
  connection : AsioTcpConnection
  calling : List ConnectOp := []
  deriving DecidableEq

/-- A step of a connection on which `async_connect` is not atomic. -/
inductive RaceEvent
  /-- `async_connect` up to the initiation of the connect. -/
  | begin (resolved : Bool)
  /-- `set_status(kConnecting)`, in the call that initiated `op`. -/
  | setConnecting (op : ConnectOp)
  | other (e : Event)
  deriving DecidableEq

/-- Whether an event is an `async_connect` in one piece. -/
def Event.isAsyncConnect : Event → Bool
  | .call (.asyncConnect _) => true
  | _ => false

namespace Racing

open AsioTcpConnection

/-- `async_connect` up to the initiation of the connect. -/
def begin (s : Racing) (resolved : Bool) : Racing :=
  let c := s.connection.requestConnect
  if c.status = .kConnected ∨ c.status = .kConnecting then { s with connection := c }
  else if resolved then
    { connection := c.initiateConnect, calling := s.calling ++ [⟨c.serial, c.epoch⟩] }
  else { s with connection := c }

/-- The rest of `async_connect`. -/
def setConnecting (s : Racing) (op : ConnectOp) : Racing where
  connection := s.connection.setStatus .kConnecting
  calling := s.calling.erase op

/-- One event; an `async_connect` is only ever taken in its two steps. -/
def step (s : Racing) : RaceEvent → Option Racing
  | .begin resolved => if s.connection.alive then some (s.begin resolved) else none
  | .setConnecting op =>
    if s.connection.alive ∧ op ∈ s.calling then some (s.setConnecting op) else none
  | .other e =>
    if e.isAsyncConnect then none
    else (machine.step s.connection e).map fun c => { s with connection := c }

/-- The runs of a connection on which `async_connect` is not atomic. -/
def races : Machine Racing RaceEvent := ⟨step⟩

/-- **`kConnecting` means that a connect is pending.** -/
def ConnectingIsPending (s : Racing) : Prop :=
  s.connection.status = .kConnecting → s.connection.connects ≠ []

/-- A call sets the status while a completion is still to be delivered: of the connect it has
initiated itself, or of another one. -/
def InTime (s : Racing) : RaceEvent → Prop
  | .setConnecting _ => s.connection.connects ≠ []
  | _ => True

/-- No completion is delivered to a connect whose call is still to set the status. -/
def Unhurried (s : Racing) : RaceEvent → Prop
  | .other (.completion (.connect op _)) => op ∉ s.calling
  | _ => True

variable {s s' : Racing} {c c' : AsioTcpConnection}

theorem races_setConnecting {op : ConnectOp} (h : races.step s (.setConnecting op) = some s') :
    op ∈ s.calling ∧ s' = s.setConnecting op := by
  simp only [races, step, Option.ite_none_right_eq_some, Option.some.injEq] at h
  exact ⟨h.1.2, h.2.symm⟩

theorem races_begin {resolved : Bool} (h : races.step s (.begin resolved) = some s') :
    s' = s.begin resolved := by
  simp only [races, step, Option.ite_none_right_eq_some, Option.some.injEq] at h
  exact h.2.symm

theorem races_other {e : Event} (h : races.step s (.other e) = some s') :
    e.isAsyncConnect = false
      ∧ ∃ c', machine.step s.connection e = some c' ∧ s' = { s with connection := c' } := by
  simp only [races, step, Option.ite_none_left_eq_some, Option.map_eq_some_iff] at h
  obtain ⟨he, c', hc', rfl⟩ := h
  exact ⟨Bool.eq_false_iff.mpr he, c', hc', rfl⟩

/-- **Uninterrupted, the two steps are `async_connect`.** -/
theorem exec_uninterrupted (halive : c.alive)
    (hidle : ¬ (c.status = .kConnected ∨ c.status = .kConnecting)) :
    races.exec ⟨c, []⟩ [.begin true, .setConnecting ⟨c.serial, c.epoch⟩]
      = some ⟨c.call (.asyncConnect true), []⟩ := by
  have hbegin : begin ⟨c, []⟩ true
      = ⟨c.requestConnect.initiateConnect, [⟨c.serial, c.epoch⟩]⟩ := by
    simp [begin, hidle, requestConnect]
  have hcall : c.call (.asyncConnect true) = c.requestConnect.initiateConnect.setStatus
      .kConnecting := by
    simp [call, asyncConnect, hidle]
  have halive' : c.requestConnect.alive = true := halive
  simp [races, step, halive, hbegin, halive', hcall, setConnecting]

/-- The first part of `async_connect` leaves the status to the second… -/
theorem begin_status (resolved : Bool) :
    (s.begin resolved).connection.status = s.connection.status := by
  simp only [begin]
  split_ifs <;> simp

/-- …and takes no outstanding connect away. -/
theorem connects_prefix_begin (resolved : Bool) :
    s.connection.connects <+: (s.begin resolved).connection.connects := by
  simp only [begin]
  split_ifs <;> simp

/-- `connect` never sets `kConnecting`. -/
theorem connecting_of_connect {outcome : ConnectOutcome}
    (hst : (c.connect outcome).2.status = .kConnecting) : c.status = .kConnecting := by
  unfold connect at hst
  split at hst
  · exact hst
  · match outcome with
    | .unresolved => exact hst
    | .refused => exact hst
    | .granted =>
      cases hup : c.socket.connect true with
      | mk granted socket => cases granted <;> simp_all

/-- Nothing but `async_connect` sets `kConnecting`, and what leaves it leaves the outstanding
connects too. -/
theorem connecting_of_step {e : Event} (he : e.isAsyncConnect = false)
    (hstep : machine.step c e = some c') (hst : c'.status = .kConnecting) :
    c.status = .kConnecting ∧ c'.connects = c.connects := by
  match e with
  | .call f =>
    obtain rfl := step_call hstep
    cases f with
    | connect outcome =>
      exact ⟨by simpa using connecting_of_connect (c := c.requestConnect) hst, by simp [call]⟩
    | asyncConnect resolved => cases he
    | asyncSend data => simpa [call] using hst
    | close => exact absurd hst (by simp [call])
    | destroy => exact absurd hst (by simp [call])
    | setConnectedCallback set => exact ⟨hst, rfl⟩
    | setDisconnectedCallback set => exact ⟨hst, rfl⟩
    | setReceiveCallback set => exact ⟨hst, rfl⟩
  | .completion d =>
    have hc := completed (step_completion hstep)
    rw [hc.status] at hst
    rw [hc.connects]
    cases d with
    | connect op error => cases error <;> cases hst
    | send op accepted => exact ⟨hst, rfl⟩
    | fill op chunk => exact ⟨hst, rfl⟩
    | receive op early => exact ⟨hst, rfl⟩
    | receiveError op => cases hst
  | .accept taken =>
    obtain ⟨-, rfl⟩ := step_accept hstep
    simpa using hst

/-- **What a step does to the promise of `kConnecting`**: it is kept unless the step sets the status
too late. -/
theorem pending_of_step {e : RaceEvent} (h : s.ConnectingIsPending)
    (hstep : races.step s e = some s') (he : s.InTime e) : s'.ConnectingIsPending := by
  intro hst
  match e with
  | .begin resolved =>
    obtain rfl := races_begin hstep
    obtain ⟨more, hmore⟩ := s.connects_prefix_begin resolved
    rw [← hmore]
    exact List.append_ne_nil_of_left_ne_nil (h (s.begin_status resolved ▸ hst)) _
  | .setConnecting op =>
    obtain ⟨-, rfl⟩ := races_setConnecting hstep
    exact he
  | .other e =>
    obtain ⟨he, c', hc', rfl⟩ := races_other hstep
    obtain ⟨hc, hconnects⟩ := connecting_of_step he hc' hst
    exact hconnects ▸ h hc

/-! ## Nothing delivered too early -/

/-- Only the completion of a connect takes it off the outstanding ones. -/
theorem mem_connects_of_step {e : Event} (he : e.isAsyncConnect = false)
    (hstep : machine.step c e = some c') {op : ConnectOp} (hop : op ∈ c.connects)
    (hearly : ∀ error, e ≠ .completion (.connect op error)) : op ∈ c'.connects := by
  match e with
  | .call f =>
    obtain rfl := step_call hstep
    cases f with
    | asyncConnect resolved => cases he
    | _ => simpa [call] using hop
  | .completion d =>
    rw [(completed (step_completion hstep)).connects]
    cases d with
    | connect done error =>
      have hne : op ≠ done := fun heq => hearly error (heq ▸ rfl)
      exact (List.mem_erase_of_ne hne).mpr hop
    | _ => exact hop
  | .accept taken =>
    obtain ⟨-, rfl⟩ := step_accept hstep
    simpa using hop

/-- The connect of every call that is still to set the status is outstanding. -/
def CallsPend (s : Racing) : Prop := ∀ op ∈ s.calling, op ∈ s.connection.connects

theorem callsPend_of_step {e : RaceEvent} (h : s.CallsPend) (hstep : races.step s e = some s')
    (he : s.Unhurried e) : s'.CallsPend := by
  match e with
  | .begin resolved =>
    obtain rfl := races_begin hstep
    intro op hop
    simp only [begin] at hop ⊢
    split_ifs at hop ⊢
    · exact h op hop
    · simpa using (List.mem_append.mp hop).imp (h op) List.mem_singleton.mp
    · exact h op hop
  | .setConnecting op =>
    obtain ⟨-, rfl⟩ := races_setConnecting hstep
    exact fun other hother => h other (List.mem_of_mem_erase hother)
  | .other e =>
    obtain ⟨hne, c', hc', rfl⟩ := races_other hstep
    intro op hop
    refine mem_connects_of_step hne hc' (h op hop) ?_
    rintro error rfl
    exact he hop

theorem CallsPend.inTime {e : RaceEvent} (h : s.CallsPend) (hstep : races.step s e = some s') :
    s.InTime e := by
  match e with
  | .setConnecting op => exact List.ne_nil_of_mem (h op (races_setConnecting hstep).1)
  | .begin _ | .other _ => trivial

/-! ## Too late -/

/-- `kConnecting`, with no connect outstanding and none to come. -/
structure Wedged (s : Racing) : Prop where
  status : s.connection.status = .kConnecting
  connects : s.connection.connects = []
  calling : s.calling = []

/-- The events that end in `close()`. -/
def Closes : RaceEvent → Prop
  | .other (.call .close) => True
  | .other (.call .destroy) => True
  | .other (.completion (.receiveError _)) => True
  | _ => False

/-- A wedged connection is as good as busy. -/
theorem Wedged.begin (h : s.Wedged) (resolved : Bool) :
    s.begin resolved = { s with connection := s.connection.requestConnect } := by
  simp [Racing.begin, h.status]

/-- Neither a call nor a completion moves a connection out of `kConnecting` when no connect is
outstanding, unless it closes. -/
theorem connecting_stays {e : Event} (he : e.isAsyncConnect = false) (hcloses : ¬ Closes (.other e))
    (hst : c.status = .kConnecting) (hnone : c.connects = []) (hstep : machine.step c e = some c') :
    c'.status = .kConnecting := by
  match e with
  | .call f =>
    obtain rfl := step_call hstep
    cases f with
    | connect outcome =>
      have hbusy : c.requestConnect.status = .kConnecting := by simpa using hst
      rw [call, connect_of_busy (Or.inr hbusy)]
      exact hbusy
    | asyncConnect resolved => cases he
    | close => exact absurd trivial hcloses
    | destroy => exact absurd trivial hcloses
    | _ => simpa [call] using hst
  | .completion d =>
    have hd := step_completion hstep
    rw [(completed hd).status]
    cases d with
    | connect op error =>
      have hop := (complete_connect hd).1
      simp [hnone] at hop
    | receiveError op => exact absurd trivial hcloses
    | _ => exact hst
  | .accept taken =>
    have hfresh := (step_accept hstep).1
    simp [hst] at hfresh

/-- **Only `close()` gets a wedged connection out of `kConnecting`.** -/
theorem Wedged.step {e : RaceEvent} (h : s.Wedged) (hstep : races.step s e = some s')
    (he : ¬ Closes e) : s'.Wedged := by
  match e with
  | .begin resolved =>
    obtain rfl := races_begin hstep
    rw [h.begin]
    exact ⟨by simpa using h.status, by simpa using h.connects, h.calling⟩
  | .setConnecting op =>
    have hop := (races_setConnecting hstep).1
    simp [h.calling] at hop
  | .other e =>
    obtain ⟨hne, c', hc', rfl⟩ := races_other hstep
    have hst := connecting_stays hne he h.status h.connects hc'
    exact ⟨hst, (connecting_of_step hne hc' hst).2.trans h.connects, h.calling⟩

/-- **A wedged connection stays so until it is closed**, and `connect()` and `async_connect()` go on
answering true. -/
theorem Wedged.forever (h : s.Wedged) {es : List RaceEvent}
    (hes : races.Along (fun _ e _ => ¬ Closes e) s es) :
    races.Always (fun s => s.Wedged ∧ ∀ outcome resolved,
      (s.connection.connect outcome).1 = true
        ∧ (s.connection.asyncConnect resolved).1 = some true) s es := by
  refine (Machine.always_of_along Wedged (fun _ _ _ h hstep he => h.step hstep he) h hes).mono ?_
  intro s h
  refine ⟨h, fun outcome resolved => ⟨?_, ?_⟩⟩
  · rw [connect_of_busy (Or.inr h.status)]
  · rw [asyncConnect_of_busy (Or.inr h.status)]

/-- The connect has failed before its call set the status; two more calls change nothing. -/
theorem Wedged.forever_retried :
    ∃ s, races.exec ⟨construct .loopback .zeroes "127.0.0.1" 8080, []⟩
        [.begin true, .other (.completion (.connect ⟨0, 0⟩ true)), .setConnecting ⟨0, 0⟩] = some s
      ∧ races.Always (fun s => s.Wedged ∧ ∀ outcome resolved,
        (s.connection.connect outcome).1 = true
          ∧ (s.connection.asyncConnect resolved).1 = some true) s
        [.begin true, .other (.call (.connect .granted))] :=
  ⟨_, rfl, Wedged.forever ⟨rfl, rfl, rfl⟩ (Machine.along_of_forall fun e he _ _ => by
    simp only [List.mem_cons, List.not_mem_nil, or_false] at he
    rcases he with rfl | rfl <;> exact fun _ => not_false)⟩

end Racing

open Racing AsioTcpConnection

/-- **`kConnecting` means a pending connect in exactly the runs in which every call sets it in
time.** -/
theorem connecting_iff_inTime (net : Net) (memory : ReceiveBuffer) (ip : String) (port : ℤ)
    (es : List RaceEvent) :
    races.Always ConnectingIsPending ⟨construct net memory ip port, []⟩ es
      ↔ races.Along (fun s e _ => s.InTime e) ⟨construct net memory ip port, []⟩ es := by
  refine Machine.always_iff_along ConnectingIsPending (fun _ h => h)
    (fun _ _ _ h hstep he => pending_of_step h hstep he) ?_ ?_
  · intro s e s' _ hstep hpending
    match e with
    | .setConnecting op =>
      obtain ⟨-, rfl⟩ := races_setConnecting hstep
      exact hpending rfl
    | .begin _ | .other _ => trivial
  · intro hst
    cases hst

/-- **…and so in every run in which no completion is delivered before its call has set the
status.** -/
theorem connecting_of_unhurried (net : Net) (memory : ReceiveBuffer) (ip : String) (port : ℤ)
    {es : List RaceEvent}
    (hes : races.Along (fun s e _ => s.Unhurried e) ⟨construct net memory ip port, []⟩ es) :
    races.Always ConnectingIsPending ⟨construct net memory ip port, []⟩ es := by
  have hinv : races.Always (fun s => s.ConnectingIsPending ∧ s.CallsPend)
      ⟨construct net memory ip port, []⟩ es := by
    refine Machine.always_of_along (fun s => s.ConnectingIsPending ∧ s.CallsPend) ?_ ?_ hes
    · rintro s e s' ⟨hpending, hcalls⟩ hstep he
      exact ⟨pending_of_step hpending hstep (hcalls.inTime hstep),
        callsPend_of_step hcalls hstep he⟩
    · exact ⟨nofun, nofun⟩
  exact hinv.mono fun _ h => h.1

/-- The connect fails before `async_connect` gets to set the status. -/
theorem not_connecting_of_earlyCompletion :
    ¬ races.Always ConnectingIsPending ⟨construct .loopback .zeroes "127.0.0.1" 8080, []⟩
      [.begin true, .other (.completion (.connect ⟨0, 0⟩ true)), .setConnecting ⟨0, 0⟩] := by
  intro h
  exact h.last rfl rfl rfl

end MultiplayerServer
