import MultiplayerServer.Network.AcceptLoop

/-!
# Network/Serving — whom the server hands to the game

A client is handed over by `handle_tcp_accept`, after it has called `start_tcp_accept` for the next
one.  On an operating system that refuses a second listener on an endpoint, that call throws as long
as the first listener holds the port; the exception leaves the handler, and with it the process.  A
server at port 0 is none of these: each of its listeners is given a port of its own.

* `terminated_of_accepted` — the first accepted client ends the process;
* `nobodyServed` — so nobody is ever served, in any run that does not reconfigure the server.
-/

namespace MultiplayerServer

open Machinery

/-- A connection handed over. -/
@[simp] def ServerEffect.handed : ServerEffect → Option AsioTcpConnection
  | .handedOver connection => some connection
  | _ => none

/-- **The operating system refuses a second listener** on an endpoint.  At port 0 it does not: it
chooses another port for each. -/
def Net.Exclusive (net : Net) : Prop :=
  ∀ endpoint held, endpoint.port ≠ 0 → endpoint ∈ held → net.binds endpoint held = false

theorem exclusive_loopback : Net.loopback.Exclusive := fun _ _ hport h =>
  decide_eq_false fun hor => hor.elim hport fun hnot => hnot h

namespace AsioServer

variable (net : Net) (memory : ReceiveBuffer) {s s' : AsioServer} {e : ServerEvent}

/-- The server is to listen at a port that is named. -/
def FixedPort (s : AsioServer) : Prop :=
  ∀ endpoint, net.resolve s.ipAddress s.port = some endpoint → endpoint.port ≠ 0

/-- The connections the game was given. -/
def served (s : AsioServer) : List AsioTcpConnection := s.history.filterMap ServerEffect.handed

/-- The address and the port the server is configured with. -/
def configured (s : AsioServer) : String × ℤ := (s.ipAddress, s.port)

/-- The event changes neither. -/
def Unconfiguring : ServerEvent → Prop
  | .setIpAddress _ => False
  | .setPort _ => False
  | _ => True

theorem startTcpAccept_served (s : AsioServer) :
    (s.startTcpAccept net memory).2.served = s.served
      ∧ (s.startTcpAccept net memory).2.configured = s.configured := by
  cases hr : net.resolve s.ipAddress s.port with
  | none => simp [startTcpAccept, hr]
  | some endpoint =>
    cases hb : net.binds endpoint s.acceptor.toList <;>
      simp [startTcpAccept, makeAcceptor, asyncAccept, served, configured, hr, hb,
        List.filterMap_cons]

theorem start_served (s : AsioServer) :
    (s.start net memory).2.served = s.served
      ∧ (s.start net memory).2.configured = s.configured := by
  have hrearmed := s.startTcpAccept_served net memory
  unfold start
  split
  · exact ⟨rfl, rfl⟩
  cases s.hasTcp with
  | false => simp only [Bool.false_eq_true, if_false]; split <;> exact ⟨rfl, rfl⟩
  | true =>
    simp only [if_true]
    match hs : s.startTcpAccept net memory with
    | (.error error, s₁) => simpa only [hs] using hrearmed
    | (.ok (), s₁) =>
      simp only [hs] at hrearmed ⊢
      split <;> exact hrearmed

theorem handleTcpAccept_served (s : AsioServer) (connection : AsioTcpConnection)
    (answer : Option Bool) (hl : s.listens net = false) :
    (s.handleTcpAccept net memory false connection answer).served = s.served
      ∧ (s.handleTcpAccept net memory false connection answer).configured = s.configured := by
  have hrearmed := s.startTcpAccept_served net memory
  have hlistens := s.startTcpAccept_fst net memory
  unfold handleTcpAccept
  match hs : s.startTcpAccept net memory with
  | (.error error, s₁) =>
    rw [hs] at hrearmed
    exact hrearmed
  | (.ok (), s₁) =>
    rw [hs] at hlistens
    simp [hlistens.mp ⟨(), rfl⟩] at hl

theorem stop_served (s : AsioServer) :
    s.stop.2.served = s.served ∧ s.stop.2.configured = s.configured := by
  rw [stop]
  split
  · exact ⟨rfl, rfl⟩
  · cases s.onServerClosedCallback <;> simp [served, configured, List.filterMap_cons]

/-- **A server that is not reconfigured serves only a client it goes on to listen after.** -/
theorem step_served (h : (machine net memory).step s e = some s') (he : Unconfiguring e)
    (hl : ∀ serial answer, e = .completion serial (.accepted answer) → s.listens net = false) :
    s'.served = s.served ∧ s'.configured = s.configured := by
  simp only [machine, step, Option.ite_none_left_eq_some] at h
  obtain ⟨-, h⟩ := h
  cases e with
  | setIpAddress _ => exact he.elim
  | setPort _ => exact he.elim
  | start =>
    obtain rfl := Option.some.inj h
    exact start_served net memory s
  | stop =>
    obtain rfl := Option.some.inj h
    exact s.stop_served
  | completion serial outcome =>
    cases outcome with
    | failed =>
      obtain ⟨op, -, -, rfl⟩ := complete_failed net memory h
      exact ⟨rfl, rfl⟩
    | accepted answer =>
      obtain ⟨op, -, rfl⟩ := complete_accepted net memory h
      exact { s with accepts := s.accepts.erase op }.handleTcpAccept_served net memory op.connection
        answer (hl serial answer rfl)
  | _ =>
    obtain rfl := Option.some.inj h
    exact ⟨rfl, rfl⟩

/-- Nobody has been served, and a running server listens where it would listen next. -/
structure Unserved (s : AsioServer) : Prop where
  fixed : s.FixedPort net
  served : s.served = []
  running : s.status = .kRunning → s.acceptor = net.resolve s.ipAddress s.port
  idle : s.status ≠ .kRunning → s.accepts = []

/-- It cannot listen there once more. -/
theorem Unserved.not_listens (h : s.Unserved net) (hos : net.Exclusive) {op : AcceptOp}
    (hop : op ∈ s.accepts) : s.listens net = false := by
  have hrunning : s.status = .kRunning := by
    by_contra hr
    simp [h.idle hr] at hop
  cases hr : net.resolve s.ipAddress s.port with
  | none => simp [listens, hr]
  | some endpoint => simp [listens, h.running hrunning, hr, hos _ _ (h.fixed endpoint hr)]

/-- **Nobody is served next either.** -/
theorem Unserved.step (h : s.Unserved net) (hos : net.Exclusive)
    (hstep : (machine net memory).step s e = some s') (he : Unconfiguring e) :
    s'.Unserved net := by
  obtain ⟨-, hturn⟩ := step_turn net memory hstep
  have hl : ∀ serial answer, e = .completion serial (.accepted answer) → s.listens net = false := by
    rintro serial answer rfl
    cases hturn with
    | idle _ _ hcompletion => exact (hcompletion _ _ rfl).elim
    | accepted hop _ _ => exact h.not_listens net hos hop
  obtain ⟨hserved, hconfigured⟩ := step_served net memory hstep he hl
  have hip : s'.ipAddress = s.ipAddress := congrArg Prod.fst hconfigured
  have hport : s'.port = s.port := congrArg Prod.snd hconfigured
  suffices hloop : (s'.status = .kRunning → s'.acceptor = net.resolve s.ipAddress s.port)
      ∧ (s'.status ≠ .kRunning → s'.accepts = []) from
    ⟨by rw [FixedPort, hip, hport]; exact h.fixed, hserved.trans h.served,
      by rw [hip, hport]; exact hloop.1, hloop.2⟩
  cases hturn with
  | idle hloop _ _ =>
    have hstatus : s'.status = s.status := congrArg AcceptLoop.status hloop
    have hacceptor : s'.acceptor = s.acceptor := congrArg AcceptLoop.acceptor hloop
    have haccepts : s'.accepts = s.accepts := congrArg AcceptLoop.accepts hloop
    rw [hstatus, hacceptor, haccepts]
    exact ⟨h.running, h.idle⟩
  | started hstatus _ hloop =>
    cases hl : s.listens net with
    | true =>
      obtain ⟨hst, hacceptor, -⟩ := rearmed_of_listens net memory hl hloop
      exact ⟨fun _ => hacceptor, fun hr => (hr hst).elim⟩
    | false =>
      obtain ⟨hst, -, haccepts⟩ := rearmed_of_not_listens net memory hl hloop
      exact ⟨fun hr => (hstatus (hst ▸ hr)).elim, fun _ => haccepts.trans (h.idle hstatus)⟩
  | failed _ _ hs' =>
    subst hs'
    exact ⟨h.running, fun hr => by simp [h.idle hr]⟩
  | @accepted _ op _ _ hloop _ =>
    obtain ⟨hst, hacceptor, haccepts⟩ := rearmed_of_not_listens net memory
      (t := { s with accepts := s.accepts.erase op }) (hl _ _ rfl) hloop
    rw [hst, hacceptor, haccepts]
    exact ⟨h.running, fun hr => by simp [h.idle hr]⟩

end AsioServer

open AsioServer

/-- **Where the operating system refuses a second listener, the first client is the last**: the
process ends as it goes on to accept the next. -/
theorem terminated_of_accepted {net : Net} {memory : ReceiveBuffer} (hos : net.Exclusive)
    {s s' : AsioServer} (hfixed : s.FixedPort net) (hmoved : ¬ s.Moved net) {serial : ℕ}
    {answer : Option Bool}
    (h : (machine net memory).step s (.completion serial (.accepted answer)) = some s') :
    s'.terminated = true := by
  obtain ⟨-, hturn⟩ := step_turn net memory h
  cases hturn with
  | idle _ _ hcompletion => exact (hcompletion _ _ rfl).elim
  | accepted _ _ hterminated =>
    refine hterminated ?_
    simp only [Moved, not_forall, not_not] at hmoved
    obtain ⟨endpoint, hendpoint, hacceptor⟩ := hmoved
    simp [listens, hendpoint, hacceptor, hos _ _ (hfixed endpoint hendpoint)]

/-- **Where the operating system refuses a second listener, nobody is ever served**: a server that
is not reconfigured, and is to listen at a port other than 0, hands no client to the game, whatever
its accepts complete with. -/
theorem nobodyServed {net : Net} {memory : ReceiveBuffer} (hos : net.Exclusive)
    (ipAddress : String) (port : ℤ) (hasTcp hasUdp : Bool)
    (hport : ∀ endpoint, net.resolve ipAddress port = some endpoint → endpoint.port ≠ 0)
    {es : List ServerEvent}
    (hes : (machine net memory).Along (fun _ e _ => Unconfiguring e)
      (construct ipAddress port hasTcp hasUdp) es) :
    (machine net memory).Always (fun s => s.served = [])
      (construct ipAddress port hasTcp hasUdp) es := by
  have hstart : (construct ipAddress port hasTcp hasUdp).Unserved net :=
    ⟨hport, rfl, nofun, fun _ => rfl⟩
  exact (Machine.always_of_along (Unserved net)
    (fun _ _ _ h hstep he => h.step net memory hos hstep he) hstart hes).mono fun _ h => h.served

/-- A client that the game would have taken. -/
theorem nobodyServed_one :
    (machine .loopback .zeroes).Always (fun s => s.served = [])
      (construct "127.0.0.1" 8080 true true) [.registOnClientConnected, .start,
        .completion 0 (.accepted (some true))] :=
  nobodyServed exclusive_loopback "127.0.0.1" 8080 true true
    (by rintro _ ⟨⟩; decide)
    (Machine.along_of_forall fun e he _ _ _ => by
      simp only [List.mem_cons, List.not_mem_nil, or_false] at he
      rcases he with rfl | rfl | rfl <;> exact trivial)

end MultiplayerServer
