import MultiplayerServer.Network.AsioServer

/-!
# Network/AcceptLoop — the loop of `start_tcp_accept` and `handle_tcp_accept`

Every accepted peer makes a new acceptor, a new connection and a new `async_accept`; an accept that
fails makes nothing.

* `oneAccept_iff` — the loop stays alive in exactly the runs in which no accept fails;
* `oneListener_iff` — no listener is made beside an old one on its endpoint in exactly the runs in
  which no accept succeeds but after a change of the endpoint;
* `acceptsOnClosed_iff` — the accepts are issued on sockets that are not open in exactly the runs in
  which the configured address is no literal when one is issued.
-/

namespace MultiplayerServer

open Machinery

/-- The constructor of an acceptor, and what the process listened on when it was called. -/
@[simp] def ServerEffect.construction : ServerEffect → Option (Endpoint × List Endpoint)
  | .constructedAcceptor endpoint held => some (endpoint, held)
  | _ => none

/-- An accept issued. -/
@[simp] def ServerEffect.issued : ServerEffect → Option AcceptOp
  | .issuedAccept op => some op
  | _ => none

/-- What the accept loop reads and writes of a server. -/
structure AcceptLoop where
  status : ServerStatus
  acceptor : Option Endpoint
  accepts : List AcceptOp
  constructions : List (Endpoint × List Endpoint)
  issued : List AcceptOp

namespace AsioServer

def acceptLoop (s : AsioServer) : AcceptLoop where
  status := s.status
  acceptor := s.acceptor
  accepts := s.accepts
  constructions := s.history.filterMap ServerEffect.construction
  issued := s.history.filterMap ServerEffect.issued

/-- **The loop is alive**: a running server has exactly one accept outstanding. -/
def OneAccept (s : AsioServer) : Prop :=
  s.status = .kRunning → s.stopped = false → s.terminated = false → s.accepts.length = 1

/-- **One listener per endpoint**: no acceptor was made on an endpoint the process listened on. -/
def OneListener (s : AsioServer) : Prop :=
  ∀ construction ∈ s.acceptLoop.constructions, construction.1 ∉ construction.2

/-- **Every accept was issued on a socket that was not open.** -/
def AcceptsOnClosed (s : AsioServer) : Prop :=
  ∀ op ∈ s.acceptLoop.issued, op.connection.socket.isOpen = false

variable (net : Net) (memory : ReceiveBuffer) {s s' : AsioServer} {e : ServerEvent}

/-- Whether a new acceptor would open, bind and listen. -/
def listens (s : AsioServer) : Bool :=
  match net.resolve s.ipAddress s.port with
  | none => false
  | some endpoint => net.binds endpoint s.acceptor.toList

/-- What `start_tcp_accept` makes of the loop. -/
theorem startTcpAccept_acceptLoop (s : AsioServer) :
    (s.startTcpAccept net memory).2.acceptLoop =
      { status := if s.listens net then .kRunning else s.status
        acceptor := if s.listens net then net.resolve s.ipAddress s.port else s.acceptor
        accepts := s.accepts ++ if s.listens net then [s.nextAccept net memory] else []
        constructions := s.acceptLoop.constructions
          ++ (net.resolve s.ipAddress s.port).toList.map fun endpoint =>
            (endpoint, s.acceptor.toList)
        issued := s.acceptLoop.issued
          ++ if s.listens net then [s.nextAccept net memory] else [] } := by
  cases hr : net.resolve s.ipAddress s.port with
  | none => simp [startTcpAccept, listens, acceptLoop, hr]
  | some endpoint =>
    cases hb : net.binds endpoint s.acceptor.toList <;>
      simp [startTcpAccept, makeAcceptor, asyncAccept, nextAccept, listens, acceptLoop, hr, hb,
        List.filterMap_cons]

/-- Where it can listen, it issues an accept and the server runs… -/
theorem rearmed_of_listens {t : AsioServer} (hl : t.listens net = true)
    (hloop : s'.acceptLoop = (t.startTcpAccept net memory).2.acceptLoop) :
    s'.status = .kRunning ∧ s'.acceptor = net.resolve t.ipAddress t.port
      ∧ s'.accepts = t.accepts ++ [t.nextAccept net memory] := by
  rw [startTcpAccept_acceptLoop, hl] at hloop
  exact ⟨congrArg AcceptLoop.status hloop, congrArg AcceptLoop.acceptor hloop,
    congrArg AcceptLoop.accepts hloop⟩

/-- …and where it cannot, it has done nothing. -/
theorem rearmed_of_not_listens {t : AsioServer} (hl : t.listens net = false)
    (hloop : s'.acceptLoop = (t.startTcpAccept net memory).2.acceptLoop) :
    s'.status = t.status ∧ s'.acceptor = t.acceptor ∧ s'.accepts = t.accepts := by
  rw [startTcpAccept_acceptLoop, hl] at hloop
  refine ⟨congrArg AcceptLoop.status hloop, congrArg AcceptLoop.acceptor hloop, ?_⟩
  exact (congrArg AcceptLoop.accepts hloop).trans (List.append_nil _)

/-- It throws when it cannot listen. -/
theorem startTcpAccept_fst (s : AsioServer) :
    (∃ u, (s.startTcpAccept net memory).1 = .ok u) ↔ s.listens net = true := by
  cases hr : net.resolve s.ipAddress s.port with
  | none => simp [startTcpAccept, listens, hr]
  | some endpoint =>
    cases hb : net.binds endpoint s.acceptor.toList <;>
      simp [startTcpAccept, makeAcceptor, listens, hr, hb]

/-- What `handle_tcp_accept` makes of the loop when a peer was accepted: the same, and the process
is gone when it cannot listen. -/
theorem handleTcpAccept_acceptLoop (s : AsioServer) (connection : AsioTcpConnection)
    (answer : Option Bool) :
    (s.handleTcpAccept net memory false connection answer).acceptLoop
        = (s.startTcpAccept net memory).2.acceptLoop
      ∧ (s.listens net = false →
        (s.handleTcpAccept net memory false connection answer).terminated = true) := by
  have hlistens := s.startTcpAccept_fst net memory
  rw [handleTcpAccept]
  match hs : s.startTcpAccept net memory with
  | (.error error, s₁) =>
    exact ⟨rfl, fun _ => rfl⟩
  | (.ok (), s₁) =>
    rw [hs] at hlistens
    refine ⟨?_, fun h => by simp [hlistens.mp ⟨(), rfl⟩] at h⟩
    cases hcb : s₁.onConnectionAcceptedCallback <;> cases answer <;>
      simp [hcb, acceptLoop, List.filterMap_cons]

/-! ## What an event does to the loop -/

/-- **A turn of the loop**: a first start, an accept that fails, an accept that succeeds; every
other event leaves the loop alone. -/
inductive Turn (s s' : AsioServer) : ServerEvent → Prop
  | idle {e : ServerEvent} (hloop : s'.acceptLoop = s.acceptLoop)
      (hstart : e = .start → s.status = .kRunning ∨ s.hasTcp = false)
      (hcompletion : ∀ serial outcome, e ≠ .completion serial outcome) : Turn s s' e
  | started (hstatus : s.status ≠ .kRunning) (htcp : s.hasTcp = true)
      (hloop : s'.acceptLoop = (s.startTcpAccept net memory).2.acceptLoop) : Turn s s' .start
  | failed {serial : ℕ} {op : AcceptOp} (hop : op ∈ s.accepts) (hstopped : s.stopped = false)
      (hs' : s' = { s with accepts := s.accepts.erase op }) :
      Turn s s' (.completion serial .failed)
  | accepted {serial : ℕ} {op : AcceptOp} {answer : Option Bool} (hop : op ∈ s.accepts)
      (hloop : s'.acceptLoop = ({ s with accepts := s.accepts.erase op }.startTcpAccept net
        memory).2.acceptLoop)
      (hterminated : s.listens net = false → s'.terminated = true) :
      Turn s s' (.completion serial (.accepted answer))

theorem stop_acceptLoop (s : AsioServer) : s.stop.2.acceptLoop = s.acceptLoop := by
  rw [stop]
  split
  · rfl
  · cases s.onServerClosedCallback <;> simp [acceptLoop, List.filterMap_cons]

theorem start_turn (s : AsioServer) : Turn net memory s (s.start net memory).2 .start := by
  by_cases hstatus : s.status = .kRunning
  · have hs : (s.start net memory).2 = s := by rw [start, if_pos hstatus]
    exact .idle (by rw [hs]) (fun _ => Or.inl hstatus) nofun
  cases htcp : s.hasTcp with
  | false =>
    have hs : (s.start net memory).2.acceptLoop = s.acceptLoop := by
      simp only [start, hstatus, htcp, if_false, Bool.false_eq_true]
      split <;> rfl
    exact .idle hs (fun _ => Or.inr htcp) nofun
  | true =>
    refine .started hstatus htcp ?_
    simp only [start, hstatus, htcp, if_false, if_true]
    match s.startTcpAccept net memory with
    | (.error error, s₁) => rfl
    | (.ok (), s₁) =>
      simp only
      split <;> rfl

/-- A completion takes its accept off the outstanding ones; a failed one does nothing else… -/
theorem complete_failed {serial : ℕ} (h : s.complete net memory serial .failed = some s') :
    ∃ op ∈ s.accepts, s.stopped = false ∧ s' = { s with accepts := s.accepts.erase op } := by
  rw [complete] at h
  split at h
  · cases h
  · rename_i op hfind
    rw [Option.ite_none_left_eq_some] at h
    exact ⟨op, List.mem_of_find?_eq_some hfind, by simpa using h.1, (Option.some.inj h.2).symm⟩

/-- …and a successful one is handled. -/
theorem complete_accepted {serial : ℕ} {answer : Option Bool}
    (h : s.complete net memory serial (.accepted answer) = some s') :
    ∃ op ∈ s.accepts, s' = { s with accepts := s.accepts.erase op }.handleTcpAccept net memory
      false op.connection answer := by
  rw [complete] at h
  split at h
  · cases h
  · rename_i op hfind
    rw [Option.ite_none_left_eq_some] at h
    exact ⟨op, List.mem_of_find?_eq_some hfind, (Option.some.inj h.2).symm⟩

theorem complete_turn {serial : ℕ} {outcome : Outcome}
    (h : s.complete net memory serial outcome = some s') :
    Turn net memory s s' (.completion serial outcome) := by
  cases outcome with
  | failed =>
    obtain ⟨op, hop, hstopped, rfl⟩ := complete_failed net memory h
    exact .failed hop hstopped rfl
  | accepted answer =>
    obtain ⟨op, hop, rfl⟩ := complete_accepted net memory h
    obtain ⟨hloop, hterminated⟩ := { s with accepts := s.accepts.erase op }
      |>.handleTcpAccept_acceptLoop net memory op.connection answer
    exact .accepted hop hloop hterminated

theorem step_turn (h : (machine net memory).step s e = some s') :
    s.terminated = false ∧ Turn net memory s s' e := by
  simp only [machine, step, Option.ite_none_left_eq_some] at h
  obtain ⟨hterminated, h⟩ := h
  refine ⟨by simpa using hterminated, ?_⟩
  match e with
  | .start =>
    obtain rfl := Option.some.inj h
    exact start_turn net memory s
  | .completion serial outcome => exact complete_turn net memory h
  | .stop =>
    obtain rfl := Option.some.inj h
    exact .idle s.stop_acceptLoop nofun nofun
  | .setIpAddress _ | .setPort _ | .setIoContextThreadCount _ | .registOnClientConnected
  | .registOnServerClosed =>
    obtain rfl := Option.some.inj h
    exact .idle rfl nofun nofun

/-- The event calls `start_tcp_accept`. -/
def Rearms (s : AsioServer) : ServerEvent → Prop
  | .start => s.status ≠ .kRunning ∧ s.hasTcp = true
  | .completion _ (.accepted _) => True
  | _ => False

/-- **An event calls `start_tcp_accept`, or makes no acceptor and issues no accept.** -/
theorem Turn.rearms_or (h : Turn net memory s s' e) :
    (s.Rearms e ∧ ∃ accepts, s'.acceptLoop
        = ({ s with accepts := accepts }.startTcpAccept net memory).2.acceptLoop)
      ∨ ¬ s.Rearms e ∧ s'.acceptLoop = { s.acceptLoop with accepts := s'.accepts } := by
  cases h with
  | idle hloop hstart hcompletion =>
    refine Or.inr ⟨?_, ?_⟩
    · match e with
      | .start =>
        rintro ⟨hstatus, htcp⟩
        obtain hrunning | hnone := hstart rfl
        · exact hstatus hrunning
        · simp [hnone] at htcp
      | .completion serial outcome => exact (hcompletion serial outcome rfl).elim
      | .setIpAddress _ | .setPort _ | .setIoContextThreadCount _ | .registOnClientConnected
      | .registOnServerClosed | .stop => exact id
    · have haccepts : s'.accepts = s.accepts := congrArg AcceptLoop.accepts hloop
      rw [hloop, haccepts]
      rfl
  | started hstatus htcp hloop => exact Or.inl ⟨⟨hstatus, htcp⟩, s.accepts, hloop⟩
  | failed _ _ hs' =>
    subst hs'
    exact Or.inr ⟨id, rfl⟩
  | accepted _ hloop _ => exact Or.inl ⟨trivial, _, hloop⟩

/-! ## The loop stays alive -/

/-- What the status says of the loop. -/
structure Alive (s : AsioServer) : Prop where
  running : s.status = .kRunning → s.accepts.length = 1
  idle : s.status ≠ .kRunning → s.accepts = []

/-- The loop is a matter of what it reads and writes. -/
theorem Alive.congr (h : s.Alive) (hloop : s'.acceptLoop = s.acceptLoop) : s'.Alive := by
  have hstatus : s'.status = s.status := congrArg AcceptLoop.status hloop
  have haccepts : s'.accepts = s.accepts := congrArg AcceptLoop.accepts hloop
  exact ⟨fun hr => haccepts ▸ h.running (hstatus ▸ hr), fun hr => haccepts ▸ h.idle (hstatus ▸ hr)⟩

/-- **`start_tcp_accept` on a server with no accept outstanding brings the loop to life.** -/
theorem alive_of_rearmed {t : AsioServer} (haccepts : t.accepts = [])
    (hloop : s'.acceptLoop = (t.startTcpAccept net memory).2.acceptLoop)
    (hidle : t.listens net = false → t.status ≠ .kRunning) : s'.Alive := by
  cases hl : t.listens net with
  | true =>
    obtain ⟨hstatus, -, hops⟩ := rearmed_of_listens net memory hl hloop
    exact ⟨fun _ => by simp [hops, haccepts], fun hr => (hr hstatus).elim⟩
  | false =>
    obtain ⟨hstatus, -, hops⟩ := rearmed_of_not_listens net memory hl hloop
    exact ⟨fun hr => (hidle hl (hstatus ▸ hr)).elim, fun _ => hops.trans haccepts⟩

/-- A completed accept was the only one. -/
theorem Alive.erase (h : s.Alive) {op : AcceptOp} (hop : op ∈ s.accepts) :
    s.status = .kRunning ∧ s.accepts.erase op = [] := by
  have hrunning : s.status = .kRunning := by
    by_contra hr
    simp [h.idle hr] at hop
  obtain ⟨op', hop'⟩ := List.length_eq_one_iff.mp (h.running hrunning)
  rw [hop', List.mem_singleton] at hop
  exact ⟨hrunning, by simp [hop', hop]⟩

/-- **A turn of the loop keeps it alive unless the accept failed.** -/
theorem Alive.turn (h : s.Alive) (hturn : Turn net memory s s' e)
    (he : ∀ serial, e ≠ .completion serial .failed) (hterminated : s'.terminated = false) :
    s'.Alive := by
  cases hturn with
  | idle hloop _ _ => exact h.congr hloop
  | started hstatus _ hloop =>
    exact alive_of_rearmed net memory (h.idle hstatus) hloop fun _ => hstatus
  | failed _ _ _ => exact absurd rfl (he _)
  | accepted hop hloop hgone =>
    refine alive_of_rearmed net memory (h.erase hop).2 hloop fun hl => ?_
    simp [hgone hl] at hterminated

/-! ## One listener for an endpoint -/

/-- The endpoint to listen on is not the one the server listens on already. -/
def Moved (s : AsioServer) : Prop :=
  ∀ endpoint, net.resolve s.ipAddress s.port = some endpoint → s.acceptor ≠ some endpoint

/-- One listener, and none before the first start. -/
structure Listeners (s : AsioServer) : Prop where
  one : s.OneListener
  idle : s.status ≠ .kRunning → s.acceptor = none

/-- **`start_tcp_accept` keeps to one listener exactly when the endpoint is another one.** -/
theorem oneListener_rearmed_iff (h : s.OneListener) {accepts : List AcceptOp}
    (hloop : s'.acceptLoop
      = ({ s with accepts := accepts }.startTcpAccept net memory).2.acceptLoop) :
    s'.OneListener ↔ s.Moved net := by
  rw [OneListener, hloop, startTcpAccept_acceptLoop]
  refine List.forall_mem_append.trans ((and_iff_right h).trans ?_)
  cases hr : net.resolve s.ipAddress s.port <;> simp [Moved, hr]

/-- A server that does not come to run does not come to listen. -/
theorem idle_rearmed (h : s.status ≠ .kRunning → s.acceptor = none) {accepts : List AcceptOp}
    (hloop : s'.acceptLoop
      = ({ s with accepts := accepts }.startTcpAccept net memory).2.acceptLoop)
    (hr : s'.status ≠ .kRunning) : s'.acceptor = none := by
  let t := { s with accepts := accepts }
  cases hl : t.listens net with
  | true => exact (hr (rearmed_of_listens net memory hl hloop).1).elim
  | false =>
    obtain ⟨hstatus, hacceptor, -⟩ := rearmed_of_not_listens net memory hl hloop
    exact hacceptor.trans (h (hstatus ▸ hr))

/-- **An event keeps to one listener exactly when it makes none or the endpoint has changed.** -/
theorem oneListener_turn_iff (h : s.Listeners) (hturn : Turn net memory s s' e) :
    s'.OneListener ↔ (s.Rearms e → s.Moved net) := by
  obtain ⟨hrearms, accepts, hloop⟩ | ⟨hrearms, hloop⟩ := hturn.rearms_or
  · rw [oneListener_rearmed_iff net memory h.one hloop, imp_iff_right hrearms]
  · refine iff_of_true ?_ fun hr => (hrearms hr).elim
    rw [OneListener, hloop]
    exact h.one

theorem Listeners.turn (h : s.Listeners) (hturn : Turn net memory s s' e)
    (he : s.Rearms e → s.Moved net) : s'.Listeners := by
  refine ⟨(oneListener_turn_iff net memory h hturn).mpr he, ?_⟩
  obtain ⟨-, accepts, hloop⟩ | ⟨-, hloop⟩ := hturn.rearms_or
  · exact idle_rearmed net memory h.idle hloop
  · have hstatus : s'.status = s.status := congrArg AcceptLoop.status hloop
    have hacceptor : s'.acceptor = s.acceptor := congrArg AcceptLoop.acceptor hloop
    exact fun hr => hacceptor ▸ h.idle (hstatus ▸ hr)

/-! ## The sockets of the accepts -/

/-- **The connection made for an accept opens its socket exactly when the address is a literal.** -/
theorem nextAccept_isOpen (s : AsioServer) :
    (s.nextAccept net memory).connection.socket.isOpen = (net.fromString s.ipAddress).isSome := by
  simp only [nextAccept, AsioTcpConnection.construct]
  cases net.fromString s.ipAddress with
  | none => rfl
  | some family => cases family <;> rfl

/-- …so the operating system takes the accept of a connection in the sense of its own runs exactly
when the address is none. -/
theorem accept_nextAccept (s : AsioServer) (taken : Bool) :
    (s.nextAccept net memory).connection.accept taken =
      if (net.fromString s.ipAddress).isSome then none
      else some ((s.nextAccept net memory).connection.acceptPeer taken) := by
  have hopen := s.nextAccept_isOpen net memory
  rw [AsioTcpConnection.accept, hopen]
  cases net.fromString s.ipAddress with
  | none => exact if_pos ⟨rfl, rfl, rfl⟩
  | some family => exact if_neg fun h => by simp at h

/-- If an accept is issued, then on behalf of an address that is no literal. -/
def Named (s : AsioServer) : Prop := s.listens net = true → net.fromString s.ipAddress = none

/-- **An event issues on a closed socket exactly when it issues nothing or for a name.** -/
theorem acceptsOnClosed_turn_iff (h : s.AcceptsOnClosed) (hturn : Turn net memory s s' e) :
    s'.AcceptsOnClosed ↔ (s.Rearms e → s.Named net) := by
  obtain ⟨hrearms, accepts, hloop⟩ | ⟨hrearms, hloop⟩ := hturn.rearms_or
  · rw [AcceptsOnClosed, hloop, startTcpAccept_acceptLoop, imp_iff_right hrearms]
    refine List.forall_mem_append.trans ((and_iff_right h).trans ?_)
    have hlistens : { s with accepts := accepts }.listens net = s.listens net := rfl
    cases hl : s.listens net <;> simp [Named, hlistens, hl, nextAccept_isOpen]
  · refine iff_of_true ?_ fun hr => (hrearms hr).elim
    rw [AcceptsOnClosed, hloop]
    exact h

end AsioServer

open AsioServer

/-- **The accept loop stays alive in exactly the runs in which no accept fails.** -/
theorem oneAccept_iff (net : Net) (memory : ReceiveBuffer) (ipAddress : String) (port : ℤ)
    (hasTcp hasUdp : Bool) (es : List ServerEvent) :
    (machine net memory).Always OneAccept (construct ipAddress port hasTcp hasUdp) es
      ↔ (machine net memory).Along (fun _ e _ => ∀ serial, e ≠ .completion serial .failed)
        (construct ipAddress port hasTcp hasUdp) es := by
  refine Machine.always_iff_along (fun s => s.terminated = false → s.Alive)
    (fun s h hr _ hterminated => (h hterminated).running hr) ?_ ?_ ?_
  · intro s e s' h hstep he hterminated
    obtain ⟨hs, hturn⟩ := step_turn net memory hstep
    exact (h hs).turn net memory hturn he hterminated
  · rintro s e s' h hstep hone serial rfl
    obtain ⟨hs, hturn⟩ := step_turn net memory hstep
    cases hturn with
    | idle _ _ hcompletion => exact hcompletion _ _ rfl
    | failed hop hstopped hs' =>
      obtain ⟨hrunning, hnone⟩ := (h hs).erase hop
      subst hs'
      simpa [hnone] using hone hrunning hstopped hs
  · exact fun _ => ⟨nofun, fun _ => rfl⟩

/-- One accept fails; the server says it is running and accepts nobody any more. -/
theorem not_oneAccept_of_failed :
    ¬ (machine .loopback .zeroes).Always OneAccept (construct "localhost" 8080 true false)
      [.start, .completion 0 .failed] := by
  intro h
  exact absurd (h.last rfl rfl rfl rfl) (by decide +kernel)

/-- **One listener for an endpoint, in exactly the runs in which every peer is accepted after the
endpoint was changed.** -/
theorem oneListener_iff (net : Net) (memory : ReceiveBuffer) (ipAddress : String) (port : ℤ)
    (hasTcp hasUdp : Bool) (es : List ServerEvent) :
    (machine net memory).Always OneListener (construct ipAddress port hasTcp hasUdp) es
      ↔ (machine net memory).Along (fun s e _ => s.Rearms e → s.Moved net)
        (construct ipAddress port hasTcp hasUdp) es := by
  refine Machine.always_iff_along Listeners (fun _ h => h.one) ?_ ?_ ?_
  · intro s e s' h hstep he
    exact h.turn net memory (step_turn net memory hstep).2 he
  · intro s e s' h hstep hone
    exact (oneListener_turn_iff net memory h (step_turn net memory hstep).2).mp hone
  · exact ⟨fun _ hmem => (List.not_mem_nil hmem).elim, fun _ => rfl⟩

/-- The first client is accepted, and the port is bound a second time. -/
theorem not_oneListener_of_accepted :
    ¬ (machine .loopback .zeroes).Always OneListener (construct "localhost" 8080 true false)
      [.start, .completion 0 (.accepted (some true))] := by
  intro h
  have hend := h.last rfl (⟨.v4, 1, 8080⟩, [⟨.v4, 1, 8080⟩])
  exact absurd (by decide) (hend (by decide))

/-- **Every accept is issued on a socket that is not open, in exactly the runs in which none is
issued for an address literal.** -/
theorem acceptsOnClosed_iff (net : Net) (memory : ReceiveBuffer) (ipAddress : String) (port : ℤ)
    (hasTcp hasUdp : Bool) (es : List ServerEvent) :
    (machine net memory).Always AcceptsOnClosed (construct ipAddress port hasTcp hasUdp) es
      ↔ (machine net memory).Along (fun s e _ => s.Rearms e → s.Named net)
        (construct ipAddress port hasTcp hasUdp) es := by
  refine Machine.always_iff_along AcceptsOnClosed (fun _ h => h) ?_ ?_ ?_
  · intro s e s' h hstep he
    exact (acceptsOnClosed_turn_iff net memory h (step_turn net memory hstep).2).mpr he
  · intro s e s' h hstep hclosed
    exact (acceptsOnClosed_turn_iff net memory h (step_turn net memory hstep).2).mp hclosed
  · exact fun _ hmem => (List.not_mem_nil hmem).elim

/-- A server on an address literal accepts nobody at all. -/
theorem not_acceptsOnClosed_of_literal :
    ¬ (machine .loopback .zeroes).Always AcceptsOnClosed (construct "127.0.0.1" 8080 true false)
      [.start] := by
  intro h
  have hend := h.last rfl (nextAccept .loopback .zeroes (construct "127.0.0.1" 8080 true false))
  exact absurd (hend (List.mem_singleton.mpr rfl)) (by decide)

end MultiplayerServer
