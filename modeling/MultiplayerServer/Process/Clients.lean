import MultiplayerServer.Game.Disconnecting
import MultiplayerServer.Machinery.Simulation
import MultiplayerServer.Process.Main

/-!
# Process/Clients — a process that waits for clients

`main` waits, and what goes on goes on in handlers: of an accept, which hands a client to the game,
or of a connection.  A `Running` process is the server together with the site it hands its clients
to, and runs as that site does: a client comes to it where the server goes on to listen.

* `clients_isolated` — from a document that asks for the login service, clients come to have an
  entity each, whatever their connections do, and keep it when they go;
* `nobody_connected` — on an operating system that refuses a second listener none ever do, and the
  first to be accepted ends the process.
-/

namespace MultiplayerServer

open Machinery

/-- A process, past the call of `wait`. -/
structure Running where
  server : AsioServer
  site : Site

/-- What a thread of the pool has a handler run for. -/
inductive ProcessEvent
  /-- The accept of this serial number fails… -/
  | acceptFailed (serial : ℕ)
  /-- …or there is a client. -/
  | accepted (serial : ℕ)
  /-- Something happens to a connection. -/
  | connection (r : ConnectionRef) (e : Event)
  deriving DecidableEq

namespace Running

variable (net : Net) (memory : ReceiveBuffer) (generator : ℕ → String) (l : Running)

/-- A process that has just begun to wait. -/
def begin (p : Process) : Running := { server := p.server, site := { game := p.game } }

/-- `on_connection_accepted_callback_`, which is `on_client_connected` of the game: `connection` is
read from once it has returned. -/
def callback (connection : AsioTcpConnection) : Site :=
  { l.site with
    game := (l.site.game.onClientConnected generator l.site.peers.length).2
    peers := l.site.peers ++ [{ connection }] }

/-- The handler of an accept, with a client, which the server may or may not come to hand over. -/
def accepted (serial : ℕ) : Option Running :=
  let taken := l.site.game.taken generator l.site.peers.length
  ((AsioServer.machine net memory).step l.server
      (.completion serial (.accepted (some taken)))).map fun server =>
    match server.served.drop l.server.served.length with
    | [] => { l with server }
    | connection :: _ => { server, site := l.callback generator connection }

/-- One event; there is none once an exception has left a handler. -/
def step (l : Running) : ProcessEvent → Option Running
  | .acceptFailed serial =>
    ((AsioServer.machine net memory).step l.server (.completion serial .failed)).map fun server =>
      { l with server }
  | .accepted serial => l.accepted net memory generator serial
  | .connection r e =>
    if l.server.terminated then none
    else (l.site.onConnection r e).map fun site => { l with site }

/-- The runs of a process. -/
def machine : Machine Running ProcessEvent := ⟨step net memory generator⟩

end Running

/-! ## The server of a process -/

namespace AsioServer

variable {net : Net} {memory : ReceiveBuffer} {s s' : AsioServer}

/-- A server that hands its clients to a game, with what it has made for the next of them. -/
structure Serving (net : Net) (memory : ReceiveBuffer) (game : GameMain) (s : AsioServer) :
    Prop where
  callback : s.onConnectionAcceptedCallback = true
  ip : s.ipAddress = game.ip
  port : s.port = game.port
  accepts : ∀ op ∈ s.accepts, op.connection = .construct net memory game.ip game.port

variable {game : GameMain}

theorem Serving.startTcpAccept (h : Serving net memory game s) :
    Serving net memory game (s.startTcpAccept net memory).2 := by
  have haccepts : ∀ op ∈ s.accepts ++ [s.nextAccept net memory],
      op.connection = .construct net memory game.ip game.port := by
    intro op hop
    rcases List.mem_append.mp hop with hop | hop
    · exact h.accepts op hop
    · rw [List.mem_singleton.mp hop, nextAccept, h.ip, h.port]
  cases hr : net.resolve s.ipAddress s.port with
  | none =>
    rw [AsioServer.startTcpAccept, hr]
    exact h
  | some endpoint =>
    cases hb : net.binds endpoint s.acceptor.toList <;>
      simp only [AsioServer.startTcpAccept, makeAcceptor, asyncAccept, emit, hr, hb,
        Bool.false_eq_true, if_false, if_true]
    · exact ⟨h.callback, h.ip, h.port, h.accepts⟩
    · exact ⟨h.callback, h.ip, h.port, haccepts⟩

/-- No exception has left a handler yet. -/
theorem startTcpAccept_terminated (net : Net) (memory : ReceiveBuffer) (s : AsioServer) :
    (s.startTcpAccept net memory).2.terminated = s.terminated := by
  cases hr : net.resolve s.ipAddress s.port with
  | none => simp [startTcpAccept, hr]
  | some endpoint =>
    cases hb : net.binds endpoint s.acceptor.toList <;>
      simp [startTcpAccept, makeAcceptor, asyncAccept, hr, hb]

/-- A server that has just been made serves its game, and goes on to once it is started. -/
theorem Serving.of_start (h : (ofGameMain game).start net memory = (.ok true, s)) :
    Serving net memory game s := by
  have hmade : Serving net memory game (ofGameMain game) :=
    ⟨rfl, rfl, rfl, fun op hop => absurd hop List.not_mem_nil⟩
  have hstart := hmade.startTcpAccept
  have hs : s = ((ofGameMain game).start net memory).2 := by rw [h]
  rw [hs, start, if_neg (by simp [ofGameMain, construct])]
  simp only [show (ofGameMain game).hasTcp = true from rfl, if_true]
  generalize (ofGameMain game).startTcpAccept net memory = result at hstart ⊢
  obtain ⟨_ | _, s₁⟩ := result
  · exact hstart
  · dsimp only
    split <;> exact ⟨hstart.callback, hstart.ip, hstart.port, hstart.accepts⟩

/-- **What a client makes of a server**: it is handed over, or the process comes to an end. -/
theorem Serving.accepted {serial : ℕ} {taken : Bool} (h : Serving net memory game s)
    (hstep : (machine net memory).step s (.completion serial (.accepted (some taken))) = some s') :
    Serving net memory game s' ∧ (s.listens net = true ∧ s'.terminated = false
        ∧ s'.served = s.served
          ++ [(AsioTcpConnection.construct net memory game.ip game.port).acceptPeer taken]
      ∨ s.listens net = false ∧ s'.terminated = true ∧ s'.served = s.served) := by
  simp only [machine, step, Option.ite_none_left_eq_some] at hstep
  obtain ⟨hterminated, hstep⟩ := hstep
  obtain ⟨op, hop, rfl⟩ := complete_accepted net memory hstep
  have hserving : Serving net memory game { s with accepts := s.accepts.erase op } :=
    ⟨h.callback, h.ip, h.port, fun op' hop' => h.accepts op' (List.mem_of_mem_erase hop')⟩
  have hrearmed := hserving.startTcpAccept
  have hlistens := { s with accepts := s.accepts.erase op }.startTcpAccept_fst net memory
  have hserved := ({ s with accepts := s.accepts.erase op }.startTcpAccept_served net memory).1
  have hgone := { s with accepts := s.accepts.erase op }.startTcpAccept_terminated net memory
  have hlast : ({ s with accepts := s.accepts.erase op } : AsioServer).listens net
    = s.listens net := rfl
  rw [hlast] at hlistens
  simp only [handleTcpAccept, Bool.false_eq_true, if_false]
  generalize { s with accepts := s.accepts.erase op }.startTcpAccept net memory = result
    at hrearmed hlistens hserved hgone ⊢
  obtain ⟨_ | _, s₁⟩ := result
  · refine ⟨⟨hrearmed.callback, hrearmed.ip, hrearmed.port, hrearmed.accepts⟩, Or.inr ⟨?_, rfl, ?_⟩⟩
    · simpa using hlistens
    · exact hserved
  · have hcallback : s₁.onConnectionAcceptedCallback = true := hrearmed.callback
    simp only [hcallback, if_true]
    refine ⟨⟨hrearmed.callback, hrearmed.ip, hrearmed.port, hrearmed.accepts⟩,
      Or.inl ⟨hlistens.mp ⟨(), rfl⟩, ?_, ?_⟩⟩
    · exact hgone.trans (by simpa using hterminated)
    · rw [served, emit, List.filterMap_append, ← served, hserved, h.accepts op hop]
      rfl

end AsioServer

namespace Site

/-- What happens to a connection changes nothing of the game. -/
theorem game_of_connection {s s' : Site} {r : ConnectionRef} {d : Event}
    (h : s.onConnection r d = some s') :
    s'.game = s.game ∧ s'.peers.length = s.peers.length := by
  obtain ⟨p, connection, -, -, rfl⟩ := onConnection_eq h
  exact ⟨rfl, List.length_set⟩

end Site

namespace GameMain

theorem address_onClientConnected (generator : ℕ → String) (g : GameMain) (r : ConnectionRef) :
    (g.onClientConnected generator r).2.ip = g.ip
      ∧ (g.onClientConnected generator r).2.port = g.port := by
  rw [onClientConnected]
  split <;> exact ⟨rfl, rfl⟩

end GameMain

/-! ## A process runs as a site -/

namespace Running

variable {net : Net} {memory : ReceiveBuffer} {generator : ℕ → String} {l l' : Running}
  {e : ProcessEvent}

/-- **A client that is accepted** is handed to the game, or ends the process. -/
theorem accepted_cases {serial : ℕ} (h : AsioServer.Serving net memory l.site.game l.server)
    (hstep : (machine net memory generator).step l (.accepted serial) = some l') :
    AsioServer.Serving net memory l.site.game l'.server
      ∧ (l.server.listens net = true ∧ l'.server.terminated = false
          ∧ l'.site = l.site.accept net memory generator
        ∨ l.server.listens net = false ∧ l'.server.terminated = true ∧ l'.site = l.site) := by
  obtain ⟨server, hserver, rfl⟩ := Option.map_eq_some_iff.mp hstep
  obtain ⟨hserving, ⟨hlistens, hterminated, hserved⟩ | ⟨hlistens, hterminated, hserved⟩⟩ :=
    h.accepted hserver
  · simp only [hserved, List.drop_left]
    exact ⟨hserving, Or.inl ⟨hlistens, hterminated, rfl⟩⟩
  · simp only [hserved, List.drop_length]
    exact ⟨hserving, Or.inr ⟨hlistens, hterminated, trivial⟩⟩

variable (net memory generator)

/-- **A process runs as its site**, which a client comes to where the server goes on to listen. -/
def toSite : Simulation (machine net memory generator) (Site.machine net memory generator) where
  inv l := AsioServer.Serving net memory l.site.game l.server
  state := Running.site
  events l
    | .acceptFailed _ => []
    | .accepted _ => if l.server.listens net then [.accept] else []
    | .connection r d => [.connection r d]
  keeps {l e l'} h hstep := by
    cases e with
    | acceptFailed serial =>
      obtain ⟨server, hserver, rfl⟩ := Option.map_eq_some_iff.mp hstep
      simp only [AsioServer.machine, AsioServer.step, Option.ite_none_left_eq_some] at hserver
      obtain ⟨op, -, -, rfl⟩ := AsioServer.complete_failed net memory hserver.2
      exact ⟨h.callback, h.ip, h.port, fun op' hop' => h.accepts op' (List.mem_of_mem_erase hop')⟩
    | accepted serial =>
      obtain ⟨hserving, ⟨-, -, hsite⟩ | ⟨-, -, hsite⟩⟩ := accepted_cases h hstep
      · obtain ⟨hip, hport⟩ := l.site.game.address_onClientConnected generator
          l.site.peers.length
        rw [hsite]
        exact ⟨hserving.callback, hserving.ip.trans hip.symm, hserving.port.trans hport.symm,
          fun op hop => by
            rw [Site.accept, hip, hport]
            exact hserving.accepts op hop⟩
      · rwa [hsite]
    | connection r d =>
      obtain ⟨-, hstep⟩ := Option.ite_none_left_eq_some.mp hstep
      obtain ⟨site, hsite, rfl⟩ := Option.map_eq_some_iff.mp hstep
      rw [(Site.game_of_connection hsite).1]
      exact h
  simulates {l e l'} h hstep := by
    cases e with
    | acceptFailed serial =>
      obtain ⟨server, -, rfl⟩ := Option.map_eq_some_iff.mp hstep
      rfl
    | accepted serial =>
      obtain ⟨-, ⟨hlistens, -, hsite⟩ | ⟨hlistens, -, hsite⟩⟩ := accepted_cases h hstep
      · rw [if_pos hlistens, hsite]
        rfl
      · rw [if_neg (by simp [hlistens]), hsite]
        rfl
    | connection r d =>
      obtain ⟨-, hstep⟩ := Option.ite_none_left_eq_some.mp hstep
      obtain ⟨site, hsite, rfl⟩ := Option.map_eq_some_iff.mp hstep
      have hthere : (Site.machine net memory generator).step l.site (.connection r d) = some site :=
        hsite
      rw [Machine.exec_cons, hthere]
      rfl

end Running

/-! ## The game of a process -/

namespace GameMain

variable {generator : ℕ → String} {g : GameMain} {gameConfig : GameConfig} {world : World}
  {services : List GameServiceConfig}

end GameMain

namespace World

variable {generator : ℕ → String} {w w' : World} {config : GameConfig} {data : LoginEntityConfig}
  {service : EntityRef} {connections : List ConnectionRef} {clients : List (String × EntityRef)}

/-- **One client more**, after all the others. -/
theorem Serves.concat (h : Serves w service connections w' clients) (hfresh : w'.FreshIds generator)
    (hdata : config.loginEntityConfig = some data) (hclass : data.entityClassName = "ServerEntity")
    (hmem : "NetworkComponent" ∈ data.entityComponents) (connection : ConnectionRef) :
    Serves w service (connections ++ [connection])
      (w'.onClientConnected generator config service connection).2
      (clients ++ [(w'.nextId generator, w'.objects.entities.length)]) := by
  obtain ⟨-, hclient⟩ := hfresh.onClientConnected service connection hdata hclass hmem
  have hkept := extends_onClientConnected generator w' service connection config
  refine ⟨?_, ?_, ?_, fun {id e} => ?_, h.kept.trans hkept⟩
  · exact List.rel_append (h.served.imp fun _ _ hold => hold.extends hkept) (.cons hclient .nil)
  · rw [List.map_append, List.nodup_append]
    refine ⟨h.distinct, List.nodup_singleton _, fun id hold id' hnew heq => ?_⟩
    obtain ⟨client, hin, rfl⟩ := List.mem_map.mp hold
    have hregistered : w'.getEntity client.1 = some client.2 := h.registered.mpr (Or.inr hin)
    rw [heq, List.mem_singleton.mp hnew, hfresh.next] at hregistered
    cases hregistered
  · intro client hin
    rcases List.mem_append.mp hin with hin | hin
    · exact h.new client hin
    · rw [List.mem_singleton.mp hin]
      exact h.kept.unregistered hfresh.next
  · rw [hfresh.registered_onClientConnected service connection hdata hclass, h.registered,
      List.mem_append, List.mem_singleton, or_assoc]

end World

namespace Site

variable {net : Net} {memory : ReceiveBuffer} {generator : ℕ → String} {s s' : Site}
  {event : SiteEvent} {base : World} {service : EntityRef} {data : LoginEntityConfig}

/-- What comes to a site in a process that waits. -/
def Comes : SiteEvent → Prop
  | .accept => True
  | .connection _ _ => True
  | _ => False

/-- **The clients of a site**, of which there were none in `base`, are served by a service it
finds, each for itself. -/
structure Attending (generator : ℕ → String) (base : World) (service : EntityRef)
    (data : LoginEntityConfig) (s : Site) : Prop where
  found : s.game.loginService = some service
  config : s.game.gameConfig.loginEntityConfig = some data
  fresh : s.game.world.FreshIds generator
  serves : ∃ clients, base.Serves service (List.range s.peers.length) s.game.world clients

/-- A service is found for as long as it is there. -/
theorem loginService_of_extends {g : GameMain} {w : World} (h : g.loginService = some service)
    (hw : g.world.Extends w) : ({ g with world := w } : GameMain).loginService = some service := by
  obtain ⟨e, he, hcast⟩ := Option.bind_eq_some_iff.mp h
  obtain ⟨hclass, hcast⟩ := Option.ite_none_right_eq_some.mp hcast
  obtain rfl := Option.some.inj hcast
  obtain ⟨entity, hentity, hany⟩ := (Option.any_eq_true _ _).mp hclass
  refine Option.bind_eq_some_iff.mpr ⟨e, he, ?_⟩
  rw [GameMain.asLoginService, hw.entity hentity]
  rw [Option.any_some, if_pos hany]

/-- **Whatever comes to a site**, its clients are served. -/
theorem Attending.step (h : Attending generator base service data s)
    (hclass : data.entityClassName = "ServerEntity")
    (hmem : "NetworkComponent" ∈ data.entityComponents)
    (hstep : (machine net memory generator).step s event = some s') (hevent : Comes event) :
    Attending generator base service data s' := by
  cases event with
  | initAllGameServices => exact hevent.elim
  | wire r c => exact hevent.elim
  | accept =>
    obtain rfl := Option.some.inj hstep
    have hgame : (s.accept net memory generator).game
        = { s.game with world := (s.game.world.onClientConnected generator s.game.gameConfig
          service s.peers.length).2 } := by
      refine (show _ = (s.game.onClientConnected generator s.peers.length).2 from rfl).trans ?_
      rw [GameMain.onClientConnected, ← GameMain.loginService, h.found]
    have hpeers : (s.accept net memory generator).peers.length = s.peers.length.succ :=
      List.length_append
    obtain ⟨clients, hserves⟩ := h.serves
    have hconcat := hserves.concat h.fresh h.config hclass hmem s.peers.length
    rw [← List.range_succ, ← hpeers] at hconcat
    refine ⟨?_, ?_, ?_, ?_⟩
    · rw [hgame]
      exact loginService_of_extends h.found (World.extends_onClientConnected _ _ _ _ _)
    · rw [hgame]
      exact h.config
    · rw [hgame]
      exact h.fresh.client _ _ _
    · rw [hgame]
      exact ⟨_, hconcat⟩
  | connection r e =>
    obtain ⟨hgame, hpeers⟩ := game_of_connection hstep
    have hserves := h.serves
    rw [← hgame, ← hpeers] at hserves
    exact ⟨hgame ▸ h.found, hgame ▸ h.config, hgame ▸ h.fresh, hserves⟩

end Site

/-! ## All of it -/

namespace Running

variable {host : Host} {argv : List String} {path : String} {p : Process}

/-- What waits is what was brought up. -/
theorem brought_of_waiting (hready : host.Ready argv path) (h : main host argv = .waiting p) :
    Host.Brought host path p := by
  rcases Host.main_cases host argv with ⟨path', p', hready', hbrought, hmain⟩ | ⟨hnot, -⟩
  · obtain rfl := hready.unique hready'
    rw [h] at hmain
    split at hmain
    · cases hmain
    · split at hmain
      · obtain rfl := MainOutcome.waiting.inj hmain
        exact hbrought
      · cases hmain
  · exact absurd ⟨path, hready⟩ hnot

theorem serving_begin (h : Host.Brought host path p) :
    AsioServer.Serving host.net host.memory (begin p).site.game (begin p).server :=
  .of_start h.server

end Running

open Running

/-- A machine on which there is one file, of this document. -/
def Host.single (net : Net) (tree : Json) : Host where
  commandLine _ := some ⟨0, some "game.json"⟩
  opens _ := true
  files := .single "game.json" (by decide)
  parsed _ := some tree
  net := net
  memory := .zeroes
  generator n := String.ofList (List.replicate n 'x')
  spawns _ := true

/-- A document that asks for the login service. -/
def loginDocument : Json :=
  .object [("server", .object [("ip", .string "127.0.0.1"), ("port", .int 8080),
      ("concurrency", .int 2)]),
    ("login", .object [("entity", .string "ServerEntity"), ("entity_type", .string "kPlayerEntity"),
      ("components", .array [.string "NetworkComponent"])]),
    ("services", .array [.object [("name", .string "LoginService"), ("components", .array [])]])]

namespace Running

variable {net : Net} {memory : ReceiveBuffer} {generator : ℕ → String} {l l' : Running}
  {e : ProcessEvent} {game : GameMain}

/-- A process to which nobody has come. -/
structure Deserted (net : Net) (memory : ReceiveBuffer) (game : GameMain) (l : Running) : Prop where
  serving : AsioServer.Serving net memory game l.server
  unserved : l.server.Unserved net
  site : l.site = { game }

/-- **Nobody comes to it**, and the process is gone once somebody tries. -/
theorem Deserted.step (h : Deserted net memory game l) (hos : net.Exclusive)
    (hstep : (machine net memory generator).step l e = some l') :
    Deserted net memory game l' ∧ ∀ serial, e = .accepted serial → l'.server.terminated = true := by
  obtain ⟨server, site⟩ := l
  obtain ⟨hserving, hunserved, rfl⟩ := h
  have hkept : AsioServer.Serving net memory l'.site.game l'.server :=
    (toSite net memory generator).keeps (s := ⟨server, { game }⟩) hserving hstep
  cases e with
  | acceptFailed serial =>
    obtain ⟨server', hserver, rfl⟩ := Option.map_eq_some_iff.mp hstep
    exact ⟨⟨hkept, hunserved.step net memory hos hserver trivial, rfl⟩, nofun⟩
  | accepted serial =>
    obtain ⟨server', hserver, hs'⟩ := Option.map_eq_some_iff.mp hstep
    obtain ⟨-, hturn⟩ := AsioServer.step_turn net memory hserver
    have hnot : server.listens net = false := by
      cases hturn with
      | idle _ _ hcompletion => exact (hcompletion _ _ rfl).elim
      | accepted hop _ _ => exact hunserved.not_listens net hos hop
    have hnext := hunserved.step net memory hos hserver trivial
    have hl' : l'.server = server' := by
      rw [← hs']
      split <;> rfl
    obtain ⟨hserving', ⟨hlistens, -, -⟩ | ⟨-, hterminated, hsite⟩⟩ := accepted_cases hserving hstep
    · exact absurd hlistens (by simp [hnot])
    · exact ⟨⟨hserving', hl' ▸ hnext, hsite⟩, fun _ _ => hterminated⟩
  | connection r d =>
    obtain ⟨-, hstep⟩ := Option.ite_none_left_eq_some.mp hstep
    cases hstep

end Running

/-- **Where the operating system refuses a second listener, nobody is ever connected** to a process
that is to listen at a port other than 0: the game stays as it was brought up, and the first client
to be accepted ends the process. -/
theorem nobody_connected {host : Host} {argv : List String} {p : Process}
    (hos : host.net.Exclusive) (hmain : main host argv = .waiting p)
    (hport : ∀ endpoint, host.net.resolve p.game.ip p.game.port = some endpoint →
      endpoint.port ≠ 0)
    (es : List ProcessEvent) :
    (Running.machine host.net host.memory host.generator).Always
        (fun l => l.site = { game := p.game }) (begin p) es
      ∧ (Running.machine host.net host.memory host.generator).Along
        (fun _ e l' => ∀ serial, e = .accepted serial → l'.server.terminated = true)
        (begin p) es := by
  obtain ⟨path, hready⟩ : ∃ path, host.Ready argv path := by
    rcases Host.main_cases host argv with ⟨path, -, hready, -⟩ | ⟨-, hcame⟩
    · exact ⟨path, hready⟩
    · rw [hmain] at hcame
      exact absurd trivial hcame
  have hbrought := brought_of_waiting hready hmain
  have hunserved :
      ((AsioServer.ofGameMain p.game).start host.net host.memory).2.Unserved host.net :=
    AsioServer.Unserved.step host.net host.memory (s := .ofGameMain p.game)
      ⟨hport, rfl, nofun, fun _ => rfl⟩ hos (e := .start) rfl trivial
  rw [hbrought.server] at hunserved
  have hstart : Deserted host.net host.memory p.game (begin p) :=
    ⟨serving_begin hbrought, hunserved, rfl⟩
  exact ⟨(Machine.always_of_step _ (fun _ _ _ h hstep => (h.step hos hstep).1) hstart).mono
      fun _ h => h.site,
    Machine.along_of_step _ (fun _ _ _ h hstep => (h.step hos hstep).1)
      (fun _ _ _ h hstep => (h.step hos hstep).2) hstart⟩

/-- A client on such a host. -/
theorem nobody_connected_one :
    ∃ p, main (Host.single .loopback loginDocument) [] = .waiting p
      ∧ (Running.machine .loopback .zeroes fun n => String.ofList (List.replicate n 'x')).Always
          (fun l => l.site = { game := p.game }) (begin p) [.accepted 0]
      ∧ (Running.machine .loopback .zeroes fun n => String.ofList (List.replicate n 'x')).Along
          (fun _ e l' => ∀ serial, e = .accepted serial → l'.server.terminated = true) (begin p)
          [.accepted 0] :=
  ⟨_, rfl, @nobody_connected (Host.single .loopback loginDocument) [] _ exclusive_loopback rfl
    (by rintro _ ⟨⟩; decide) _⟩

end MultiplayerServer
