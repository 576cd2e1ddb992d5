import MultiplayerServer.Network.Serving
import MultiplayerServer.Game.GameMain

/-!
# Game/Accepting — who owns an accepted client

`handle_tcp_accept` asks the game to take a connection.  If the answer is yes it starts to read from
it and lets go of it, so somebody else had better hold it: the `NetworkComponent` of an entity that
the factory knows.  `LoginService` answers yes whether there is one or not.

* `owned_iff` — the configurations, and the states of the factory, in which a yes can be trusted.
-/

namespace MultiplayerServer

namespace World

variable {generator : ℕ → String} {w w' : World} {config : GameConfig} {data : LoginEntityConfig}
  {service : EntityRef} {connection : ConnectionRef}

/-- A registered entity holds the connection. -/
def Holds (w : World) (connection : ConnectionRef) : Prop :=
  ∃ id e component, w.getEntity id = some e ∧ w.objects.networkComponentOf e = some component
    ∧ component.connection = some connection

/-- What is held stays held. -/
theorem Holds.extends (h : w.Holds connection) (hw : w.Extends w') : w'.Holds connection :=
  h.imp fun _ => Exists.imp fun _ => Exists.imp fun _ h =>
    ⟨hw.registered h.1, hw.networkComponentOf h.2.1, h.2.2⟩

/-- **Who holds the connection** once an entity was made for it: that entity, if it was given a
`NetworkComponent` and could be registered, or whoever held it before. -/
theorem holds_onClientConnected (generator : ℕ → String) (w : World) (service : EntityRef)
    (connection : ConnectionRef) (hdata : config.loginEntityConfig = some data)
    (hclass : data.entityClassName = "ServerEntity") :
    (w.onClientConnected generator config service connection).2.Holds connection
      ↔ ("NetworkComponent" ∈ data.entityComponents ∧ w.getEntity (w.nextId generator) = none)
        ∨ w.Holds connection := by
  constructor
  · rintro ⟨id, e, component, he, hcomponent, hconnection⟩
    rw [getEntity_onClientConnected hdata hclass] at he
    rw [networkComponentOf_onClientConnected hdata hclass] at hcomponent
    by_cases hnew : id = w.nextId generator ∧ w.getEntity (w.nextId generator) = none
    · rw [if_pos hnew] at he
      obtain rfl := Option.some.inj he
      by_cases hmem : "NetworkComponent" ∈ data.entityComponents
      · exact Or.inl ⟨hmem, hnew.2⟩
      · rw [if_neg (hmem ·.2), Objects.networkComponentOf_length] at hcomponent
        cases hcomponent
    · rw [if_neg hnew] at he
      rw [if_neg fun h => Nat.ne_of_lt (getEntity_lt he) h.1] at hcomponent
      exact Or.inr ⟨id, e, component, he, hcomponent, hconnection⟩
  · rintro (⟨hmem, hfree⟩ | hheld)
    · refine ⟨w.nextId generator, w.objects.entities.length,
        Objects.clientComponent w.objects.entities.length service connection, ?_, ?_, rfl⟩
      · rw [getEntity_onClientConnected hdata hclass, if_pos ⟨rfl, hfree⟩]
      · rw [networkComponentOf_onClientConnected hdata hclass, if_pos ⟨rfl, hmem⟩]
    · exact hheld.extends (extends_onClientConnected generator w service connection config)

end World

/-- Whom `handle_tcp_accept` hands on, given the answer of the game. -/
theorem AsioServer.mem_served_handleTcpAccept {net : Net} {memory : ReceiveBuffer} {s : AsioServer}
    {peer c : AsioTcpConnection} {taken : Bool}
    (h : c ∈ (s.handleTcpAccept net memory false peer (some taken)).served) :
    c ∈ s.served ∨ c = peer.acceptPeer taken := by
  have hserved := (s.startTcpAccept_served net memory).1
  simp only [handleTcpAccept, Bool.false_eq_true, if_false] at h
  generalize s.startTcpAccept net memory = result at h hserved
  obtain ⟨_ | _, s₁⟩ := result
  · exact Or.inl (hserved ▸ h)
  · rw [← hserved]
    rcases hcb : s₁.onConnectionAcceptedCallback
    · simp only [hcb, Bool.false_eq_true, if_false] at h
      exact Or.inl h
    · simpa [hcb, served, List.filterMap_append] using h

namespace GameMain

variable (generator : ℕ → String) (g : GameMain) (connection : ConnectionRef)
  (peer : AsioTcpConnection)

/-- The `LoginService` that `on_client_connected` finds. -/
def loginService : Option EntityRef := (g.getGameService "LoginService").bind g.asLoginService

/-- The answer of the game. -/
def taken : Bool := (g.onClientConnected generator connection).1

/-- …and its world, once it was given. -/
def worldAfter : World := (g.onClientConnected generator connection).2.world

/-- **An accepted client is owned**: a yes is given for a connection that is held, and no server
starts to read from one that is not. -/
structure Owned : Prop where
  taken : g.taken generator connection = true → (g.worldAfter generator connection).Holds connection
  refused : ¬ (g.worldAfter generator connection).Holds connection →
    g.taken generator connection = false
      ∧ ∀ (net : Net) (memory : ReceiveBuffer) (s : AsioServer) (c : AsioTcpConnection),
        c ∈ (s.handleTcpAccept net memory false peer
            (some (g.taken generator connection))).served →
          c ∈ s.served ∨ c.reads = peer.reads

/-- There is nobody to say yes; or the client is given an entity with a `NetworkComponent`, under an
id that is free; or it is held already. -/
def Ownable : Prop :=
  ∀ service data, g.loginService = some service → g.gameConfig.loginEntityConfig = some data →
    (data.entityClassName = "ServerEntity" ∧ "NetworkComponent" ∈ data.entityComponents
      ∧ g.world.getEntity (g.world.nextId generator) = none)
    ∨ g.world.Holds connection

variable {generator g connection peer}

/-- Only a yes has to be looked at. -/
theorem owned_iff_taken : g.Owned generator connection peer
    ↔ (g.taken generator connection = true →
      (g.worldAfter generator connection).Holds connection) := by
  refine ⟨Owned.taken, fun h => ⟨h, fun hheld => ?_⟩⟩
  have hno : g.taken generator connection = false :=
    Bool.eq_false_iff.mpr fun hyes => hheld (h hyes)
  refine ⟨hno, fun net memory s c hc => ?_⟩
  rw [hno] at hc
  rcases AsioServer.mem_served_handleTcpAccept hc with hold | rfl
  · exact Or.inl hold
  · exact Or.inr rfl

end GameMain

open GameMain

/-- **A yes can be trusted exactly when the client is ownable**, for every configuration and in
every state of the game. -/
theorem owned_iff (generator : ℕ → String) (g : GameMain) (connection : ConnectionRef)
    (peer : AsioTcpConnection) :
    g.Owned generator connection peer ↔ g.Ownable generator connection := by
  rw [owned_iff_taken, taken, worldAfter, Ownable, onClientConnected, ← loginService]
  rcases g.loginService with _ | service
  · simp
  rcases hdata : g.gameConfig.loginEntityConfig with _ | data
  · simp [World.onClientConnected, hdata]
  by_cases hclass : data.entityClassName = "ServerEntity"
  · have hholds := g.world.holds_onClientConnected generator service connection hdata hclass
    have hyes : (g.world.onClientConnected generator g.gameConfig service connection).1 = true := by
      rw [World.onClientConnected_eq hdata hclass]
    simp [hyes, hholds, hclass]
  · simp [World.onClientConnected, hdata, hclass]

/-- A client without a `NetworkComponent` is read from, and nobody holds it. -/
theorem not_owned_of_componentless :
    ¬ (initAllGameServices (fun n => String.ofList (List.replicate n 'x'))
        (construct ⟨(((∅ : Std.ExtTreeMap String ConfigValue).insert GameConfig.serverConfigStr
            (.server ⟨"127.0.0.1", 8080, 2⟩)).insert GameConfig.loginConfigStr
            (.login ⟨"ServerEntity", "kPlayerEntity", []⟩)).insert GameConfig.servicesConfigStr
            (.services [⟨"LoginService", []⟩])⟩
          (World.construct fun n => String.ofList (List.replicate n 'x')))).2.Owned
      (fun n => String.ofList (List.replicate n 'x')) 0
      (.construct .loopback .zeroes "127.0.0.1" 8080) := by
  intro h
  obtain ⟨id, e, component, -, hcomponent, -⟩ := h.taken (by decide)
  obtain ⟨c, -, hc⟩ := Option.bind_eq_some_iff.mp hcomponent
  revert hc
  exact nofun

end MultiplayerServer
