import MultiplayerServer.Game.Accepting

/-!
# Game/Disconnecting — who is told when a client goes

`on_client_connected` registers a handler with the `NetworkComponent` that holds the connection, and
`handle_disconnect` calls it.  What calls `handle_disconnect` would be the disconnected callback of
the connection: it is there to be set, and nothing in the source sets it.

    close() ──▸ disconnected_callback_ ╌╌?╌╌▸ handle_disconnect ──▸ on_client_disconnected(id)

A `Site` is the game with the connections it was given.  Its runs let the callback be set by
somebody else, to show that this link is all that is missing.

* `notifies_iff` — the handlers are called as they should in exactly the runs in which somebody sets
  that callback before a client goes;
* `notified_eq_nil` — in a run in which nobody does, no handler is ever called.
-/

namespace MultiplayerServer

open Machinery

/-- A function in `disconnected_callback_`. -/
inductive DisconnectedCallback
  /-- A function that is not of the game. -/
  | other
  /-- `NetworkComponent::handle_disconnect` of `c`. -/
  | handleDisconnect (c : ComponentRef)
  deriving DecidableEq

/-- An accepted connection, and the function that is called when its `disconnected_callback_` is. -/
structure Peer where
  connection : AsioTcpConnection
  callback : DisconnectedCallback := .other
  deriving DecidableEq

/-- The game, the connections it was given and the calls of disconnect handlers, each with the id
passed. -/
structure Site where
  game : GameMain
  peers : List Peer := []
  notified : List (DisconnectHandler × String) := []

/-- An event at a site. -/
inductive SiteEvent
  | initAllGameServices
  /-- A client is accepted, and passed to `GameMain::on_client_connected`. -/
  | accept
  /-- Something happens to a connection. -/
  | connection (r : ConnectionRef) (e : Event)
  /-- Somebody passes `handle_disconnect` of `c` to `set_disconnected_callback`. -/
  | wire (r : ConnectionRef) (c : ComponentRef)
  deriving DecidableEq

namespace World

variable (w : World)

/-- An entity that clients are served by lives for as long as it is registered. -/
def alive (e : EntityRef) : Bool :=
  w.objects.entities[e]?.any fun entity => w.getEntity entity.id = some e

theorem alive_iff {w : World} {e : EntityRef} : w.alive e = true ↔
    ∃ entity, w.objects.entities[e]? = some entity ∧ w.getEntity entity.id = some e := by
  rw [alive]
  cases w.objects.entities[e]? <;> simp

/-- `handle_disconnect`: there is nothing to do once the owner is gone. -/
def handleDisconnect (c : ComponentRef) : List (DisconnectHandler × String) :=
  if (w.objects.getOwner c).any w.alive then w.objects.handleDisconnect c else []

/-- A call of a `disconnected_callback_`. -/
def runCallback : DisconnectedCallback → List (DisconnectHandler × String)
  | .other => []
  | .handleDisconnect c => w.handleDisconnect c

/-- What a connection does reaches the game through its callback. -/
def react (callback : DisconnectedCallback) : Effect → List (DisconnectHandler × String)
  | .disconnected => w.runCallback callback
  | _ => []

/-- The entity registered under `id` holds the connection, in its `NetworkComponent` `c`. -/
structure Attached (r : ConnectionRef) (id : String) (e : EntityRef) (c : ComponentRef)
    (component : Component) : Prop where
  registered : w.getEntity id = some e
  stored : w.objects.getComponent e networkComponent = some c
  found : w.objects.components[c]? = some component
  holds : component.connection = some r

end World

/-- A new function is set with the callback. -/
def Peer.callbackAfter (p : Peer) : Event → DisconnectedCallback
  | .call (.setDisconnectedCallback _) => .other
  | _ => p.callback

theorem Peer.callbackAfter_eq {p : Peer} (h : p.callback = .other) (e : Event) :
    p.callbackAfter e = .other := by
  unfold callbackAfter
  split
  · rfl
  · exact h

namespace Site

variable (net : Net) (memory : ReceiveBuffer) (generator : ℕ → String) (s : Site)

/-- A client is accepted on a new connection; it is read from if the game has taken it. -/
def accept : Site :=
  let connection := AsioTcpConnection.construct net memory s.game.ip s.game.port
  let (taken, game) := s.game.onClientConnected generator s.peers.length
  { s with game := game, peers := s.peers ++ [{ connection := connection.acceptPeer taken }] }

/-- Something happens to a connection, and its callback is run for every `disconnected` that
makes. -/
def onConnection (r : ConnectionRef) (e : Event) : Option Site :=
  match s.peers[r]? with
  | none => none
  | some p =>
    match AsioTcpConnection.machine.step p.connection e with
    | none => none
    | some connection =>
      some { s with
        peers := s.peers.set r { connection := connection, callback := p.callbackAfter e }
        notified := s.notified ++ (connection.history.drop p.connection.history.length).flatMap
          (s.game.world.react p.callback) }

/-- `handle_disconnect` of a component there is becomes the callback of a connection. -/
def wire (r : ConnectionRef) (c : ComponentRef) : Option Site :=
  match s.peers[r]? with
  | none => none
  | some p =>
    if p.connection.alive ∧ c < s.game.world.objects.components.length then
      some { s with
        peers := s.peers.set r
          { connection := p.connection.call (.setDisconnectedCallback true)
            callback := .handleDisconnect c } }
    else none

/-- One event. -/
def step (s : Site) : SiteEvent → Option Site
  | .initAllGameServices => some { s with game := (s.game.initAllGameServices generator).2 }
  | .accept => some (s.accept net memory generator)
  | .connection r e => s.onConnection r e
  | .wire r c => s.wire r c

/-- The runs of a site. -/
def machine : Machine Site SiteEvent := ⟨step net memory generator⟩

/-- A process that has just been started. -/
def start (gameConfig : GameConfig) : Site where
  game := .construct gameConfig (.construct generator)

end Site

/-- The events in which a connection is closed. -/
def Event.Closing : Event → Prop
  | .call .close => True
  | .call .destroy => True
  | .completion (.receiveError _) => True
  | _ => False

namespace AsioTcpConnection

variable {c c' : AsioTcpConnection} {e : Event}

/-- **What goes to `kClosed`** is closed by its owner, or by a read error. -/
theorem goesClosed_iff (h : machine.step c e = some c') (hopen : c.status ≠ .kClosed) :
    c'.status = .kClosed ↔ e.Closing := by
  cases e with
  | call f =>
    obtain rfl := step_call h
    cases f with
    | connect outcome =>
      simp only [call, connect, requestConnect_frame, Event.Closing, iff_false]
      split
      · simpa using hopen
      · cases outcome with
        | unresolved => simpa using hopen
        | refused => simpa using hopen
        | granted =>
          rcases hsocket : c.socket.connect true with ⟨_ | _, socket⟩
          · simpa [hsocket] using hopen
          · simp
    | asyncConnect resolved =>
      simp only [call, asyncConnect, requestConnect_frame, Event.Closing, iff_false]
      split
      · simpa using hopen
      · split
        · simp
        · simpa using hopen
    | asyncSend data => simpa [call, Event.Closing] using hopen
    | close => simp [call, Event.Closing]
    | destroy => simp [call, Event.Closing]
    | _ => simpa [call, Event.Closing] using hopen
  | completion d =>
    rw [(completed (step_completion h)).status]
    cases d with
    | connect op error => cases error <;> simp [Event.Closing]
    | receiveError op => simp [Event.Closing]
    | _ => simpa [Event.Closing] using hopen
  | accept taken =>
    obtain ⟨-, rfl⟩ := step_accept h
    simpa [Event.Closing] using hopen

/-- …and says so if somebody listens. -/
theorem closing_history (h : machine.step c e = some c') (hopen : c.status ≠ .kClosed)
    (he : e.Closing) :
    c'.history = c.history ++ if c.disconnectedCallback then [.disconnected] else [] := by
  cases e with
  | call f =>
    obtain rfl := step_call h
    rw [call_history]
    cases f with
    | close => simp [effectsOfCall, hopen]
    | destroy => simp [effectsOfCall, hopen]
    | _ => exact he.elim
  | completion d =>
    rw [(completed (step_completion h)).history]
    cases d with
    | receiveError op => simp [effectsOf, hopen]
    | _ => exact he.elim
  | accept taken => exact he.elim

end AsioTcpConnection

namespace Site

/-- A connection goes to `kClosed`. -/
def Closes (s s' : Site) (r : ConnectionRef) : Prop :=
  ∃ p p', s.peers[r]? = some p ∧ s'.peers[r]? = some p'
    ∧ p.connection.status ≠ .kClosed ∧ p'.connection.status = .kClosed

/-- **The notification**: when a connection goes to `kClosed`, every handler of the component that
holds it is called once, with the id of its entity, and nothing else is. -/
def Notifies (s : Site) (_ : SiteEvent) (s' : Site) : Prop :=
  ∀ r id e c component, s.Closes s' r → s.game.world.Attached r id e c component →
    ∃ calls, s'.notified = s.notified ++ calls
      ∧ calls.Perm (component.disconnectHandlers.toList.map fun handler => (handler.2, id))

/-- A connection that is held is closed only once its callback is `handle_disconnect` of the
component that holds it. -/
def Wired (s : Site) (event : SiteEvent) (_ : Site) : Prop :=
  ∀ r e' p id e c component, event = .connection r e' → e'.Closing → s.peers[r]? = some p →
    p.connection.status ≠ .kClosed → s.game.world.Attached r id e c component →
      p.connection.disconnectedCallback = true ∧ p.callback = .handleDisconnect c

variable {net : Net} {memory : ReceiveBuffer} {generator : ℕ → String} {s s' : Site}
  {event : SiteEvent} {r : ConnectionRef}

theorem onConnection_eq {e : Event} (h : s.onConnection r e = some s') :
    ∃ p connection, s.peers[r]? = some p
      ∧ AsioTcpConnection.machine.step p.connection e = some connection
      ∧ s' = { s with
        peers := s.peers.set r { connection := connection, callback := p.callbackAfter e }
        notified := s.notified ++ (connection.history.drop p.connection.history.length).flatMap
          (s.game.world.react p.callback) } := by
  rw [onConnection] at h
  split at h
  · cases h
  · split at h
    · cases h
    · exact ⟨_, _, ‹_›, ‹_›, (Option.some.inj h).symm⟩

theorem wire_eq {c : ComponentRef} (h : s.wire r c = some s') :
    ∃ p, s.peers[r]? = some p ∧ c < s.game.world.objects.components.length
      ∧ s' = { s with
        peers := s.peers.set r
          { connection := p.connection.call (.setDisconnectedCallback true)
            callback := .handleDisconnect c } } := by
  rw [wire] at h
  split at h
  · cases h
  · obtain ⟨⟨-, hc⟩, h⟩ := Option.ite_none_right_eq_some.mp h
    exact ⟨_, ‹_›, hc, (Option.some.inj h).symm⟩

/-- A connection changes its status by what happens to it. -/
theorem peers_step {p p' : Peer} (h : (machine net memory generator).step s event = some s')
    (hp : s.peers[r]? = some p) (hp' : s'.peers[r]? = some p') :
    p'.connection.status = p.connection.status
      ∨ ∃ e, event = .connection r e
        ∧ AsioTcpConnection.machine.step p.connection e = some p'.connection := by
  have hlt := (List.getElem?_eq_some_iff.mp hp).1
  cases event with
  | initAllGameServices =>
    obtain rfl := Option.some.inj h
    rw [← Option.some.inj (hp.symm.trans hp')]
    exact Or.inl rfl
  | accept =>
    obtain rfl := Option.some.inj h
    rw [accept, List.getElem?_append_left hlt] at hp'
    rw [← Option.some.inj (hp.symm.trans hp')]
    exact Or.inl rfl
  | connection r₀ e =>
    obtain ⟨p₀, connection, hp₀, hstep, rfl⟩ := onConnection_eq h
    by_cases hr : r₀ = r
    · subst hr
      obtain rfl := Option.some.inj (hp.symm.trans hp₀)
      rw [List.getElem?_set_self hlt] at hp'
      exact Or.inr ⟨e, rfl, Option.some.inj hp' ▸ hstep⟩
    · rw [List.getElem?_set_ne hr] at hp'
      rw [← Option.some.inj (hp.symm.trans hp')]
      exact Or.inl rfl
  | wire r₀ c =>
    obtain ⟨p₀, hp₀, -, rfl⟩ := wire_eq h
    by_cases hr : r₀ = r
    · subst hr
      obtain rfl := Option.some.inj (hp.symm.trans hp₀)
      rw [List.getElem?_set_self hlt] at hp'
      rw [← Option.some.inj hp']
      exact Or.inl rfl
    · rw [List.getElem?_set_ne hr] at hp'
      rw [← Option.some.inj (hp.symm.trans hp')]
      exact Or.inl rfl

/-- **A connection goes to `kClosed` in the events that close it.** -/
theorem closes_iff (h : (machine net memory generator).step s event = some s') :
    s.Closes s' r ↔ ∃ e p, event = .connection r e ∧ e.Closing ∧ s.peers[r]? = some p
      ∧ p.connection.status ≠ .kClosed := by
  constructor
  · rintro ⟨p, p', hp, hp', hopen, hclosed⟩
    rcases peers_step h hp hp' with hsame | ⟨e, rfl, hstep⟩
    · exact absurd (hsame ▸ hclosed) hopen
    · exact ⟨e, p, rfl, (AsioTcpConnection.goesClosed_iff hstep hopen).mp hclosed, hp, hopen⟩
  · rintro ⟨e, p, rfl, he, hp, hopen⟩
    obtain ⟨p₀, connection, hp₀, hstep, rfl⟩ := onConnection_eq h
    obtain rfl := Option.some.inj (hp.symm.trans hp₀)
    refine ⟨p, _, hp, List.getElem?_set_self (List.getElem?_eq_some_iff.mp hp).1, hopen, ?_⟩
    exact (AsioTcpConnection.goesClosed_iff hstep hopen).mpr he

/-- …and then its callback is run. -/
theorem notified_of_closing {e : Event} {p : Peer}
    (h : (machine net memory generator).step s (.connection r e) = some s') (he : e.Closing)
    (hp : s.peers[r]? = some p) (hopen : p.connection.status ≠ .kClosed) :
    s'.notified = s.notified ++ if p.connection.disconnectedCallback
      then s.game.world.runCallback p.callback else [] := by
  obtain ⟨p₀, connection, hp₀, hstep, rfl⟩ := onConnection_eq h
  obtain rfl := Option.some.inj (hp.symm.trans hp₀)
  rw [AsioTcpConnection.closing_history hstep hopen he, List.drop_left]
  split <;> simp [World.react]

end Site

/-! ## Whose components there are -/

namespace World

/-- All components are those of clients, each of its own; what is registered is registered under its
id. -/
structure ClientsOnly (w : World) : Prop where
  client : ∀ {e : EntityRef} {component : Component},
    w.objects.networkComponentOf e = some component →
      ∃ service r, component = Objects.clientComponent e service r
  owned : ∀ {c : ComponentRef} {component : Component}, w.objects.components[c]? = some component →
    ∃ e, component.owner = some e ∧ w.objects.getComponent e networkComponent = some c
  named : ∀ {id : String} {e : EntityRef}, w.getEntity id = some e →
    ∃ entity, w.objects.entities[e]? = some entity ∧ entity.id = id

variable {generator : ℕ → String} {w : World} {r : ConnectionRef} {id : String} {e : EntityRef}
  {c c' : ComponentRef} {component : Component}

theorem Attached.networkComponentOf (h : w.Attached r id e c component) :
    w.objects.networkComponentOf e = some component := by
  rw [Objects.networkComponentOf, h.stored, Option.bind_some, h.found]

theorem clientsOnly_construct : (construct generator).ClientsOnly where
  client h := by simp [construct, Objects.empty, Objects.networkComponentOf,
    Objects.getComponent] at h
  owned h := by simp [construct, Objects.empty] at h
  named h := by simp [construct, getEntity] at h

theorem ClientsOnly.createEntity (h : w.ClientsOnly) (args : EntityArgs) :
    (w.createEntity generator args).2.ClientsOnly where
  client {e component} he := h.client (by
    rwa [createEntity_eq, createEntityWithId, Objects.networkComponentOf_makeEntity] at he)
  owned {c component} hc := by
    obtain ⟨e, howner, hstored⟩ := h.owned (c := c) hc
    refine ⟨e, howner, ?_⟩
    rw [createEntity_eq, createEntityWithId, Objects.getComponent_makeEntity]
    exact hstored
  named {id e} he := by
    rw [createEntity_eq, getEntity_createEntityWithId] at he
    rw [createEntity_eq, entities_createEntityWithId]
    split at he
    · rename_i hnew
      obtain rfl := Option.some.inj he
      exact ⟨_, List.getElem?_concat_length, (Entity.make_id _ _).trans hnew.1.symm⟩
    · obtain ⟨entity, hentity, hid⟩ := h.named he
      refine ⟨entity, ?_, hid⟩
      rw [← hentity]
      exact List.getElem?_append_left (getEntity_lt he)

/-- What a client's component points back to holds it. -/
theorem ClientsOnly.owned_onClientConnected (h : w.ClientsOnly) {config : GameConfig}
    {data : LoginEntityConfig} (hdata : config.loginEntityConfig = some data)
    (hclass : data.entityClassName = "ServerEntity") (service : EntityRef)
    (connection : ConnectionRef)
    (hc : (w.onClientConnected generator config service connection).2.objects.components[c]?
      = some component) :
    ∃ e, component.owner = some e
      ∧ (w.onClientConnected generator config service connection).2.objects.getComponent e
        networkComponent = some c := by
  obtain ⟨hcomponents, hget⟩ :=
    components_onClientConnected generator w service connection hdata hclass
  rw [hcomponents] at hc
  rcases Nat.lt_or_ge c w.objects.components.length with hlt | hge
  · rw [List.getElem?_append_left hlt] at hc
    obtain ⟨e, howner, hstored⟩ := h.owned hc
    refine ⟨e, howner, ?_⟩
    rw [hget, if_neg, hstored]
    rintro ⟨rfl, -⟩
    simp [Objects.getComponent] at hstored
  · rw [List.getElem?_append_right hge] at hc
    by_cases hmem : "NetworkComponent" ∈ data.entityComponents
    · rw [if_pos hmem, List.getElem?_singleton] at hc
      obtain ⟨hc, hcomponent⟩ := Option.ite_none_right_eq_some.mp hc
      obtain rfl := Option.some.inj hcomponent
      refine ⟨w.objects.entities.length, rfl, ?_⟩
      rw [hget, if_pos ⟨rfl, hmem⟩]
      exact congrArg some (by omega)
    · simp [hmem] at hc

theorem ClientsOnly.onClientConnected (h : w.ClientsOnly) (config : GameConfig)
    (service : EntityRef) (connection : ConnectionRef) :
    (w.onClientConnected generator config service connection).2.ClientsOnly := by
  rcases hdata : config.loginEntityConfig with _ | data
  · simpa only [World.onClientConnected, hdata] using h
  by_cases hclass : data.entityClassName = "ServerEntity"
  · obtain ⟨entity, hid, hentities⟩ :=
      entities_onClientConnected generator w service connection hdata hclass
    refine ⟨fun {e component} he => ?_,
      fun hc => h.owned_onClientConnected hdata hclass service connection hc,
      fun {id e} he => ?_⟩
    · rw [networkComponentOf_onClientConnected hdata hclass] at he
      split at he
      · rename_i hnew
        exact ⟨service, connection, by rw [hnew.1, ← Option.some.inj he]⟩
      · exact h.client he
    · rw [getEntity_onClientConnected hdata hclass] at he
      rw [hentities]
      split at he
      · rename_i hnew
        obtain rfl := Option.some.inj he
        exact ⟨entity, List.getElem?_concat_length, hid.trans hnew.1.symm⟩
      · obtain ⟨old, hold, hname⟩ := h.named he
        exact ⟨old, (List.getElem?_append_left (getEntity_lt he)).trans hold, hname⟩
  · simpa only [World.onClientConnected, hdata, if_neg hclass] using h

/-- **The component that holds a connection notifies as it should**, if it is asked to. -/
theorem ClientsOnly.handleDisconnect_eq (h : w.ClientsOnly) (ha : w.Attached r id e c component) :
    w.handleDisconnect c
      = component.disconnectHandlers.toList.map fun handler => (handler.2, id) := by
  obtain ⟨entity, hentity, rfl⟩ := h.named ha.registered
  obtain ⟨service, r', hclient⟩ := h.client ha.networkComponentOf
  have howner : w.objects.getOwner c = some e := by
    rw [Objects.getOwner, ha.found, hclient]
    rfl
  rw [handleDisconnect, howner, if_pos, Objects.handleDisconnect, howner]
  · simp [hentity, ha.found]
  · simp [alive, hentity, ha.registered]

/-- There is somebody to notify. -/
theorem ClientsOnly.exists_call (h : w.ClientsOnly) (ha : w.Attached r id e c component) :
    ∃ handler, (handler, id)
      ∈ component.disconnectHandlers.toList.map fun handler => (handler.2, id) := by
  obtain ⟨service, r', rfl⟩ := h.client ha.networkComponentOf
  refine ⟨.onClientDisconnected service, List.mem_map.mpr ⟨("LoginService", _), ?_, rfl⟩⟩
  exact Std.ExtTreeMap.mem_toList_iff_getElem?_eq_some.mpr Std.ExtTreeMap.getElem?_insert_self

/-- …and no other component does. -/
theorem ClientsOnly.eq_of_handleDisconnect (h : w.ClientsOnly) (ha : w.Attached r id e c component)
    (hcalls : (w.handleDisconnect c').Perm
      (component.disconnectHandlers.toList.map fun handler => (handler.2, id))) : c' = c := by
  obtain ⟨handler, hhandler⟩ := h.exists_call ha
  -- a handler is called with `id`, so the owner is the entity registered under it
  have hcall : (handler, id) ∈ w.handleDisconnect c' := hcalls.symm.subset hhandler
  rw [handleDisconnect] at hcall
  split at hcall
  · rename_i halive
    rcases howner : w.objects.getOwner c' with _ | e'
    · simp [howner] at halive
    obtain ⟨entity, hentity, hregistered⟩ := alive_iff.mp (by simpa [howner] using halive)
    obtain ⟨component', hcomponent, howner'⟩ := Option.bind_eq_some_iff.mp howner
    obtain ⟨e'', howner'', hstored⟩ := h.owned hcomponent
    obtain rfl : e' = e'' := Option.some.inj (howner'.symm.trans howner'')
    have hid : id = entity.id := by
      rw [Objects.handleDisconnect, howner, Option.bind_some, hentity, hcomponent] at hcall
      obtain ⟨call, -, hpair⟩ := List.mem_map.mp hcall
      exact (congrArg Prod.snd hpair).symm
    obtain rfl : e = e' := Option.some.inj (ha.registered.symm.trans (hid ▸ hregistered))
    exact Option.some.inj (hstored.symm.trans ha.stored)
  · cases hcall

end World

namespace Site

variable {net : Net} {memory : ReceiveBuffer} {generator : ℕ → String} {s s' : Site}
  {event : SiteEvent}

theorem clientsOnly_step (h : s.game.world.ClientsOnly)
    (hstep : (machine net memory generator).step s event = some s') :
    s'.game.world.ClientsOnly := by
  cases event with
  | initAllGameServices =>
    obtain rfl := Option.some.inj hstep
    exact GameMain.initAllGameServices_world (fun _ _ hw => hw.createEntity _) h
  | accept =>
    obtain rfl := Option.some.inj hstep
    simp only [accept, GameMain.onClientConnected]
    split
    · exact h.onClientConnected _ _ _
    · exact h
  | connection r e =>
    obtain ⟨p, connection, -, -, rfl⟩ := onConnection_eq hstep
    exact h
  | wire r c =>
    obtain ⟨p, -, -, rfl⟩ := wire_eq hstep
    exact h

/-- **One event notifies as it should exactly when the callback was wired.** -/
theorem notifies_iff_wired (h : s.game.world.ClientsOnly)
    (hstep : (machine net memory generator).step s event = some s') :
    Notifies s event s' ↔ Wired s event s' := by
  constructor
  · intro hnotifies r e' p id e c component hevent he' hp hopen ha
    subst hevent
    obtain ⟨calls, hcalls, hperm⟩ := hnotifies r id e c component
      ((closes_iff hstep).mpr ⟨e', p, rfl, he', hp, hopen⟩) ha
    rw [notified_of_closing hstep he' hp hopen, List.append_cancel_left_eq] at hcalls
    subst hcalls
    have hsome : ¬ List.Perm [] (component.disconnectHandlers.toList.map
        fun handler => (handler.2, id)) := by
      obtain ⟨handler, hhandler⟩ := h.exists_call ha
      exact fun hnil => by simpa using hnil.symm.subset hhandler
    by_cases hset : p.connection.disconnectedCallback = true
    · refine ⟨hset, ?_⟩
      rw [if_pos hset] at hperm
      rcases hcallback : p.callback with _ | c'
      · rw [hcallback] at hperm
        exact absurd hperm hsome
      · rw [hcallback] at hperm
        rw [h.eq_of_handleDisconnect ha hperm]
    · rw [if_neg hset] at hperm
      exact absurd hperm hsome
  · intro hwired r id e c component hcloses ha
    obtain ⟨e', p, rfl, he', hp, hopen⟩ := (closes_iff hstep).mp hcloses
    obtain ⟨hset, hcallback⟩ := hwired r e' p id e c component rfl he' hp hopen ha
    refine ⟨_, notified_of_closing hstep he' hp hopen, ?_⟩
    rw [if_pos hset, hcallback, World.runCallback, h.handleDisconnect_eq ha]

/-! ## Left to itself -/

/-- Nobody sets a callback for the game. -/
def Unwired : SiteEvent → Prop
  | .wire _ _ => False
  | _ => True

/-- No handler has been called, and no connection would call one. -/
structure Silent (s : Site) : Prop where
  notified : s.notified = []
  callback : ∀ p ∈ s.peers, p.callback = .other

theorem Silent.step (h : s.Silent) (hstep : (machine net memory generator).step s event = some s')
    (hevent : Unwired event) : s'.Silent := by
  cases event with
  | initAllGameServices =>
    obtain rfl := Option.some.inj hstep
    exact ⟨h.notified, h.callback⟩
  | accept =>
    obtain rfl := Option.some.inj hstep
    refine ⟨h.notified, fun p hp => ?_⟩
    rcases List.mem_append.mp hp with hp | hp
    · exact h.callback p hp
    · obtain rfl := List.mem_singleton.mp hp
      rfl
  | connection r e =>
    obtain ⟨p, connection, hp, -, rfl⟩ := onConnection_eq hstep
    have hother : p.callback = .other := h.callback p (List.mem_of_getElem? hp)
    refine ⟨?_, fun q hq => ?_⟩
    · rw [h.notified, List.nil_append, List.flatMap_eq_nil_iff, hother]
      exact fun effect _ => by cases effect <;> rfl
    · rcases List.mem_or_eq_of_mem_set hq with hq | rfl
      · exact h.callback q hq
      · exact Peer.callbackAfter_eq hother e
  | wire r c => exact hevent.elim

end Site

open Site

/-- **Left to itself, a site calls no handler**, whatever happens to its connections. -/
theorem notified_eq_nil (net : Net) (memory : ReceiveBuffer) (generator : ℕ → String)
    (gameConfig : GameConfig) (es : List SiteEvent)
    (hes : (Site.machine net memory generator).Along (fun _ event _ => Unwired event)
      (start generator gameConfig) es) :
    (Site.machine net memory generator).Always (fun s => s.notified = [])
      (start generator gameConfig) es :=
  (Machine.always_of_along Silent (fun _ _ _ => Silent.step) ⟨rfl, by simp [start]⟩ hes).mono
    fun _ h => h.notified

/-- **The handlers are called once, with the id of the entity, in exactly the runs in which somebody
wires a client's connection to its component before it is closed.** -/
theorem notifies_iff (net : Net) (memory : ReceiveBuffer) (generator : ℕ → String)
    (gameConfig : GameConfig) (es : List SiteEvent) :
    (Site.machine net memory generator).Along Notifies (start generator gameConfig) es
      ↔ (Site.machine net memory generator).Along Wired (start generator gameConfig) es := by
  refine Machine.along_congr (fun s => s.game.world.ClientsOnly)
    (fun _ _ _ => clientsOnly_step) (fun _ _ _ => notifies_iff_wired) ?_
  rw [start, (GameMain.construct_new _ _).1]
  exact World.clientsOnly_construct

/-- A client with a `NetworkComponent` whose connection is closed. -/
theorem not_notifies_of_close :
    ¬ (Site.machine .loopback .zeroes fun n => String.ofList (List.replicate n 'x')).Along Notifies
      (start (fun n => String.ofList (List.replicate n 'x'))
        ⟨(((∅ : Std.ExtTreeMap String ConfigValue).insert GameConfig.serverConfigStr
          (.server ⟨"127.0.0.1", 8080, 2⟩)).insert GameConfig.loginConfigStr
          (.login ⟨"ServerEntity", "kPlayerEntity", ["NetworkComponent"]⟩)).insert
          GameConfig.servicesConfigStr (.services [⟨"LoginService", []⟩])⟩)
      [.initAllGameServices, .accept, .connection 0 (.call .close)] := by
  intro h
  have hclose := (((h _ rfl).2 _ rfl).2 _ rfl).1
  obtain ⟨calls, hcalls, hperm⟩ := hclose 0 "xx" 1 0 (Objects.clientComponent 1 0 0)
    ⟨_, _, rfl, rfl, by decide, by decide⟩ ⟨by decide, by decide, by decide, rfl⟩
  have hnil : [] = calls := hcalls
  exact absurd (hnil ▸ hperm).length_eq (by decide)

end MultiplayerServer
