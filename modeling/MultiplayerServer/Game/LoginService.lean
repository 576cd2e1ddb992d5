import MultiplayerServer.Config.GameConfig
import MultiplayerServer.Game.EntityFactory

/-!
# Game/LoginService — an entity for every client

`LoginService::on_client_connected` makes an entity of the configured class, gives it the configured
components and hands the connection to its `NetworkComponent`, if that is among them.

* `onClientConnected_extends` — whatever the configuration, nothing that was there before changes.
-/

namespace MultiplayerServer

/-! ## Components of a new entity -/

/-- A change of what was added last. -/
theorem modify_concat {α : Type*} (l : List α) (a : α) (f : α → α) :
    (l ++ [a]).modify l.length f = l ++ [f a] := by
  induction l with
  | nil => rfl
  | cons b l ih => exact congrArg (b :: ·) ih

namespace Objects

variable {o : Objects} {e : EntityRef} {T : TypeName}

/-- The part of `on_client_connected` that follows the creation of the entity. -/
def serveClient (o : Objects) (e service : EntityRef) (names : List String)
    (connection : ConnectionRef) : Objects :=
  let o := if names.length > 0 then o.initComponents e names else o
  match o.getComponent e networkComponent with
  | some c =>
    ((o.setConnection c (some connection)).registerDisconnectHandler c "LoginService"
      (.onClientDisconnected service)).2
  | none => o

theorem addComponent_of_stored {c : ComponentRef} (h : o.getComponent e T = some c) :
    o.addComponent e T = (c, o) := by
  rw [addComponent, h]

theorem addComponent_of_free (h : o.getComponent e T = none) :
    o.addComponent e T = (o.components.length,
      (o.makeComponent { typeName := T, owner := some e }).emplace e T o.components.length
        (lt_makeComponent _)) := by
  rw [addComponent, h]

/-- What was added is there. -/
theorem getComponent_addComponent (he : e < o.entities.length) :
    (o.addComponent e T).2.getComponent e T = some (o.addComponent e T).1 := by
  cases h : o.getComponent e T with
  | some c => rw [addComponent_of_stored h, h]
  | none =>
    rw [addComponent_of_free h]
    have hfree : (o.makeComponent { typeName := T, owner := some e }).getComponent e T = none := h
    rw [getComponent_emplace _ (by simpa using he) hfree, if_pos ⟨rfl, rfl⟩]

/-- **`init_components` adds one component or none**, however often it is named. -/
theorem initComponents_eq (he : e < o.entities.length) (names : List String) :
    o.initComponents e names
      = if "NetworkComponent" ∈ names then (o.addComponent e networkComponent).2 else o := by
  rw [initComponents]
  induction names generalizing o with
  | nil => rfl
  | cons name names ih =>
    rw [List.foldl_cons]
    by_cases hname : name = "NetworkComponent"
    · have hlen : e < (o.addComponent e networkComponent).2.entities.length := by
        rw [addComponent]
        split <;> simpa using he
      rw [if_pos hname, ih hlen, addComponent_of_stored (getComponent_addComponent he), ite_self,
        if_pos (by simp [hname])]
    · rw [if_neg hname, ih he]
      simp [Ne.symm hname]

/-- The `NetworkComponent` of a client's entity. -/
def clientComponent (e service : EntityRef) (connection : ConnectionRef) : Component where
  typeName := networkComponent
  owner := some e
  connection := some connection
  disconnectHandlers :=
    (∅ : Std.ExtTreeMap String DisconnectHandler).insert "LoginService"
      (.onClientDisconnected service)

/-- The `NetworkComponent` an entity has, as it is. -/
def networkComponentOf (o : Objects) (e : EntityRef) : Option Component :=
  (o.getComponent e networkComponent).bind fun c => o.components[c]?

@[simp] theorem networkComponentOf_length : o.networkComponentOf o.entities.length = none := by
  rw [networkComponentOf, getComponent, List.getElem?_eq_none (Nat.le_refl _)]
  rfl

@[simp] theorem networkComponentOf_makeEntity (entity : Entity) :
    (o.makeEntity entity).networkComponentOf e = o.networkComponentOf e := by
  rw [networkComponentOf, getComponent_makeEntity, networkComponentOf]
  rfl

variable {names : List String} (service : EntityRef) (connection : ConnectionRef)

/-- A client without a `NetworkComponent` is not served at all. -/
theorem serveClient_of_not_mem (he : e < o.entities.length)
    (hfree : o.getComponent e networkComponent = none) (hmem : "NetworkComponent" ∉ names) :
    o.serveClient e service names connection = o := by
  have hinit : (if names.length > 0 then o.initComponents e names else o) = o := by
    rw [initComponents_eq he, if_neg hmem, ite_self]
  simp only [serveClient, hinit, hfree]

/-- **A client with a `NetworkComponent`** gets one of its own, which holds its connection. -/
theorem serveClient_of_mem (he : e < o.entities.length)
    (hfree : o.getComponent e networkComponent = none) (hmem : "NetworkComponent" ∈ names) :
    (o.serveClient e service names connection).entities
        = o.entities.modify e (fun entity => { entity with
          components := entity.components.insertIfNew networkComponent o.components.length })
      ∧ (o.serveClient e service names connection).components
        = o.components ++ [clientComponent e service connection]
      ∧ ∀ e', (o.serveClient e service names connection).getComponent e' networkComponent
        = if e' = e then some o.components.length else o.getComponent e' networkComponent := by
  have hinit : (if names.length > 0 then o.initComponents e names else o)
      = (o.addComponent e networkComponent).2 := by
    rw [initComponents_eq he, if_pos hmem, if_pos (List.length_pos_of_mem hmem)]
  have hget := getComponent_addComponent (T := networkComponent) he
  rw [addComponent_of_free hfree] at hget
  simp only [serveClient, hinit, addComponent_of_free hfree, hget]
  refine ⟨?_, ?_, fun e' => ?_⟩
  · simp [registerDisconnectHandler, setConnection, emplace, updateMap, updateComponent,
      makeComponent]
  · simp [registerDisconnectHandler, setConnection, emplace, updateMap, updateComponent,
      makeComponent]
    rw [modify_concat, modify_concat, clientComponent]
  · rw [getComponent_registerDisconnectHandler, getComponent_setConnection,
      getComponent_emplace _ (by simpa using he) (by simpa using hfree), getComponent_makeComponent]
    simp only [and_true]

/-- An entity that has just been made is free. -/
theorem getComponent_made (entity : Entity) :
    o.entities.length < (o.makeEntity entity).entities.length
      ∧ (o.makeEntity entity).getComponent o.entities.length T = none := by
  rw [getComponent_makeEntity, getComponent, List.getElem?_eq_none (Nat.le_refl _)]
  exact ⟨by simp, rfl⟩

variable (o) (names)

/-- **Serving a new entity** stores a component in it if `NetworkComponent` is among the names, and
leaves everybody else's alone. -/
theorem stored_serveClient (entity : Entity) :
    ((o.makeEntity entity).serveClient o.entities.length service names connection).components
        = o.components ++ (if "NetworkComponent" ∈ names
          then [clientComponent o.entities.length service connection] else [])
      ∧ ∀ e, ((o.makeEntity entity).serveClient o.entities.length service names
          connection).getComponent e networkComponent
        = if e = o.entities.length ∧ "NetworkComponent" ∈ names then some o.components.length
          else o.getComponent e networkComponent := by
  obtain ⟨hlt, hfree⟩ := getComponent_made (o := o) (T := networkComponent) entity
  by_cases hmem : "NetworkComponent" ∈ names
  · obtain ⟨-, hcomponents, hget⟩ := serveClient_of_mem service connection hlt hfree hmem
    refine ⟨by simp [hcomponents, hmem], fun e => ?_⟩
    rw [hget, getComponent_makeEntity, (makeEntity_frame entity).1]
    simp only [hmem, and_true]
  · rw [serveClient_of_not_mem service connection hlt hfree hmem]
    simp [hmem]

/-- …so that is the `NetworkComponent` it has. -/
theorem networkComponentOf_served (entity : Entity) :
    ((o.makeEntity entity).serveClient o.entities.length service names
        connection).networkComponentOf e
      = if e = o.entities.length ∧ "NetworkComponent" ∈ names
        then some (clientComponent o.entities.length service connection)
        else o.networkComponentOf e := by
  obtain ⟨hcomponents, hget⟩ := o.stored_serveClient names service connection entity
  rw [networkComponentOf, hget, hcomponents]
  split
  · rename_i h
    simp [h.2]
  · refine Option.bind_congr fun c hc => ?_
    rw [List.getElem?_append_left (o.stored_lt _ _ _ hc)]

/-- …and adds to what there is. -/
theorem created_serveClient (entity : Entity) :
    ∃ served : Entity, served.id = entity.id
      ∧ ((o.makeEntity entity).serveClient o.entities.length service names connection).entities
        = o.entities ++ [served] := by
  obtain ⟨hlt, hfree⟩ := getComponent_made (o := o) (T := networkComponent) entity
  by_cases hmem : "NetworkComponent" ∈ names
  · obtain ⟨hentities, -, -⟩ := serveClient_of_mem service connection hlt hfree hmem
    rw [hentities, makeEntity, modify_concat]
    exact ⟨{ entity with
      components := (∅ : ComponentMap).insertIfNew networkComponent o.components.length },
      rfl, rfl⟩
  · rw [serveClient_of_not_mem service connection hlt hfree hmem]
    exact ⟨{ entity with components := ∅ }, rfl, rfl⟩

variable {o} {names} {service connection}

@[simp] theorem length_initComponents (names : List String) :
    (o.initComponents e names).entities.length = o.entities.length := by
  rw [initComponents]
  induction names generalizing o with
  | nil => rfl
  | cons name names ih =>
    rw [List.foldl_cons, ih]
    split
    · exact length_addComponent
    · rfl

@[simp] theorem length_serveClient :
    (o.serveClient e service names connection).entities.length = o.entities.length := by
  have hinit : (if names.length > 0 then o.initComponents e names else o).entities.length
      = o.entities.length := by
    split
    · exact length_initComponents names
    · rfl
  simp only [serveClient]
  split <;> simpa using hinit

end Objects

/-! ## The handler -/

namespace World

variable (generator : ℕ → String) (w : World)

/-- Members of objects change, and no object goes. -/
def withObjects (o : Objects) (h : o.entities.length = w.objects.entities.length) : World where
  objects := o
  factory := w.factory
  registered_lt id e he := h ▸ w.registered_lt id e he

/-- `proxy_` of a service. -/
def proxy (service : EntityRef) : EntityProxy :=
  w.objects.entities[service]?.elim {} Entity.proxy

/-- The world with the entity that is made for a client, and the entity. -/
def createClient (data : LoginEntityConfig) (service : EntityRef) : EntityRef × World :=
  w.createEntity generator (.serverEntity (.ofString data.entityType) (w.proxy service).ip
    (w.proxy service).port)

/-- `LoginService::on_client_connected` of `service`, with its result. -/
def onClientConnected (config : GameConfig) (service : EntityRef) (connection : ConnectionRef) :
    Bool × World :=
  match config.loginEntityConfig with
  | none => (false, w)
  | some data =>
    if data.entityClassName = "ServerEntity" then
      let (entity, w) := w.createClient generator data service
      (true, w.withObjects
        (w.objects.serveClient entity service data.entityComponents connection) (by simp))
    else (true, w)

/-- The clients of `connections`, one after the other. -/
def onClientsConnected (config : GameConfig) (service : EntityRef)
    (connections : List ConnectionRef) : World :=
  connections.foldl
    (fun w connection => (w.onClientConnected generator config service connection).2) w

/-- `w'` has everything `w` has, unchanged. -/
structure Extends (w w' : World) : Prop where
  entities : w.objects.entities <+: w'.objects.entities
  components : w.objects.components <+: w'.objects.components
  registered : ∀ {id : String} {e : EntityRef}, w.getEntity id = some e → w'.getEntity id = some e

variable {generator w} {w' w'' : World} {config : GameConfig} {data : LoginEntityConfig}
  {service : EntityRef} {connection : ConnectionRef}

@[refl] theorem Extends.refl (w : World) : w.Extends w :=
  ⟨List.prefix_rfl, List.prefix_rfl, fun h => h⟩

theorem Extends.trans (h : w.Extends w') (h' : w'.Extends w'') : w.Extends w'' :=
  ⟨h.entities.trans h'.entities, h.components.trans h'.components,
    fun hid => h'.registered (h.registered hid)⟩

theorem Extends.unregistered (h : w.Extends w') {id : String} (hid : w'.getEntity id = none) :
    w.getEntity id = none :=
  Option.eq_none_iff_forall_ne_some.mpr fun e he => by
    rw [h.registered he] at hid
    cases hid

/-- An entity stays as it is. -/
theorem Extends.entity (h : w.Extends w') {e : EntityRef} {entity : Entity}
    (he : w.objects.entities[e]? = some entity) : w'.objects.entities[e]? = some entity := by
  obtain ⟨more, hmore⟩ := h.entities
  rw [← hmore, List.getElem?_append_left (List.getElem?_eq_some_iff.mp he).1, he]

/-- …and so does the `NetworkComponent` it has. -/
theorem Extends.networkComponentOf (h : w.Extends w') {e : EntityRef} {component : Component}
    (he : w.objects.networkComponentOf e = some component) :
    w'.objects.networkComponentOf e = some component := by
  obtain ⟨c, hstored, hc⟩ := Option.bind_eq_some_iff.mp he
  obtain ⟨entity, hentity, hkey⟩ := Option.bind_eq_some_iff.mp hstored
  obtain ⟨more, hmore⟩ := h.components
  rw [Objects.networkComponentOf, Objects.getComponent, h.entity hentity, Option.bind_some, hkey,
    Option.bind_some, ← hmore, List.getElem?_append_left (List.getElem?_eq_some_iff.mp hc).1, hc]

/-- Making an entity. -/
theorem extends_createEntity (generator : ℕ → String) (w : World) (args : EntityArgs) :
    w.Extends (w.createEntity generator args).2 := by
  refine ⟨⟨_, entities_createEntityWithId.symm⟩, List.prefix_rfl, fun {id e} he => ?_⟩
  rw [createEntity_eq, getEntity_createEntityWithId, if_neg]
  · exact he
  · rintro ⟨rfl, hfree⟩
    cases hfree.symm.trans he

/-- Making a client's entity. -/
@[simp] theorem createClient_fst :
    (w.createClient generator data service).1 = w.objects.entities.length := rfl

theorem getEntity_createClient (generator : ℕ → String) (w : World) (service : EntityRef)
    (data : LoginEntityConfig) {id : String} :
    (w.createClient generator data service).2.getEntity id
      = if id = w.nextId generator ∧ w.getEntity (w.nextId generator) = none
        then some w.objects.entities.length else w.getEntity id := getEntity_createEntityWithId

/-- **What `on_client_connected` does** when it does anything. -/
theorem onClientConnected_eq (hdata : config.loginEntityConfig = some data)
    (hclass : data.entityClassName = "ServerEntity") :
    w.onClientConnected generator config service connection
      = (true, (w.createClient generator data service).2.withObjects
        ((w.createClient generator data service).2.objects.serveClient w.objects.entities.length
          service data.entityComponents connection) (by simp)) := by
  simp only [onClientConnected, hdata, hclass, if_true, createClient_fst]

variable (generator w service connection)

/-- …to the entities, -/
theorem entities_onClientConnected (hdata : config.loginEntityConfig = some data)
    (hclass : data.entityClassName = "ServerEntity") :
    ∃ entity : Entity, entity.id = w.nextId generator
      ∧ (w.onClientConnected generator config service connection).2.objects.entities
        = w.objects.entities ++ [entity] := by
  rw [onClientConnected_eq hdata hclass]
  obtain ⟨entity, hid, hcreated⟩ := w.objects.created_serveClient data.entityComponents service
    connection (.make (w.nextId generator) (.serverEntity (.ofString data.entityType)
      (w.proxy service).ip (w.proxy service).port))
  exact ⟨entity, hid.trans (Entity.make_id _ _), hcreated⟩

/-- …to the components, -/
theorem components_onClientConnected (hdata : config.loginEntityConfig = some data)
    (hclass : data.entityClassName = "ServerEntity") :
    (w.onClientConnected generator config service connection).2.objects.components
        = w.objects.components ++ (if "NetworkComponent" ∈ data.entityComponents
          then [Objects.clientComponent w.objects.entities.length service connection] else [])
      ∧ ∀ e, (w.onClientConnected generator config service connection).2.objects.getComponent e
          networkComponent
        = if e = w.objects.entities.length ∧ "NetworkComponent" ∈ data.entityComponents
          then some w.objects.components.length
          else w.objects.getComponent e networkComponent := by
  rw [onClientConnected_eq hdata hclass]
  exact Objects.stored_serveClient _ _ service connection _

variable {generator w service connection}

/-- …to everybody's `NetworkComponent`, -/
theorem networkComponentOf_onClientConnected (hdata : config.loginEntityConfig = some data)
    (hclass : data.entityClassName = "ServerEntity") {e : EntityRef} :
    (w.onClientConnected generator config service connection).2.objects.networkComponentOf e
      = if e = w.objects.entities.length ∧ "NetworkComponent" ∈ data.entityComponents
        then some (Objects.clientComponent w.objects.entities.length service connection)
        else w.objects.networkComponentOf e := by
  rw [onClientConnected_eq hdata hclass]
  exact Objects.networkComponentOf_served _ _ service connection _

/-- …to the registry, -/
theorem getEntity_onClientConnected (hdata : config.loginEntityConfig = some data)
    (hclass : data.entityClassName = "ServerEntity") {id : String} :
    (w.onClientConnected generator config service connection).2.getEntity id
      = if id = w.nextId generator ∧ w.getEntity (w.nextId generator) = none
        then some w.objects.entities.length else w.getEntity id := by
  rw [onClientConnected_eq hdata hclass]
  exact getEntity_createClient generator w service data

/-- …and to nothing else. -/
theorem extends_onClientConnected (generator : ℕ → String) (w : World) (service : EntityRef)
    (connection : ConnectionRef) (config : GameConfig) :
    w.Extends (w.onClientConnected generator config service connection).2 := by
  rcases hdata : config.loginEntityConfig with _ | data
  · simp only [onClientConnected, hdata]
    rfl
  by_cases hclass : data.entityClassName = "ServerEntity"
  · obtain ⟨entity, -, hentities⟩ :=
      entities_onClientConnected generator w service connection hdata hclass
    obtain ⟨hcomponents, -⟩ :=
      components_onClientConnected generator w service connection hdata hclass
    refine ⟨⟨_, hentities.symm⟩, ⟨_, hcomponents.symm⟩, fun {id e} he => ?_⟩
    rw [getEntity_onClientConnected hdata hclass, if_neg, he]
    rintro ⟨rfl, hfree⟩
    rw [hfree] at he
    cases he
  · simp only [onClientConnected, hdata, if_neg hclass]
    rfl

/-! ## One client after the other -/

/-- The generator will not repeat itself, nor produce what is registered. -/
structure FreshIds (generator : ℕ → String) (w : World) : Prop where
  once : ∀ {m n : ℕ}, w.factory.uuid.drawn ≤ m → w.factory.uuid.drawn ≤ n →
    generator m = generator n → m = n
  unregistered : ∀ {n : ℕ}, w.factory.uuid.drawn ≤ n → w.getEntity (generator n) = none

theorem FreshIds.next (h : w.FreshIds generator) : w.getEntity (w.nextId generator) = none :=
  h.unregistered (Nat.le_refl _)

theorem freshIds_construct (hgenerator : Function.Injective generator) :
    (construct generator).FreshIds generator where
  once _ _ h := hgenerator h
  unregistered _ := Std.ExtTreeMap.getElem?_empty

/-- Ids stay fresh. -/
theorem FreshIds.createEntity (h : w.FreshIds generator) (args : EntityArgs) :
    (w.createEntity generator args).2.FreshIds generator where
  once hm hn := h.once (Nat.le_of_succ_le hm) (Nat.le_of_succ_le hn)
  unregistered {n} hn := by
    rw [createEntity_eq, getEntity_createEntityWithId, if_neg]
    · exact h.unregistered (Nat.le_of_succ_le hn)
    · rintro ⟨heq, -⟩
      have := h.once (Nat.le_of_succ_le hn) (Nat.le_refl _) heq
      exact Nat.ne_of_gt hn this

/-- …whatever becomes of a client. -/
theorem FreshIds.client (h : w.FreshIds generator) (config : GameConfig) (service : EntityRef)
    (connection : ConnectionRef) :
    (w.onClientConnected generator config service connection).2.FreshIds generator := by
  rw [World.onClientConnected]
  split
  · exact h
  · split
    · rename_i data _ _
      have hcreated := h.createEntity (.serverEntity (.ofString data.entityType)
        (w.proxy service).ip (w.proxy service).port)
      exact ⟨hcreated.once, hcreated.unregistered⟩
    · exact h

/-- `e` is registered under `id` and is the entity of `connection`: its `NetworkComponent` is the
one that was made for the two of them. -/
structure Client (w : World) (service : EntityRef) (connection : ConnectionRef)
    (client : String × EntityRef) : Prop where
  registered : w.getEntity client.1 = some client.2
  entity : ∃ entity, w.objects.entities[client.2]? = some entity ∧ entity.id = client.1
  component : w.objects.networkComponentOf client.2
    = some (Objects.clientComponent client.2 service connection)

variable {client : String × EntityRef}

/-- **A client stays one.** -/
theorem Client.extends (h : w.Client service connection client) (hw : w.Extends w') :
    w'.Client service connection client where
  registered := hw.registered h.registered
  entity := h.entity.imp fun _ h => ⟨hw.entity h.1, h.2⟩
  component := hw.networkComponentOf h.component

/-- `w'` has `clients` for `connections`, and is otherwise as `w`. -/
structure Serves (w : World) (service : EntityRef) (connections : List ConnectionRef) (w' : World)
    (clients : List (String × EntityRef)) : Prop where
  served : List.Forall₂ (w'.Client service) connections clients
  distinct : (clients.map Prod.fst).Nodup
  new : ∀ client ∈ clients, w.getEntity client.1 = none
  registered : ∀ {id : String} {e : EntityRef},
    w'.getEntity id = some e ↔ w.getEntity id = some e ∨ (id, e) ∈ clients
  kept : w.Extends w'

/-- **One client more.** -/
theorem FreshIds.onClientConnected (h : w.FreshIds generator) (service : EntityRef)
    (connection : ConnectionRef) (hdata : config.loginEntityConfig = some data)
    (hclass : data.entityClassName = "ServerEntity")
    (hmem : "NetworkComponent" ∈ data.entityComponents) :
    (w.onClientConnected generator config service connection).2.FreshIds generator
      ∧ (w.onClientConnected generator config service connection).2.Client service connection
        (w.nextId generator, w.objects.entities.length) := by
  refine ⟨h.client config service connection, ?_⟩
  obtain ⟨entity, hid, hentities⟩ :=
    entities_onClientConnected generator w service connection hdata hclass
  refine ⟨?_, ⟨entity, ?_, hid⟩, ?_⟩
  · rw [getEntity_onClientConnected hdata hclass, if_pos ⟨rfl, h.next⟩]
  · rw [hentities]
    exact List.getElem?_concat_length
  · rw [networkComponentOf_onClientConnected hdata hclass, if_pos ⟨rfl, hmem⟩]

/-- …and nobody else. -/
theorem FreshIds.registered_onClientConnected (h : w.FreshIds generator)
    (service : EntityRef) (connection : ConnectionRef)
    (hdata : config.loginEntityConfig = some data) (hclass : data.entityClassName = "ServerEntity")
    (id : String) (e : EntityRef) :
    (w.onClientConnected generator config service connection).2.getEntity id = some e
      ↔ w.getEntity id = some e ∨ (id, e) = (w.nextId generator, w.objects.entities.length) := by
  rw [getEntity_onClientConnected hdata hclass]
  by_cases hid : id = w.nextId generator
  · subst hid
    simp [h.next, eq_comm]
  · simp [hid]

end World

open World

/-- **Clients are isolated from one another**: each has an entity of its own, under an id of its
own, that holds its connection and no other, and what was there before is there unchanged. -/
theorem exists_serves {generator : ℕ → String} {w : World} {config : GameConfig}
    {data : LoginEntityConfig} (service : EntityRef) (connections : List ConnectionRef)
    (h : w.FreshIds generator) (hdata : config.loginEntityConfig = some data)
    (hclass : data.entityClassName = "ServerEntity")
    (hmem : "NetworkComponent" ∈ data.entityComponents) :
    ∃ clients, w.Serves service connections
      (w.onClientsConnected generator config service connections) clients := by
  induction connections generalizing w with
  | nil => exact ⟨[], .nil, List.nodup_nil, nofun, by simp [onClientsConnected], .refl w⟩
  | cons connection connections ih =>
    obtain ⟨hfresh, hclient⟩ := h.onClientConnected service connection hdata hclass hmem
    have hregistered (id : String) (e : EntityRef) :=
      h.registered_onClientConnected service connection hdata hclass id e
    have hkept := extends_onClientConnected generator w service connection config
    obtain ⟨clients, hserves⟩ := ih hfresh
    refine ⟨(w.nextId generator, w.objects.entities.length) :: clients,
      .cons (hclient.extends hserves.kept) hserves.served, ?_, ?_, ?_, hkept.trans hserves.kept⟩
    · refine List.nodup_cons.mpr ⟨fun hin => ?_, hserves.distinct⟩
      obtain ⟨client, hin, heq⟩ := List.mem_map.mp hin
      have hnone := hserves.new client hin
      rw [heq, hclient.registered] at hnone
      cases hnone
    · intro client hin
      rcases List.mem_cons.mp hin with rfl | hin
      · exact h.next
      · exact hkept.unregistered (hserves.new client hin)
    · intro id e
      rw [List.mem_cons, ← or_assoc, ← hregistered]
      exact hserves.registered

/-- Two clients of a service that the factory has made. -/
theorem exists_serves_two :
    ∃ clients, Serves ((World.construct fun n => String.ofList (List.replicate n 'x')).createEntity
        (fun n => String.ofList (List.replicate n 'x')) (.loginService "127.0.0.1" 8080)).2 0 [0, 1]
      (onClientsConnected (fun n => String.ofList (List.replicate n 'x'))
        ((World.construct fun n => String.ofList (List.replicate n 'x')).createEntity
          (fun n => String.ofList (List.replicate n 'x')) (.loginService "127.0.0.1" 8080)).2
        ⟨(∅ : Std.ExtTreeMap String ConfigValue).insert GameConfig.loginConfigStr
          (.login ⟨"ServerEntity", "kPlayerEntity", ["Unknown", "NetworkComponent"]⟩)⟩ 0 [0, 1])
      clients :=
  exists_serves 0 [0, 1]
    ((freshIds_construct fun m n h => by simpa using congrArg String.length h).createEntity _)
    rfl rfl (by decide)

end MultiplayerServer
