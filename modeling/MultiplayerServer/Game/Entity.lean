import Mathlib.Data.List.AList
import Mathlib.Data.Option.Basic

/-!
# Game/Entity — entities, their components, and who owns whom

`Entity` of `entity.h` with its subclasses, `Component` with `NetworkComponent`, and the member
functions that keep the two together.  A `shared_ptr` is a reference into `Objects`, which holds
every entity and every component ever made; an object is never moved, and what a reference is of
does not change.

A component class is known by the name `typeid` gives it, distinct for distinct classes: the key it
is stored under.  The log lines are left out, and so is the name an entity and a component can be
given, which nothing reads.
-/

namespace MultiplayerServer

/-- `shared_ptr<Entity>` and `weak_ptr<Entity>` -/
abbrev EntityRef := ℕ

/-- `shared_ptr<Component>` -/
abbrev ComponentRef := ℕ

/-- `shared_ptr<Connection>` -/
abbrev ConnectionRef := ℕ

/-- `typeid(T).name()`, for a component class `T`. -/
abbrev TypeName := String

/-- `typeid(NetworkComponent).name()`; nothing depends on the spelling. -/
def networkComponent : TypeName := "multiplayer_server::NetworkComponent"

/-! ## The objects -/

/-- A function in `disconnect_handlers_`. -/
inductive DisconnectHandler
  /-- `std::bind(&LoginService::on_client_disconnected, this, _1)` -/
  | onClientDisconnected (service : EntityRef)
  deriving DecidableEq

/-- `Component`; the last two fields are those of `NetworkComponent`. -/
structure Component where
  /-- The class it was made as. -/
  typeName : TypeName
  owner : Option EntityRef
  /-- How often `before_destruct` was called. -/
  beforeDestructs : ℕ := 0
  connection : Option ConnectionRef := none
  disconnectHandlers : Std.ExtTreeMap String DisconnectHandler := ∅
  deriving DecidableEq

/-- `ServerEntityType`, from `server_entity.h`. -/
inductive ServerEntityType
  | kMirrorEntity
  | kPlayerEntity
  | kServiceEntity
  | kAIEntity
  | kFreelyCombinedEntity
  deriving DecidableEq, Repr

/-- `ServerEntity::get_type_from_string` -/
def ServerEntityType.ofString (type : String) : ServerEntityType :=
  if type = "kMirrorEntity" then .kMirrorEntity
  else if type = "kServiceEntity" then .kServiceEntity
  else if type = "kPlayerEntity" then .kPlayerEntity
  else if type = "kAIEntity" then .kAIEntity
  else .kServiceEntity

/-- `EntityProxy` -/
structure EntityProxy where
  ip : String := ""
  port : ℤ := 0
  entityId : String := ""
  validate : Bool := false
  deriving DecidableEq

/-- `EntityProxy::set_proxy` -/
def EntityProxy.setProxy (_ : EntityProxy) (id ip : String) (port : ℤ) : EntityProxy where
  ip := ip
  port := port
  entityId := id
  validate := true

/-- The classes derived from `Entity`. -/
inductive EntityClass
  | entity
  | clientEntity
  | serverEntity
  | loginService
  deriving DecidableEq, Repr

/-- `components_` -/
abbrev ComponentMap := Std.ExtTreeMap TypeName ComponentRef

/-- `Entity`; `type` and `proxy` are those of `ServerEntity`. -/
structure Entity where
  entityClass : EntityClass
  id : String
  components : ComponentMap := ∅
  validate : Bool := true
  type : ServerEntityType := .kServiceEntity
  proxy : EntityProxy := {}
  deriving DecidableEq

namespace Entity

/-- The constructor of `Entity`. -/
def construct (id : String) : Entity where
  entityClass := .entity
  id := id

/-- The constructor of `ClientEntity`. -/
def constructClient (id : String) : Entity where
  entityClass := .clientEntity
  id := id

/-- The constructor of `ServerEntity`. -/
def constructServer (id : String) (type : ServerEntityType) (ip : String) (port : ℤ) : Entity where
  entityClass := .serverEntity
  id := id
  type := type
  proxy := ({} : EntityProxy).setProxy id ip port

/-- The constructor of `LoginService`. -/
def constructLogin (id ip : String) (port : ℤ) : Entity :=
  { constructServer id .kServiceEntity ip port with entityClass := .loginService }

end Entity

/-- Every entity and every component there is.  What an entity's map holds are components. -/
structure Objects where
  entities : List Entity := []
  components : List Component := []
  /-- Whether an iterator past the end has been read through: nothing that follows is defined. -/
  undefined : Bool := false
  stored_lt : ∀ (e : EntityRef) (T : TypeName) (c : ComponentRef),
    (entities[e]?.bind fun entity => entity.components[T]?) = some c → c < components.length

namespace Objects

/-- No objects. -/
def empty : Objects where
  stored_lt := by simp

/-- `get_component`, as a reference: what is stored in `e` under `T`. -/
def getComponent (o : Objects) (e : EntityRef) (T : TypeName) : Option ComponentRef :=
  o.entities[e]?.bind fun entity => entity.components[T]?

/-- `get_owner`, while the owner lives. -/
def getOwner (o : Objects) (c : ComponentRef) : Option EntityRef :=
  o.components[c]?.bind fun component => component.owner

/-! ## The writes there are

Each of them keeps the map's references good, and everything below is made of them. -/

variable (o : Objects)

/-- `make_shared<Entity>(…)`: a constructor leaves `components_` empty. -/
def makeEntity (entity : Entity) : Objects where
  entities := o.entities ++ [{ entity with components := ∅ }]
  components := o.components
  undefined := o.undefined
  stored_lt e T c h := by
    refine o.stored_lt e T c ?_
    rcases Nat.lt_or_ge e o.entities.length with he | he
    · rwa [List.getElem?_append_left he] at h
    · rw [List.getElem?_append_right he, List.getElem?_singleton] at h
      split at h <;> simp at h

/-- `make_shared<Component>(…)` -/
def makeComponent (component : Component) : Objects where
  entities := o.entities
  components := o.components ++ [component]
  undefined := o.undefined
  stored_lt e T c h := by
    rw [List.length_append]
    exact Nat.lt_add_right _ (o.stored_lt e T c h)

/-- A component changes. -/
def updateComponent (c : ComponentRef) (f : Component → Component) : Objects where
  entities := o.entities
  components := o.components.modify c f
  undefined := o.undefined
  stored_lt e T c h := by
    rw [List.length_modify]
    exact o.stored_lt e T c h

/-- `components_` of `e` changes, and holds nothing new but components. -/
def updateMap (e : EntityRef) (f : ComponentMap → ComponentMap)
    (hf : ∀ (m : ComponentMap) (T : TypeName) (c : ComponentRef),
      (f m)[T]? = some c → m[T]? = some c ∨ c < o.components.length) : Objects where
  entities := o.entities.modify e fun entity => { entity with components := f entity.components }
  components := o.components
  undefined := o.undefined
  stored_lt e' T c h := by
    rw [List.getElem?_modify] at h
    rcases hentity : o.entities[e']? with _ | entity
    · simp [hentity] at h
    · by_cases he : e = e'
      · simp only [hentity, he, if_true, Option.map_eq_map, Option.map_some, Option.bind_some] at h
        rcases hf _ _ _ h with hold | hlt
        · exact o.stored_lt e' T c (by rw [hentity]; exact hold)
        · exact hlt
      · exact o.stored_lt e' T c (by simpa [hentity, he] using h)

/-- An iterator past the end is read through. -/
def readPastEnd : Objects := { o with undefined := true }

/-- `components_.emplace(T, c)`, refused where there is something under `T` already. -/
def emplace (e : EntityRef) (T : TypeName) (c : ComponentRef) (hc : c < o.components.length) :
    Objects :=
  o.updateMap e (fun m => m.insertIfNew T c) fun m T' c' h => by
    rw [Std.ExtTreeMap.getElem?_insertIfNew] at h
    split at h
    · exact Or.inr (Option.some.inj h ▸ hc)
    · exact Or.inl h

/-- `components_.erase(it)` -/
def erase (e : EntityRef) (T : TypeName) : Objects :=
  o.updateMap e (fun m => m.erase T) fun m T' c' h => by
    rw [Std.ExtTreeMap.getElem?_erase] at h
    split at h
    · cases h
    · exact Or.inl h

/-- `components_.clear()` -/
def clear (e : EntityRef) : Objects :=
  o.updateMap e (fun _ => ∅) fun m T' c' h => by simp at h

/-! ## The member functions -/

/-- What is in `components_`, in the order it is walked: the components `update` and `render` are
called of. -/
def stored (e : EntityRef) : List ComponentRef :=
  o.entities[e]?.elim [] fun entity => entity.components.toList.map Prod.snd

/-- `update_component_owner`: `set_owner`, or `reset_owner` when there is none. -/
def updateComponentOwner (c : ComponentRef) (owner : Option EntityRef) : Objects :=
  o.updateComponent c fun component => { component with owner := owner }

/-- `before_destruct` of a component, which does nothing but is called. -/
def beforeDestruct (c : ComponentRef) : Objects :=
  o.updateComponent c fun component =>
    { component with beforeDestructs := component.beforeDestructs + 1 }

/-- `add_component`, with the component it returns. -/
def addComponent (e : EntityRef) (T : TypeName) : ComponentRef × Objects :=
  match o.getComponent e T with
  | some c => (c, o)
  | none =>
    (o.components.length,
      (o.makeComponent { typeName := T, owner := some e }).emplace e T o.components.length
        (by simp [makeComponent]))

/-- `attach_component`, with its result.  `T` is what the caller's pointer is to. -/
def attachComponent (e : EntityRef) (T : TypeName) (c : ComponentRef)
    (hc : c < o.components.length) : Bool × Objects :=
  if (o.getComponent e T).isSome then (false, o)
  else
    (true, (o.updateComponentOwner c (some e)).emplace e T c
      (by simpa [updateComponentOwner, updateComponent] using hc))

/-- `delete_component<T>()`, with its result: the owner is reset of what was not found. -/
def deleteComponent (e : EntityRef) (T : TypeName) : Bool × Objects :=
  if (o.getComponent e T).isSome then (true, o.erase e T) else (false, o.readPastEnd)

/-- `delete_component<T>(component)`, with its result. -/
def deleteGivenComponent (e : EntityRef) (T : TypeName) (c : ComponentRef) : Bool × Objects :=
  if o.getComponent e T = some c then (true, (o.erase e T).updateComponentOwner c none)
  else (false, o)

/-- `delete_all_components` -/
def deleteAllComponents (e : EntityRef) : Objects :=
  ((o.stored e).foldl beforeDestruct o).clear e

/-- `init_components` -/
def initComponents (e : EntityRef) (names : List String) : Objects :=
  names.foldl
    (fun o name => if name = "NetworkComponent" then (o.addComponent e networkComponent).2 else o) o

/-! ## The member functions of `NetworkComponent` -/

/-- `set_connection` -/
def setConnection (c : ComponentRef) (connection : Option ConnectionRef) : Objects :=
  o.updateComponent c fun component => { component with connection := connection }

/-- `register_disconnect_handler`, with its result. -/
def registerDisconnectHandler (c : ComponentRef) (name : String) (handler : DisconnectHandler) :
    Bool × Objects :=
  if o.components[c]?.any fun component => name ∈ component.disconnectHandlers then (false, o)
  else
    (true, o.updateComponent c fun component =>
      { component with disconnectHandlers := component.disconnectHandlers.insert name handler })

/-- `handle_disconnect`: the calls it makes, each of a handler with the id of the owner. -/
def handleDisconnect (c : ComponentRef) : List (DisconnectHandler × String) :=
  match (o.getOwner c).bind fun e => o.entities[e]? with
  | none => []
  | some owner =>
    o.components[c]?.elim [] fun component =>
      component.disconnectHandlers.toList.map fun handler => (handler.2, owner.id)

/-! ## What each write does to a lookup -/

variable {o} {e e' : EntityRef} {T T' : TypeName} {c c' : ComponentRef}

theorem getComponent_lt (h : o.getComponent e T = some c) : c < o.components.length :=
  o.stored_lt e T c h

@[simp] theorem getComponent_makeEntity (entity : Entity) :
    (o.makeEntity entity).getComponent e T = o.getComponent e T := by
  rw [getComponent, getComponent, makeEntity]
  rcases Nat.lt_or_ge e o.entities.length with he | he
  · rw [List.getElem?_append_left he]
  · rw [List.getElem?_append_right he, List.getElem?_singleton, List.getElem?_eq_none he]
    split <;> simp

@[simp] theorem getComponent_makeComponent (component : Component) :
    (o.makeComponent component).getComponent e T = o.getComponent e T := rfl

@[simp] theorem getComponent_updateComponent (f : Component → Component) :
    (o.updateComponent c f).getComponent e T = o.getComponent e T := rfl

@[simp] theorem getComponent_updateComponentOwner (owner : Option EntityRef) :
    (o.updateComponentOwner c owner).getComponent e T = o.getComponent e T := rfl

theorem getComponent_updateMap {f : ComponentMap → ComponentMap}
    {hf : ∀ (m : ComponentMap) (T : TypeName) (c : ComponentRef),
      (f m)[T]? = some c → m[T]? = some c ∨ c < o.components.length} :
    (o.updateMap e f hf).getComponent e' T
      = if e' = e then o.entities[e']?.bind fun entity => (f entity.components)[T]?
        else o.getComponent e' T := by
  rw [getComponent, updateMap, List.getElem?_modify]
  by_cases he : e' = e
  · subst he
    cases o.entities[e']? <;> simp
  · cases hentity : o.entities[e']? <;> simp [getComponent, hentity, he, Ne.symm he]

/-- **Emplacing under a free key** stores there, and leaves every other key alone. -/
theorem getComponent_emplace (hc : c < o.components.length) (he : e < o.entities.length)
    (hfree : o.getComponent e T = none) :
    (o.emplace e T c hc).getComponent e' T'
      = if e' = e ∧ T' = T then some c else o.getComponent e' T' := by
  have hentity : o.entities[e]? = some o.entities[e] := List.getElem?_eq_getElem he
  have hnot : T ∉ o.entities[e].components := by
    rw [Std.ExtTreeMap.mem_iff_isSome_getElem?]
    simpa [getComponent, hentity] using hfree
  rw [emplace, getComponent_updateMap]
  by_cases hee : e' = e
  · subst hee
    by_cases hT : T' = T
    · subst hT
      simp only [hentity, Option.bind_some, Std.ExtTreeMap.getElem?_insertIfNew]
      simp [hnot]
    · simp [getComponent, hentity, Std.ExtTreeMap.getElem?_insertIfNew, hT, Ne.symm hT]
  · simp [hee]

/-- **Erasing** frees the one key. -/
theorem getComponent_erase :
    (o.erase e T).getComponent e' T'
      = if e' = e ∧ T' = T then none else o.getComponent e' T' := by
  rw [erase, getComponent_updateMap]
  by_cases hee : e' = e
  · subst hee
    by_cases hT : T' = T
    · subst hT
      cases o.entities[e']? <;> simp
    · cases hentity : o.entities[e']? <;>
        simp [getComponent, hentity, Std.ExtTreeMap.getElem?_erase, hT, Ne.symm hT]
  · simp [hee]

/-- **Clearing** frees all keys of the one entity. -/
theorem getComponent_clear :
    (o.clear e).getComponent e' T' = if e' = e then none else o.getComponent e' T' := by
  rw [clear, getComponent_updateMap]
  by_cases hee : e' = e
  · subst hee
    cases o.entities[e']? <;> simp
  · simp [hee]

/-! ## …and to an owner -/

@[simp] theorem getOwner_makeEntity (entity : Entity) :
    (o.makeEntity entity).getOwner c = o.getOwner c := rfl

@[simp] theorem getOwner_updateMap {f : ComponentMap → ComponentMap}
    {hf : ∀ (m : ComponentMap) (T : TypeName) (c : ComponentRef),
      (f m)[T]? = some c → m[T]? = some c ∨ c < o.components.length} :
    (o.updateMap e f hf).getOwner c = o.getOwner c := rfl

@[simp] theorem getOwner_emplace {hc : c < o.components.length} :
    (o.emplace e T c hc).getOwner c' = o.getOwner c' := rfl

@[simp] theorem getOwner_erase : (o.erase e T).getOwner c = o.getOwner c := rfl

@[simp] theorem getOwner_clear : (o.clear e).getOwner c = o.getOwner c := rfl

theorem getOwner_makeComponent (component : Component) :
    (o.makeComponent component).getOwner c
      = if c = o.components.length then component.owner else o.getOwner c := by
  rw [getOwner, getOwner, makeComponent]
  rcases Nat.lt_trichotomy c o.components.length with hc | rfl | hc
  · rw [List.getElem?_append_left hc, if_neg (Nat.ne_of_lt hc)]
  · simp
  · rw [if_neg (Nat.ne_of_gt hc), List.getElem?_eq_none (by simpa using Nat.succ_le_of_lt hc),
      List.getElem?_eq_none (Nat.le_of_lt hc)]

theorem getOwner_updateComponentOwner (owner : Option EntityRef) (hc : c < o.components.length) :
    (o.updateComponentOwner c owner).getOwner c' = if c' = c then owner else o.getOwner c' := by
  rw [getOwner, updateComponentOwner, updateComponent, List.getElem?_modify]
  by_cases h : c' = c
  · subst h
    simp [List.getElem?_eq_getElem hc]
  · cases hcomponent : o.components[c']? <;> simp [getOwner, hcomponent, h, Ne.symm h]

@[simp] theorem getOwner_beforeDestruct : (o.beforeDestruct c).getOwner c' = o.getOwner c' := by
  rw [getOwner, beforeDestruct, updateComponent, List.getElem?_modify]
  cases hcomponent : o.components[c']? with
  | none => simp [getOwner, hcomponent]
  | some component =>
    by_cases h : c = c' <;> simp [getOwner, hcomponent, h]

/-! ## …and to everything else -/

@[simp] theorem makeEntity_frame (entity : Entity) :
    (o.makeEntity entity).components = o.components
      ∧ (o.makeEntity entity).entities.length = o.entities.length + 1
      ∧ (o.makeEntity entity).undefined = o.undefined := by
  simp [makeEntity]

@[simp] theorem makeComponent_frame (component : Component) :
    (o.makeComponent component).entities = o.entities
      ∧ (o.makeComponent component).components.length = o.components.length + 1
      ∧ (o.makeComponent component).undefined = o.undefined := by
  simp [makeComponent]

theorem lt_makeComponent (component : Component) :
    o.components.length < (o.makeComponent component).components.length := by
  simp

@[simp] theorem updateComponent_frame (f : Component → Component) :
    (o.updateComponent c f).entities = o.entities
      ∧ (o.updateComponent c f).components.length = o.components.length
      ∧ (o.updateComponent c f).undefined = o.undefined := by
  simp [updateComponent]

@[simp] theorem updateComponentOwner_frame (owner : Option EntityRef) :
    (o.updateComponentOwner c owner).entities = o.entities
      ∧ (o.updateComponentOwner c owner).components.length = o.components.length
      ∧ (o.updateComponentOwner c owner).undefined = o.undefined :=
  updateComponent_frame _

@[simp] theorem updateMap_frame {f : ComponentMap → ComponentMap}
    {hf : ∀ (m : ComponentMap) (T : TypeName) (c : ComponentRef),
      (f m)[T]? = some c → m[T]? = some c ∨ c < o.components.length} :
    (o.updateMap e f hf).components = o.components
      ∧ (o.updateMap e f hf).entities.length = o.entities.length
      ∧ (o.updateMap e f hf).undefined = o.undefined := by
  simp [updateMap]

@[simp] theorem emplace_frame {hc : c < o.components.length} :
    (o.emplace e T c hc).components = o.components
      ∧ (o.emplace e T c hc).entities.length = o.entities.length
      ∧ (o.emplace e T c hc).undefined = o.undefined := updateMap_frame

@[simp] theorem erase_frame :
    (o.erase e T).components = o.components
      ∧ (o.erase e T).entities.length = o.entities.length
      ∧ (o.erase e T).undefined = o.undefined := updateMap_frame

@[simp] theorem clear_frame :
    (o.clear e).components = o.components ∧ (o.clear e).entities.length = o.entities.length
      ∧ (o.clear e).undefined = o.undefined := updateMap_frame

@[simp] theorem length_addComponent :
    (o.addComponent e T).2.entities.length = o.entities.length := by
  rw [addComponent]
  split <;> simp

@[simp] theorem getComponent_setConnection (connection : Option ConnectionRef) :
    (o.setConnection c connection).getComponent e T = o.getComponent e T := rfl

@[simp] theorem getComponent_registerDisconnectHandler (name : String)
    (handler : DisconnectHandler) :
    (o.registerDisconnectHandler c name handler).2.getComponent e T = o.getComponent e T := by
  rw [registerDisconnectHandler]
  split <;> rfl

@[simp] theorem entities_setConnection (connection : Option ConnectionRef) :
    (o.setConnection c connection).entities = o.entities := rfl

@[simp] theorem entities_registerDisconnectHandler (name : String) (handler : DisconnectHandler) :
    (o.registerDisconnectHandler c name handler).2.entities = o.entities := by
  rw [registerDisconnectHandler]
  split <;> rfl

end Objects

end MultiplayerServer
