import MultiplayerServer.Machinery.Runs
import MultiplayerServer.Game.Entity

/-!
# Game/EntityFactory — the registry of entities

The factory makes every entity there is and registers it under its id, a generated one or the
caller's.  `emplace` refuses an id that is taken, and nobody looks at its answer: the entity is made
and returned all the same.

* `coherent_iff` — every entity is found under its own id in exactly the runs in which every entity
  is made with an id that is free.
-/

namespace MultiplayerServer

open Machinery

/-- `UUID`, over the values its generator produces one after the other. -/
structure UUID where
  id : String
  /-- How many values the generator has produced. -/
  drawn : ℕ
  deriving DecidableEq

namespace UUID

/-- The constructor. -/
def construct (generator : ℕ → String) : UUID := { id := generator 0, drawn := 1 }

/-- `get`: what it returns is a reference to `id_`, which by then is the new value. -/
def get (generator : ℕ → String) (u : UUID) : String × UUID :=
  let u : UUID := { id := generator u.drawn, drawn := u.drawn + 1 }
  (u.id, u)

end UUID

/-- `EntityFactory` -/
structure EntityFactory where
  entities : Std.ExtTreeMap String EntityRef := ∅
  uuid : UUID
  deriving DecidableEq

/-- The class an entity is made as, with what its constructor takes besides the id. -/
inductive EntityArgs
  | entity
  | clientEntity
  | serverEntity (type : ServerEntityType) (ip : String) (port : ℤ)
  | loginService (ip : String) (port : ℤ)
  deriving DecidableEq

/-- `make_shared<T>(id, args…)` -/
def Entity.make (id : String) : EntityArgs → Entity
  | .entity => .construct id
  | .clientEntity => .constructClient id
  | .serverEntity type ip port => .constructServer id type ip port
  | .loginService ip port => .constructLogin id ip port

@[simp] theorem Entity.make_id (id : String) (args : EntityArgs) :
    (Entity.make id args).id = id := by
  cases args <;> rfl

/-- The entities and components there are, with the factory that made them.  What is registered is
an entity. -/
structure World where
  objects : Objects
  factory : EntityFactory
  registered_lt : ∀ (id : String) (e : EntityRef), factory.entities[id]? = some e →
    e < objects.entities.length

namespace World

variable (generator : ℕ → String) (w : World)

/-- A factory that has made nothing. -/
def construct : World where
  objects := .empty
  factory := { uuid := .construct generator }
  registered_lt := by simp

/-- `get_entity` -/
def getEntity (id : String) : Option EntityRef := w.factory.entities[id]?

/-- What `generate_id` will return next. -/
def nextId : String := (w.factory.uuid.get generator).1

/-- `generate_id`, with the id. -/
def generateId : String × World :=
  let (id, uuid) := w.factory.uuid.get generator
  (id, { w with factory := { w.factory with uuid := uuid } })

/-- `create_entity_with_id`, with the entity it returns. -/
def createEntityWithId (id : String) (args : EntityArgs) : EntityRef × World :=
  (w.objects.entities.length,
    { objects := w.objects.makeEntity (.make id args)
      factory :=
        { w.factory with entities := w.factory.entities.insertIfNew id w.objects.entities.length }
      registered_lt := fun id' e h => by
        rw [Std.ExtTreeMap.getElem?_insertIfNew] at h
        rw [(Objects.makeEntity_frame _).2.1]
        split at h
        · exact Option.some.inj h ▸ Nat.lt_succ_self _
        · exact Nat.lt_succ_of_lt (w.registered_lt id' e h) })

/-- `create_entity`, with the entity it returns. -/
def createEntity (args : EntityArgs) : EntityRef × World :=
  let (id, w) := w.generateId generator
  w.createEntityWithId id args

variable {generator w} {id id' : String} {args : EntityArgs} {e e' : EntityRef} {entity : Entity}

theorem getEntity_lt (h : w.getEntity id = some e) : e < w.objects.entities.length :=
  w.registered_lt id e h

/-- **Registering an entity** fills the id if it was free, and leaves every other id alone. -/
theorem getEntity_createEntityWithId :
    (w.createEntityWithId id args).2.getEntity id'
      = if id' = id ∧ w.getEntity id = none then some w.objects.entities.length
        else w.getEntity id' := by
  rw [getEntity, createEntityWithId, Std.ExtTreeMap.getElem?_insertIfNew]
  refine if_congr ?_ rfl rfl
  rw [Std.LawfulEqCmp.compare_eq_iff_eq, eq_comm, Std.ExtTreeMap.mem_iff_isSome_getElem?]
  simp [getEntity]

@[simp] theorem createEntityWithId_fst :
    (w.createEntityWithId id args).1 = w.objects.entities.length := rfl

@[simp] theorem entities_createEntityWithId :
    (w.createEntityWithId id args).2.objects.entities
      = w.objects.entities ++ [Entity.make id args] := by
  cases args <;> rfl

theorem createEntity_eq :
    w.createEntity generator args
      = (w.generateId generator).2.createEntityWithId (w.nextId generator) args := rfl

@[simp] theorem generateId_frame :
    (w.generateId generator).2.objects = w.objects
      ∧ (∀ id, (w.generateId generator).2.getEntity id = w.getEntity id) := ⟨rfl, fun _ => rfl⟩

end World

/-! ## The registry over runs -/

/-- A call of the factory. -/
inductive FactoryEvent
  | createEntity (args : EntityArgs)
  | createEntityWithId (id : String) (args : EntityArgs)
  | getEntity (id : String)
  deriving DecidableEq

namespace World

/-- One call. -/
def step (generator : ℕ → String) (w : World) : FactoryEvent → Option World
  | .createEntity args => some (w.createEntity generator args).2
  | .createEntityWithId id args => some (w.createEntityWithId id args).2
  | .getEntity _ => some w

/-- The runs of the factory. -/
def machine (generator : ℕ → String) : Machine World FactoryEvent := ⟨step generator⟩

/-- **The registry is coherent**: every entity that was made is found under its id, so no two of
them share one. -/
structure Coherent (w : World) : Prop where
  found : ∀ {e : EntityRef} {entity : Entity}, w.objects.entities[e]? = some entity →
    w.getEntity entity.id = some e
  distinct : ∀ {e e' : EntityRef} {entity entity' : Entity}, w.objects.entities[e]? = some entity →
    w.objects.entities[e']? = some entity' → entity.id = entity'.id → e = e'

/-- The id an entity is made with is free. -/
def Free (generator : ℕ → String) (w : World) (event : FactoryEvent) (_ : World) : Prop :=
  match event with
  | .createEntity _ => w.getEntity (w.nextId generator) = none
  | .createEntityWithId id _ => w.getEntity id = none
  | .getEntity _ => True

variable {generator : ℕ → String} {w : World} {id : String} {args : EntityArgs} {e : EntityRef}
  {entity : Entity}

theorem coherent_of_found (h : ∀ {e : EntityRef} {entity : Entity},
    w.objects.entities[e]? = some entity → w.getEntity entity.id = some e) : w.Coherent where
  found := h
  distinct he he' hid := Option.some.inj ((h he).symm.trans (hid ▸ h he'))

theorem coherent_construct : (construct generator).Coherent := by
  refine coherent_of_found fun he => ?_
  simp [construct, Objects.empty] at he

/-- Which entities there are after one was made. -/
theorem getElem?_createEntityWithId :
    (w.createEntityWithId id args).2.objects.entities[e]? = some entity
      ↔ w.objects.entities[e]? = some entity
        ∨ e = w.objects.entities.length ∧ entity = Entity.make id args := by
  rw [entities_createEntityWithId]
  rcases Nat.lt_or_ge e w.objects.entities.length with he | he
  · rw [List.getElem?_append_left he]
    simp [Nat.ne_of_lt he]
  · rw [List.getElem?_append_right he, List.getElem?_singleton, List.getElem?_eq_none he]
    rcases Nat.eq_or_lt_of_le he with heq | hlt
    · simp [← heq, eq_comm]
    · simp [Nat.ne_of_gt hlt, Nat.sub_ne_zero_of_lt hlt]

/-- **Making an entity keeps the registry coherent exactly when its id is free.** -/
theorem Coherent.createEntityWithId_iff (h : w.Coherent) :
    (w.createEntityWithId id args).2.Coherent ↔ w.getEntity id = none := by
  constructor
  · intro hc
    by_contra htaken
    have hnew := hc.found (getElem?_createEntityWithId.mpr (Or.inr ⟨rfl, rfl⟩))
    rw [Entity.make_id, getEntity_createEntityWithId, if_neg (htaken ·.2)] at hnew
    exact Nat.lt_irrefl _ (getEntity_lt hnew)
  · intro hfree
    refine coherent_of_found fun he => ?_
    rw [getEntity_createEntityWithId]
    rcases getElem?_createEntityWithId.mp he with hold | ⟨rfl, rfl⟩
    · have hid := h.found hold
      rw [if_neg, hid]
      rintro ⟨heq, -⟩
      rw [heq, hfree] at hid
      cases hid
    · rw [Entity.make_id, if_pos ⟨rfl, hfree⟩]

theorem Coherent.step_iff (h : w.Coherent) {w' : World} {event : FactoryEvent}
    (hstep : (machine generator).step w event = some w') :
    w'.Coherent ↔ Free generator w event w' := by
  cases event with
  | createEntity args =>
    obtain rfl := Option.some.inj hstep
    have hdrawn : (w.generateId generator).2.Coherent := coherent_of_found fun he => h.found he
    exact hdrawn.createEntityWithId_iff
  | createEntityWithId id args =>
    obtain rfl := Option.some.inj hstep
    exact h.createEntityWithId_iff
  | getEntity id =>
    obtain rfl := Option.some.inj hstep
    exact iff_of_true h trivial

end World

open World

/-- **The registry is coherent in exactly the runs that make every entity with a free id**, for any
generator. -/
theorem coherent_iff (generator : ℕ → String) (es : List FactoryEvent) :
    (World.machine generator).Always Coherent (World.construct generator) es
      ↔ (World.machine generator).Along (Free generator) (World.construct generator) es :=
  Machine.always_iff_along Coherent (fun _ h => h) (fun _ _ _ h hstep => (h.step_iff hstep).mpr)
    (fun _ _ _ h hstep => (h.step_iff hstep).mp) coherent_construct

/-- Two entities made with one id. -/
theorem not_coherent_of_taken :
    ¬ (World.machine fun n => String.ofList (List.replicate n 'x')).Always Coherent
      (World.construct fun n => String.ofList (List.replicate n 'x'))
      [.createEntityWithId "a" .entity, .createEntityWithId "a" .entity] := by
  intro h
  have hsame := (h.last rfl).distinct (e := 0) (rfl : _ = some (Entity.make "a" .entity))
    (rfl : _[1]? = some (Entity.make "a" .entity)) rfl
  exact absurd hsame (by decide)

end MultiplayerServer
