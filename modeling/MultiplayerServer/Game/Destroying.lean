import MultiplayerServer.Game.LoginService

/-!
# Game/Destroying — what is left of an entity that is destroyed

`destroy_entity` erases the entry it has found and goes on to read it: the count of an entity that
is registered is taken from memory that has been given back, and that of one that is not from past
the end of the map.

* `not_destroys` — so no call of it is defined, whatever is read there;
* `getEntity_destroyEntity` — what it does to the registry is right.
-/

namespace MultiplayerServer

namespace Objects

variable (o : Objects)

/-- `set_validate` -/
def setValidate (e : EntityRef) (validate : Bool) : Objects where
  entities := o.entities.modify e fun entity => { entity with validate := validate }
  components := o.components
  undefined := o.undefined
  stored_lt e' T c h := by
    refine o.stored_lt e' T c ?_
    rw [List.getElem?_modify] at h
    rcases hentity : o.entities[e']? with _ | entity
    · simp [hentity] at h
    · by_cases he : e = e' <;> simpa [hentity, he] using h

end Objects

/-- What is read as a `shared_ptr` where there is none any more: an entity, and how many own it. -/
structure StalePtr where
  entity : EntityRef
  useCount : ℕ
  deriving DecidableEq

namespace World

variable (w : World)

/-- `entities_.erase(iter)` -/
def eraseEntity (id : String) : World where
  objects := w.objects
  factory := { w.factory with entities := w.factory.entities.erase id }
  registered_lt id' e h := by
    rw [Std.ExtTreeMap.getElem?_erase] at h
    split at h
    · cases h
    · exact w.registered_lt id' e h

/-- `destroy_entity`; `stale` is what `iter->second` is, once it is read through the iterator of an
entry that has been erased, or through `end()`.  Resetting that pointer changes nothing here. -/
def destroyEntity (stale : StalePtr) (id : String) : World :=
  let w := if (w.getEntity id).isSome then w.eraseEntity id else w
  let w := w.withObjects w.objects.readPastEnd rfl
  if stale.useCount = 1 then w
  else if stale.useCount > 1 then
    w.withObjects (w.objects.setValidate stale.entity false) (List.length_modify _ _ _)
  else w

/-- **An entity is destroyed**: it is found under its id no longer, and nothing else is lost;
whoever holds it finds it invalid, and nobody does if nobody did but the factory.  `outside` counts
the pointers to it that are not the factory's. -/
structure Destroys (outside : EntityRef → ℕ) (w : World) (id : String) (w' : World) : Prop where
  defined : w'.objects.undefined = false
  gone : w'.getEntity id = none
  others : ∀ id', id' ≠ id → w'.getEntity id' = w.getEntity id'
  invalid : ∀ e, w.getEntity id = some e → 0 < outside e →
    ∀ entity, w'.objects.entities[e]? = some entity → entity.validate = false
  released : ∀ e, w.getEntity id = some e → outside e = 0 → ∀ id', w'.getEntity id' ≠ some e
  unregistered : w.getEntity id = none → w' = w

variable {w} {stale : StalePtr} {id id' : String}

@[simp] theorem getEntity_eraseEntity :
    (w.eraseEntity id).getEntity id' = if id' = id then none else w.getEntity id' := by
  rw [getEntity, eraseEntity, Std.ExtTreeMap.getElem?_erase]
  refine if_congr ?_ rfl rfl
  rw [Std.LawfulEqCmp.compare_eq_iff_eq, eq_comm]

/-- **The registry loses the id**, and nothing else. -/
theorem getEntity_destroyEntity (w : World) (stale : StalePtr) (id id' : String) :
    (w.destroyEntity stale id).getEntity id' = if id' = id then none else w.getEntity id' := by
  have herased : (if (w.getEntity id).isSome then w.eraseEntity id else w).getEntity id'
      = if id' = id then none else w.getEntity id' := by
    split
    · exact getEntity_eraseEntity
    · rename_i hnone
      split
      · rename_i heq
        simpa [heq] using hnone
      · rfl
  rw [← herased, destroyEntity]
  split
  · rfl
  · split <;> rfl

theorem undefined_destroyEntity (w : World) (stale : StalePtr) (id : String) :
    (w.destroyEntity stale id).objects.undefined = true := by
  rw [destroyEntity]
  split
  · rfl
  · split <;> rfl

end World

open World

/-- **No entity is destroyed as it should be**: every call reads what is not there. -/
theorem not_destroys (outside : EntityRef → ℕ) (w : World) (stale : StalePtr) (id : String) :
    ¬ Destroys outside w id (w.destroyEntity stale id) := by
  intro h
  have hdefined := h.defined
  rw [undefined_destroyEntity] at hdefined
  cases hdefined

/-- The only entity there is, held by nobody else, with its entry read as it was. -/
theorem not_destroys_of_registered :
    ¬ Destroys (fun _ => 0)
      ((World.construct fun n => String.ofList (List.replicate n 'x')).createEntityWithId "a"
        .entity).2 "a"
      (((World.construct fun n => String.ofList (List.replicate n 'x')).createEntityWithId "a"
        .entity).2.destroyEntity ⟨0, 1⟩ "a") := by
  intro h
  have hdefined := h.defined
  revert hdefined
  decide

end MultiplayerServer
