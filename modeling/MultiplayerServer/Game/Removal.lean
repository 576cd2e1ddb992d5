import MultiplayerServer.Game.Ownership

/-!
# Game/Removal — three ways to take a component from its entity

`delete_component<T>()`, `delete_component<T>(component)` and `delete_all_components` are written
apart, and only the second resets the owner of what it takes.  In the first the reset has come to
stand after the return: there it is the owner of what was not found that is reset.

* `removalsAgree_iff` — the three agree where something is stored under `T` and nothing the entity
  stores has an owner to be left with.
-/

namespace MultiplayerServer

namespace Objects

variable {o : Objects} {e e' : EntityRef} {T T' : TypeName} {c c' : ComponentRef}

/-- What `e` stores under the keys is taken out and owned by nobody; all else is as it was. -/
structure Removes (o : Objects) (e : EntityRef) (keys : TypeName → Prop) (o' : Objects) : Prop where
  taken : ∀ T, keys T → o'.getComponent e T = none
  orphaned : ∀ T c, keys T → o.getComponent e T = some c → o'.getOwner c = none
  stored : ∀ e' T, ¬ (e' = e ∧ keys T) → o'.getComponent e' T = o.getComponent e' T
  components : ∀ c, (∀ T, keys T → o.getComponent e T ≠ some c) →
    o'.components[c]? = o.components[c]?
  entities : ∀ e', e' ≠ e → o'.entities[e']? = o.entities[e']?
  self : o'.entities[e]?.map (fun entity => { entity with components := ∅ })
    = o.entities[e]?.map (fun entity => { entity with components := ∅ })
  defined : o'.undefined = o.undefined

/-- **The routes agree**: the same is done for a type and for the component stored under it, each
route removes what it names and no more, and nothing is done where nothing is stored. -/
structure RemovalsAgree (o : Objects) (e : EntityRef) (T : TypeName) : Prop where
  agree : ∀ c, o.getComponent e T = some c → o.deleteComponent e T = o.deleteGivenComponent e T c
  byType : ∀ c, o.getComponent e T = some c → Removes o e (· = T) (o.deleteComponent e T).2
  given : ∀ c, o.getComponent e T = some c → Removes o e (· = T) (o.deleteGivenComponent e T c).2
  all : Removes o e (fun _ => True) (o.deleteAllComponents e)
  absent : o.getComponent e T = none →
    o.deleteComponent e T = (false, o) ∧ ∀ c, o.deleteGivenComponent e T c = (false, o)

/-! ## What the writes leave alone -/

theorem getElem?_entities_updateMap {f : ComponentMap → ComponentMap}
    {hf : ∀ (m : ComponentMap) (T : TypeName) (c : ComponentRef),
      (f m)[T]? = some c → m[T]? = some c ∨ c < o.components.length} (he : e' ≠ e) :
    (o.updateMap e f hf).entities[e']? = o.entities[e']? :=
  List.getElem?_modify_ne _ _ (Ne.symm he)

theorem map_entities_updateMap {f : ComponentMap → ComponentMap}
    {hf : ∀ (m : ComponentMap) (T : TypeName) (c : ComponentRef),
      (f m)[T]? = some c → m[T]? = some c ∨ c < o.components.length} :
    (o.updateMap e f hf).entities[e]?.map (fun entity => { entity with components := ∅ })
      = o.entities[e]?.map (fun entity => { entity with components := ∅ }) := by
  rw [updateMap, List.getElem?_modify_eq]
  rcases o.entities[e]? with _ | entity <;> rfl

theorem getElem?_updateComponent_ne {f : Component → Component} (hc : c' ≠ c) :
    (o.updateComponent c f).components[c']? = o.components[c']? :=
  List.getElem?_modify_ne _ _ (Ne.symm hc)

/-- A change that changes nothing. -/
theorem modify_eq_self {α : Type*} {l : List α} {i : ℕ} {f : α → α}
    (h : ∀ a, l[i]? = some a → f a = a) : l.modify i f = l := by
  refine List.ext_getElem? fun j => ?_
  rw [List.getElem?_modify]
  by_cases hij : i = j
  · subst hij
    rcases ha : l[i]? with _ | a
    · rfl
    · simp [h a ha]
  · simp [hij]

/-- A component without an owner is left as it is by a reset of it. -/
theorem updateComponentOwner_none (h : o.getOwner c = none) :
    o.updateComponentOwner c none = o := by
  have hcomponents : o.components.modify c (fun component => { component with owner := none })
      = o.components := modify_eq_self fun component hc => by
    rw [getOwner, hc, Option.bind_some] at h
    rw [← h]
  rcases o with ⟨entities, components, undefined, stored⟩
  simp only [updateComponentOwner, updateComponent, mk.injEq, true_and, and_true]
  exact hcomponents

/-! ## The routes -/

theorem deleteComponent_of_stored (h : o.getComponent e T = some c) :
    o.deleteComponent e T = (true, o.erase e T) := if_pos (by rw [h]; rfl)

theorem deleteComponent_of_free (h : o.getComponent e T = none) :
    o.deleteComponent e T = (false, o.readPastEnd) := if_neg (by rw [h]; simp)

theorem deleteGivenComponent_of_stored (h : o.getComponent e T = some c) :
    o.deleteGivenComponent e T c = (true, (o.erase e T).updateComponentOwner c none) := if_pos h

/-- **`delete_component<T>()` leaves the component its owner.** -/
theorem removes_erase_iff (h : o.getComponent e T = some c) :
    Removes o e (· = T) (o.erase e T) ↔ o.getOwner c = none := by
  constructor
  · intro hr
    exact getOwner_erase.symm.trans (hr.orphaned T c rfl h)
  · intro howner
    refine ⟨?_, ?_, ?_, fun _ _ => rfl, fun e' he => getElem?_entities_updateMap he,
      map_entities_updateMap, rfl⟩
    · rintro _ rfl
      rw [getComponent_erase, if_pos ⟨rfl, rfl⟩]
    · rintro _ c' rfl hc'
      obtain rfl := Option.some.inj (h.symm.trans hc')
      rw [getOwner_erase, howner]
    · intro e' T' hne
      rw [getComponent_erase, if_neg hne]

/-- **`delete_component<T>(component)` removes the component.** -/
theorem removes_deleteGiven (h : o.getComponent e T = some c) :
    Removes o e (· = T) ((o.erase e T).updateComponentOwner c none) := by
  have hentities : ((o.erase e T).updateComponentOwner c none).entities = (o.erase e T).entities :=
    (updateComponentOwner_frame _).1
  refine ⟨?_, ?_, ?_, ?_, fun e' he => ?_, ?_, rfl⟩
  · rintro _ rfl
    rw [getComponent_updateComponentOwner, getComponent_erase, if_pos ⟨rfl, rfl⟩]
  · rintro _ c' rfl hc'
    obtain rfl := Option.some.inj (h.symm.trans hc')
    rw [getOwner_updateComponentOwner _ (by simpa using getComponent_lt h), if_pos rfl]
  · intro e' T' hne
    rw [getComponent_updateComponentOwner, getComponent_erase, if_neg hne]
  · intro c' hc'
    exact getElem?_updateComponent_ne fun heq => hc' T rfl (heq ▸ h)
  · rw [hentities]
    exact getElem?_entities_updateMap he
  · rw [hentities]
    exact map_entities_updateMap

/-- What an entity stores is stored under something. -/
theorem exists_of_mem_stored (h : c ∈ o.stored e) : ∃ T, o.getComponent e T = some c := by
  rw [Objects.stored] at h
  rcases hentity : o.entities[e]? with _ | entity
  · simp [hentity] at h
  · rw [hentity, Option.elim_some] at h
    obtain ⟨p, hp, rfl⟩ := List.mem_map.mp h
    exact ⟨p.1, getComponent_of_mem_toList hentity hp⟩

/-- `before_destruct` is called of these components and of no others. -/
theorem foldl_beforeDestruct_frame (cs : List ComponentRef) :
    (cs.foldl beforeDestruct o).entities = o.entities
      ∧ ∀ c ∉ cs, (cs.foldl beforeDestruct o).components[c]? = o.components[c]? := by
  induction cs generalizing o with
  | nil => exact ⟨rfl, fun _ _ => rfl⟩
  | cons c cs ih =>
    obtain ⟨hentities, hcomponents⟩ := ih (o := o.beforeDestruct c)
    refine ⟨hentities, fun c' hc' => (hcomponents c' (List.not_mem_of_not_mem_cons hc')).trans ?_⟩
    exact getElem?_updateComponent_ne (List.ne_of_not_mem_cons hc')

/-- **`delete_all_components` leaves every component its owner.** -/
theorem removes_deleteAll_iff :
    Removes o e (fun _ => True) (o.deleteAllComponents e)
      ↔ ∀ T c, o.getComponent e T = some c → o.getOwner c = none := by
  obtain ⟨hdef, hheld, howner⟩ := foldl_beforeDestruct (o := o) (o.stored e)
  obtain ⟨hentities, hcomponents⟩ := foldl_beforeDestruct_frame (o := o) (o.stored e)
  have hleft (c : ComponentRef) : (o.deleteAllComponents e).getOwner c = o.getOwner c := howner c
  constructor
  · intro hr T c hc
    exact (hleft c).symm.trans (hr.orphaned T c trivial hc)
  · intro howners
    refine ⟨fun T _ => ?_, fun T c _ hc => (hleft c).trans (howners T c hc), fun e' T hne => ?_,
      fun c hc => ?_, fun e' he => ?_, ?_, hdef⟩
    · rw [deleteAllComponents, getComponent_clear, if_pos rfl]
    · rw [deleteAllComponents, getComponent_clear, if_neg fun he => hne ⟨he, trivial⟩, hheld]
    · refine hcomponents c fun hmem => ?_
      obtain ⟨T, hstored⟩ := exists_of_mem_stored hmem
      exact hc T trivial hstored
    · rw [← hentities]
      exact getElem?_entities_updateMap he
    · rw [← hentities]
      exact map_entities_updateMap

end Objects

open Objects

/-- **The routes agree exactly where something is stored under the type and nothing the entity
stores has an owner**, whatever else there is. -/
theorem removalsAgree_iff {o : Objects} (h : o.undefined = false) (e : EntityRef) (T : TypeName) :
    RemovalsAgree o e T ↔ (o.getComponent e T).isSome
      ∧ ∀ T c, o.getComponent e T = some c → o.getOwner c = none := by
  constructor
  · intro hagree
    refine ⟨?_, removes_deleteAll_iff.mp hagree.all⟩
    by_contra hnone
    have hfree : o.getComponent e T = none := by simpa using hnone
    have hread := (hagree.absent hfree).1
    rw [deleteComponent_of_free hfree] at hread
    have hundefined := congrArg (fun result => result.2.undefined) hread
    simp [readPastEnd, h] at hundefined
  · rintro ⟨hsome, howners⟩
    obtain ⟨c, hc⟩ := Option.isSome_iff_exists.mp hsome
    refine ⟨fun c' hc' => ?_, fun c' hc' => ?_, fun c' hc' => ?_, removes_deleteAll_iff.mpr howners,
      fun hfree => by simp [hfree] at hsome⟩
    · rw [deleteComponent_of_stored hc', deleteGivenComponent_of_stored hc',
        updateComponentOwner_none (getOwner_erase.trans (howners T c' hc'))]
    · rw [deleteComponent_of_stored hc']
      exact (removes_erase_iff hc').mpr (howners T c' hc')
    · rw [deleteGivenComponent_of_stored hc']
      exact removes_deleteGiven hc'

/-- An entity with a component that was added to it. -/
theorem removalsAgree_iff_added :
    RemovalsAgree ((Objects.empty.makeEntity (.construct "a")).addComponent 0 networkComponent).2 0
        networkComponent
      ↔ (((Objects.empty.makeEntity (.construct "a")).addComponent 0
          networkComponent).2.getComponent 0 networkComponent).isSome
        ∧ ∀ T c, ((Objects.empty.makeEntity (.construct "a")).addComponent 0
          networkComponent).2.getComponent 0 T = some c →
          ((Objects.empty.makeEntity (.construct "a")).addComponent 0 networkComponent).2.getOwner c
            = none :=
  removalsAgree_iff rfl 0 networkComponent

theorem not_removalsAgree_of_added :
    ¬ RemovalsAgree ((Objects.empty.makeEntity (.construct "a")).addComponent 0
      networkComponent).2 0 networkComponent := by
  intro h
  have horphaned := (h.byType 0 (by decide)).orphaned networkComponent 0 rfl (by decide)
  revert horphaned
  decide

end MultiplayerServer
