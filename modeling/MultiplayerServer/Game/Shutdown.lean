import Mathlib.Tactic.Ring
import MultiplayerServer.Machinery.Slots
import MultiplayerServer.Game.LoginService
import MultiplayerServer.Game.Removal

/-!
# Game/Shutdown — how often a component is shut down

`delete_all_components`, which `before_destruct` and the destructor of an entity come down to, calls
`before_destruct` of every component it drops, once for every key it finds it under; neither
`delete_component` calls it at all, and `attach_component` leaves what it attaches where it was.  So
a component is shut down once for every time it was put into an entity, less the times it was
deleted from one.

* `shutDownOnce_iff` — the last entity to drop a component leaves it shut down exactly once in the
  runs where it was put into entities once more than it was deleted from them, and nothing is
  deleted by a type there is nothing under, where `delete_component` reads past the end of the map;
* `along_shutDownOnce` — in particular where nothing is deleted or attached a second time.
-/

namespace MultiplayerServer

open Machinery

namespace Objects

/-- How often `before_destruct` of `c` was called. -/
def beforeDestructs (o : Objects) (c : ComponentRef) : ℕ :=
  o.components[c]?.elim 0 fun component => component.beforeDestructs

/-- `before_destruct` of an entity. -/
def beforeDestructEntity (o : Objects) (e : EntityRef) : Objects := o.deleteAllComponents e

/-- The destructor of an entity: no class overrides `before_destruct`. -/
def destructEntity (o : Objects) (e : EntityRef) : Objects := o.beforeDestructEntity e

end Objects

open Objects

/-! ## Runs -/

/-- The entity a call is made on. -/
def OwnershipEvent.target : OwnershipEvent → Option EntityRef
  | .makeEntity _ => none
  | .makeComponent _ _ => none
  | .addComponent e _ => some e
  | .attachComponent e _ _ => some e
  | .deleteComponent e _ => some e
  | .deleteGivenComponent e _ _ => some e
  | .deleteAllComponents e => some e
  | .initComponents e _ => some e

/-- The component a call puts into an entity, if it does. -/
def OwnershipEvent.placed (o : Objects) : OwnershipEvent → List ComponentRef
  | .addComponent e T => if o.getComponent e T = none then [o.components.length] else []
  | .attachComponent e T c => if o.getComponent e T = none then [c] else []
  | .initComponents e names =>
    if "NetworkComponent" ∈ names ∧ o.getComponent e networkComponent = none then
      [o.components.length]
    else []
  | _ => []

/-- The component a `delete_component` takes out of an entity, if it does. -/
def OwnershipEvent.deleted (o : Objects) : OwnershipEvent → List ComponentRef
  | .deleteComponent e T => (o.getComponent e T).toList
  | .deleteGivenComponent e T c => if o.getComponent e T = some c then [c] else []
  | _ => []

/-- A call, or what happens at the end of an entity. -/
inductive ShutdownEvent
  | call (event : OwnershipEvent)
  | beforeDestruct (e : EntityRef)
  | destroy (e : EntityRef)
  deriving DecidableEq

/-- The components an event puts into an entity. -/
def ShutdownEvent.placed (o : Objects) : ShutdownEvent → List ComponentRef
  | .call event => event.placed o
  | _ => []

/-- The components an event deletes from one. -/
def ShutdownEvent.deleted (o : Objects) : ShutdownEvent → List ComponentRef
  | .call event => event.deleted o
  | _ => []

/-- The objects, the entities that are no more, and a record of what was put into entities and
deleted from them. -/
structure Holdings where
  objects : Objects
  destroyed : List EntityRef := []
  placed : List ComponentRef := []
  deleted : List ComponentRef := []

namespace Holdings

/-- What is held where. -/
abbrev held (r : Holdings) : EntityRef → TypeName → Option ComponentRef := r.objects.getComponent

/-- An entity that calls can still be made on. -/
def Alive (r : Holdings) (e : EntityRef) : Prop :=
  r.objects.undefined = false ∧ e < r.objects.entities.length ∧ e ∉ r.destroyed

instance (r : Holdings) (e : EntityRef) : Decidable (r.Alive e) :=
  inferInstanceAs (Decidable (_ ∧ _))

/-- The runs of entities and their components, the ends of the entities included.  A step that reads
past the end of a map is taken, and is the last. -/
def machine (derives : TypeName → TypeName → Bool) : Machine Holdings ShutdownEvent where
  step r
    | .call event =>
      if event.target.any fun e => decide (e ∈ r.destroyed) then none
      else
        ((Objects.machine derives).step r.objects event).map fun o =>
          { r with
            objects := o
            placed := r.placed ++ event.placed r.objects
            deleted := r.deleted ++ event.deleted r.objects }
    | .beforeDestruct e =>
      if r.Alive e then some { r with objects := r.objects.beforeDestructEntity e } else none
    | .destroy e =>
      if r.Alive e then
        some { r with objects := r.objects.destructEntity e, destroyed := e :: r.destroyed }
      else none

/-- Nothing yet. -/
def start : Holdings := { objects := .empty }

/-- A component the step drops: held before, and nowhere after. -/
def Drops (r r' : Holdings) (c : ComponentRef) : Prop := ¬ Loose r.held c ∧ Loose r'.held c

/-- **What is dropped was shut down**, exactly once; and nothing undefined is done. -/
structure ShutDownOnce (r : Holdings) (_ : ShutdownEvent) (r' : Holdings) : Prop where
  defined : r'.objects.undefined = false
  once : ∀ c, r.Drops r' c → r'.objects.beforeDestructs c = 1

/-- What is deleted by its type is there. -/
def DeletesStored (r : Holdings) (event : ShutdownEvent) : Prop :=
  ∀ e T, event = .call (.deleteComponent e T) → (r.held e T).isSome

/-- What is dropped was put into entities once more than it was deleted from them, and what is
deleted by its type is there. -/
structure PlacedOnceMore (r : Holdings) (event : ShutdownEvent) (r' : Holdings) : Prop where
  deletes : r.DeletesStored event
  onceMore : ∀ c, r.Drops r' c → r'.placed.count c = r'.deleted.count c + 1

/-- **The books**: every time a component was put into an entity it is held still, was deleted, or
was shut down. -/
def Balanced (r : Holdings) : Prop :=
  ∀ c, ((r.objects.beforeDestructs c + r.deleted.count c : ℕ) : ℕ∞) + slots r.held c
    = (r.placed.count c : ℕ∞)

end Holdings

/-! ## What the writes count -/

namespace Objects

variable {o : Objects} {e : EntityRef} {T : TypeName} {c c' : ComponentRef}

@[simp] theorem beforeDestructs_makeEntity (entity : Entity) :
    (o.makeEntity entity).beforeDestructs c = o.beforeDestructs c := rfl

/-- A component just made has not been shut down. -/
theorem beforeDestructs_makeComponent (T : TypeName) (owner : Option EntityRef) :
    (o.makeComponent { typeName := T, owner := owner }).beforeDestructs c
      = o.beforeDestructs c := by
  rw [beforeDestructs, beforeDestructs, makeComponent]
  rcases Nat.lt_or_ge c o.components.length with hc | hc
  · rw [List.getElem?_append_left hc]
  · rw [List.getElem?_append_right hc, List.getElem?_singleton, List.getElem?_eq_none hc]
    split <;> rfl

@[simp] theorem beforeDestructs_updateMap {f : ComponentMap → ComponentMap}
    {hf : ∀ (m : ComponentMap) (T : TypeName) (c : ComponentRef),
      (f m)[T]? = some c → m[T]? = some c ∨ c < o.components.length} :
    (o.updateMap e f hf).beforeDestructs c = o.beforeDestructs c := rfl

@[simp] theorem beforeDestructs_updateComponentOwner (owner : Option EntityRef) :
    (o.updateComponentOwner c' owner).beforeDestructs c = o.beforeDestructs c := by
  rw [beforeDestructs, beforeDestructs, updateComponentOwner, updateComponent,
    List.getElem?_modify]
  cases o.components[c]? with
  | none => rfl
  | some component =>
    rw [Option.map_eq_map, Option.map_some]
    split <;> rfl

theorem beforeDestructs_beforeDestruct (hc : c' < o.components.length) :
    (o.beforeDestruct c').beforeDestructs c = o.beforeDestructs c + if c' = c then 1 else 0 := by
  rw [beforeDestructs, beforeDestructs, beforeDestruct, updateComponent, List.getElem?_modify]
  by_cases h : c' = c
  · subst h
    simp [List.getElem?_eq_getElem hc]
  · cases o.components[c]? <;> simp [h]

/-- `before_destruct` of a list of components is called of each as often as it is listed. -/
theorem beforeDestructs_foldl {cs : List ComponentRef}
    (hcs : ∀ c ∈ cs, c < o.components.length) :
    (cs.foldl beforeDestruct o).beforeDestructs c = o.beforeDestructs c + cs.count c := by
  induction cs generalizing o with
  | nil => simp
  | cons c' cs ih =>
    have hlen : (o.beforeDestruct c').components.length = o.components.length :=
      (updateComponent_frame _).2.1
    rw [List.foldl_cons, ih fun d hd => hlen ▸ hcs d (List.mem_cons_of_mem _ hd),
      beforeDestructs_beforeDestruct (hcs c' List.mem_cons_self), List.count_cons, beq_eq_decide]
    simp only [decide_eq_true_eq]
    omega

/-- **What an entity walks is its slots**: a component comes up once for every key. -/
theorem slotsAt_eq_count : slotsAt o.getComponent e c = ((o.stored e).count c : ℕ∞) := by
  rw [slotsAt, stored]
  cases hentity : o.entities[e]? with
  | none => simp [getComponent, hentity]
  | some entity =>
    have hkeys : (entity.components.toList.map Prod.fst).Nodup := by
      rw [List.nodup_iff_pairwise_ne, List.pairwise_map]
      exact entity.components.distinct_keys_toList.imp fun h heq =>
        h (by rw [heq, Std.compare_self])
    have hset : {T : TypeName | o.getComponent e T = some c}
        = ((entity.components.toList.filter fun p => p.2 = c).map Prod.fst).toFinset := by
      ext T
      simp [getComponent, hentity, Std.ExtTreeMap.mem_toList_iff_getElem?_eq_some]
    have hnodup : ((entity.components.toList.filter fun p => p.2 = c).map Prod.fst).Nodup :=
      hkeys.sublist (List.filter_sublist.map _)
    rw [hset, Set.encard_coe_eq_coe_finsetCard, List.toFinset_card_of_nodup hnodup,
      List.length_map, Option.elim_some, List.count, List.countP_map, List.countP_eq_length_filter]
    rfl

/-- **Clearing an entity** shuts down every component once for each slot it gives up. -/
theorem deleteAllComponents_balance :
    ((o.deleteAllComponents e).beforeDestructs c : ℕ∞)
        + slots (o.deleteAllComponents e).getComponent c
      = o.beforeDestructs c + slots o.getComponent c := by
  have hstored : ∀ d ∈ o.stored e, d < o.components.length := fun d hd =>
    getComponent_lt (exists_of_mem_stored hd).choose_spec
  have hcount : (o.deleteAllComponents e).beforeDestructs c
      = o.beforeDestructs c + (o.stored e).count c := beforeDestructs_foldl hstored
  have hslots : slots o.getComponent c = slots (o.deleteAllComponents e).getComponent c
      + slotsAt o.getComponent e c := by
    refine slots_clear fun e' T => ?_
    rw [deleteAllComponents, getComponent_clear, (foldl_beforeDestruct _).2.1]
  rw [hcount, hslots, slotsAt_eq_count, Nat.cast_add, add_assoc, add_comm (slots _ _)]

/-- **Emplacing** makes one slot, and shuts nothing down. -/
theorem slots_emplace (d : ComponentRef) (hc : c < o.components.length)
    (he : e < o.entities.length) (hfree : o.getComponent e T = none) :
    slots (o.emplace e T c hc).getComponent d
      = slots o.getComponent d + ([c].count d : ℕ∞) := by
  rw [slots_put hfree fun e' T' => getComponent_emplace hc he hfree, List.count_singleton]
  by_cases h : d = c
  · simp [h]
  · simp [h, Ne.symm h]

/-- **Erasing** gives one slot up, and shuts nothing down. -/
theorem slots_erase (d : ComponentRef) (h : o.getComponent e T = some c) :
    slots o.getComponent d = slots (o.erase e T).getComponent d + ([c].count d : ℕ∞) := by
  rw [slots_remove h fun e' T' => getComponent_erase, List.count_singleton]
  by_cases h : d = c
  · simp [h]
  · simp [h, Ne.symm h]

/-- What one call does to the books: hooks and deletions and slots go up by what it puts in. -/
def Balances (o : Objects) (event : OwnershipEvent) (o' : Objects) : Prop :=
  ∀ c, ((o'.beforeDestructs c + (event.deleted o).count c : ℕ) : ℕ∞) + slots o'.getComponent c
    = ((o.beforeDestructs c + (event.placed o).count c : ℕ) : ℕ∞) + slots o.getComponent c

theorem balances_addComponent (he : e < o.entities.length) (T : TypeName) :
    o.Balances (.addComponent e T) (o.addComponent e T).2 := by
  intro c
  cases h : o.getComponent e T with
  | some d =>
    rw [addComponent_of_stored h]
    simp [OwnershipEvent.placed, OwnershipEvent.deleted, h]
  | none =>
    rw [addComponent_of_free h]
    have hfree : (o.makeComponent { typeName := T, owner := some e }).getComponent e T = none := h
    have hslots := slots_emplace c (lt_makeComponent _) (by simpa using he) hfree
    have hcount : ((o.makeComponent { typeName := T, owner := some e }).emplace e T
        o.components.length (lt_makeComponent _)).beforeDestructs c = o.beforeDestructs c :=
      beforeDestructs_makeComponent T (some e)
    simp only [OwnershipEvent.placed, OwnershipEvent.deleted, h, if_true, List.count_nil, add_zero]
    rw [hslots, hcount]
    push_cast
    exact (add_assoc _ _ _).symm.trans (add_right_comm _ _ _)

theorem balances_attachComponent (he : e < o.entities.length) (hc : c < o.components.length) :
    o.Balances (.attachComponent e T c) (o.attachComponent e T c hc).2 := by
  intro c'
  simp only [OwnershipEvent.placed, OwnershipEvent.deleted, Objects.attachComponent]
  split
  · rename_i hsome
    rw [if_neg fun hnone => by simp [hnone] at hsome]
  · rename_i hnone
    have hnone : o.getComponent e T = none := by simpa using hnone
    have hfree : (o.updateComponentOwner c (some e)).getComponent e T = none := hnone
    have hslots := slots_emplace c' (by simpa using hc) (by simpa using he) hfree
    have hcount : ((o.updateComponentOwner c (some e)).emplace e T c
        (by simpa using hc)).beforeDestructs c' = o.beforeDestructs c' :=
      beforeDestructs_updateComponentOwner (some e)
    rw [hslots, hcount, if_pos hnone, List.count_nil, add_zero]
    push_cast
    exact (add_assoc _ _ _).symm.trans (add_right_comm _ _ _)

theorem balances_deleteComponent :
    o.Balances (.deleteComponent e T) (o.deleteComponent e T).2 := by
  intro c
  cases h : o.getComponent e T with
  | some d =>
    have hslots := slots_erase c h
    rw [deleteComponent_of_stored h, hslots]
    simp only [OwnershipEvent.placed, OwnershipEvent.deleted, h, Option.toList_some,
      List.count_nil, add_zero]
    rw [Nat.cast_add, add_assoc, add_comm (slots _ _)]
    rfl
  | none =>
    rw [deleteComponent_of_free h]
    simp only [OwnershipEvent.placed, OwnershipEvent.deleted, h, Option.toList_none]
    rfl

theorem balances_deleteGivenComponent :
    o.Balances (.deleteGivenComponent e T c) (o.deleteGivenComponent e T c).2 := by
  intro c'
  simp only [OwnershipEvent.placed, OwnershipEvent.deleted, Objects.deleteGivenComponent]
  split
  · rename_i h
    have hcount : ((o.erase e T).updateComponentOwner c none).beforeDestructs c'
        = o.beforeDestructs c' := beforeDestructs_updateComponentOwner none
    have hslots := slots_erase c' h
    rw [hcount, hslots, List.count_nil, add_zero, Nat.cast_add, add_assoc, add_comm (slots _ _)]
    rfl
  · rfl

theorem balances_initComponents (he : e < o.entities.length) (names : List String) :
    o.Balances (.initComponents e names) (o.initComponents e names) := by
  intro c
  rw [initComponents_eq he]
  simp only [OwnershipEvent.placed, OwnershipEvent.deleted]
  split
  · rename_i hmem
    simp only [hmem, true_and]
    exact balances_addComponent he networkComponent c
  · rename_i hmem
    rw [if_neg fun h => hmem h.1]

/-- **Every call keeps the books.** -/
theorem balances_call {derives : TypeName → TypeName → Bool} {o' : Objects}
    {event : OwnershipEvent} (h : o.call derives event = some o') : o.Balances event o' := by
  cases event with
  | makeEntity entity =>
    obtain rfl := Option.some.inj h
    intro c
    rw [slots_congr fun _ _ => getComponent_makeEntity entity]
    rfl
  | makeComponent T owner =>
    obtain rfl := Option.some.inj h
    intro c
    rw [slots_congr fun _ _ => getComponent_makeComponent _, beforeDestructs_makeComponent]
    rfl
  | addComponent e T =>
    obtain ⟨he, h⟩ := Option.ite_none_right_eq_some.mp h
    obtain rfl := Option.some.inj h
    exact balances_addComponent he T
  | attachComponent e T c =>
    simp only [call] at h
    split_ifs at h with hc he
    obtain rfl := Option.some.inj h
    exact balances_attachComponent he _
  | deleteComponent e T =>
    obtain ⟨-, h⟩ := Option.ite_none_right_eq_some.mp h
    obtain rfl := Option.some.inj h
    exact balances_deleteComponent
  | deleteGivenComponent e T c =>
    obtain ⟨-, h⟩ := Option.ite_none_right_eq_some.mp h
    obtain rfl := Option.some.inj h
    exact balances_deleteGivenComponent
  | deleteAllComponents e =>
    obtain ⟨-, h⟩ := Option.ite_none_right_eq_some.mp h
    obtain rfl := Option.some.inj h
    exact fun c => deleteAllComponents_balance
  | initComponents e names =>
    obtain ⟨he, h⟩ := Option.ite_none_right_eq_some.mp h
    obtain rfl := Option.some.inj h
    exact balances_initComponents he names

theorem undefined_addComponent : (o.addComponent e T).2.undefined = o.undefined := by
  rw [Objects.addComponent]
  split <;> simp

theorem undefined_deleteAllComponents : (o.deleteAllComponents e).undefined = o.undefined :=
  (foldl_beforeDestruct (o.stored e)).1

/-- A call does nothing undefined, if it is not to delete by a type… -/
theorem undefined_call {derives : TypeName → TypeName → Bool} {o' : Objects}
    {event : OwnershipEvent} (hne : ∀ e T, event ≠ .deleteComponent e T)
    (h : o.call derives event = some o') : o'.undefined = o.undefined := by
  cases event with
  | makeEntity entity | makeComponent T owner =>
    obtain rfl := Option.some.inj h
    rfl
  | addComponent e T =>
    obtain ⟨-, h⟩ := Option.ite_none_right_eq_some.mp h
    obtain rfl := Option.some.inj h
    exact undefined_addComponent
  | attachComponent e T c =>
    simp only [call] at h
    split_ifs at h with hc he
    obtain rfl := Option.some.inj h
    rw [Objects.attachComponent]
    split <;> simp
  | deleteComponent e T => exact absurd rfl (hne e T)
  | deleteGivenComponent e T c =>
    obtain ⟨-, h⟩ := Option.ite_none_right_eq_some.mp h
    obtain rfl := Option.some.inj h
    rw [Objects.deleteGivenComponent]
    split <;> simp
  | deleteAllComponents e =>
    obtain ⟨-, h⟩ := Option.ite_none_right_eq_some.mp h
    obtain rfl := Option.some.inj h
    exact undefined_deleteAllComponents
  | initComponents e names =>
    obtain ⟨he, h⟩ := Option.ite_none_right_eq_some.mp h
    obtain rfl := Option.some.inj h
    rw [initComponents_eq he]
    split
    · exact undefined_addComponent
    · rfl

/-- …that there is nothing under: **that is what it takes of a call to be defined**. -/
theorem defined_call {derives : TypeName → TypeName → Bool} {o' : Objects} {event : OwnershipEvent}
    (hdef : o.undefined = false) (h : o.call derives event = some o') :
    o'.undefined = false
      ↔ ∀ e T, event = .deleteComponent e T → (o.getComponent e T).isSome := by
  by_cases hne : ∀ e T, event ≠ .deleteComponent e T
  · exact iff_of_true ((undefined_call hne h).trans hdef) fun e T he => absurd he (hne e T)
  simp only [not_forall, not_not] at hne
  obtain ⟨e, T, rfl⟩ := hne
  obtain ⟨-, h⟩ := Option.ite_none_right_eq_some.mp h
  obtain rfl := Option.some.inj h
  rcases hstored : o.getComponent e T with _ | c
  · rw [deleteComponent_of_free hstored]
    refine iff_of_false (by simp [readPastEnd]) fun hall => ?_
    simpa [hstored] using hall e T rfl
  · rw [deleteComponent_of_stored hstored]
    refine iff_of_true (by simpa using hdef) ?_
    rintro _ _ ⟨⟩
    rw [hstored]
    rfl

/-- A component that is owned and deleted is held nowhere. -/
theorem Owned.loose_erase (h : o.Owned) (hc : o.getComponent e T = some c) :
    Loose (o.erase e T).getComponent c := by
  intro e' T' hc'
  rw [getComponent_erase] at hc'
  split at hc'
  · cases hc'
  · rename_i hne
    exact hne (h.once hc hc')

end Objects

/-! ## The books of a run -/

namespace Holdings

variable {derives : TypeName → TypeName → Bool} {r r' : Holdings} {event : ShutdownEvent}

theorem balanced_start : start.Balanced := by
  intro c
  have hslots : slots start.held c = 0 := slots_eq_zero.mpr fun e T h => by
    simp [held, start, getComponent, Objects.empty] at h
  rw [hslots]
  rfl

/-- Shutting an entity down keeps the books. -/
theorem Balanced.deleteAllComponents (h : r.Balanced) (e : EntityRef) (destroyed : List EntityRef) :
    ({ r with objects := r.objects.deleteAllComponents e, destroyed := destroyed } :
      Holdings).Balanced := by
  intro c
  have hshut := deleteAllComponents_balance (o := r.objects) (e := e) (c := c)
  rw [← h c, Nat.cast_add, Nat.cast_add, add_right_comm, hshut, add_right_comm]

/-- **A step keeps the books.** -/
theorem Balanced.step (h : r.Balanced) (hstep : (machine derives).step r event = some r') :
    r'.Balanced := by
  cases event with
  | call event =>
    obtain ⟨-, hstep⟩ := Option.ite_none_left_eq_some.mp hstep
    obtain ⟨o', hcall, rfl⟩ := Option.map_eq_some_iff.mp hstep
    intro c
    have hcalled := balances_call (step_call hcall) c
    have hbooks := h c
    simp only [List.count_append, Nat.cast_add] at hcalled hbooks ⊢
    calc (o'.beforeDestructs c + (r.deleted.count c + (event.deleted r.objects).count c) : ℕ∞)
          + slots o'.getComponent c
        = o'.beforeDestructs c + (event.deleted r.objects).count c + slots o'.getComponent c
          + r.deleted.count c := by ring
      _ = r.objects.beforeDestructs c + (event.placed r.objects).count c
          + slots r.objects.getComponent c + r.deleted.count c := by rw [hcalled]
      _ = r.objects.beforeDestructs c + r.deleted.count c + slots r.held c
          + (event.placed r.objects).count c := by ring
      _ = r.placed.count c + (event.placed r.objects).count c := by rw [hbooks]
  | beforeDestruct e =>
    obtain ⟨-, hstep⟩ := Option.ite_none_right_eq_some.mp hstep
    obtain rfl := Option.some.inj hstep
    exact h.deleteAllComponents e _
  | destroy e =>
    obtain ⟨-, hstep⟩ := Option.ite_none_right_eq_some.mp hstep
    obtain rfl := Option.some.inj hstep
    exact h.deleteAllComponents e _

/-- **What is held nowhere was shut down** once for every time it was put in and not deleted. -/
theorem Balanced.of_loose (h : r.Balanced) {c : ComponentRef} (hc : Loose r.held c) :
    r.objects.beforeDestructs c + r.deleted.count c = r.placed.count c := by
  have hbooks := h c
  rw [slots_eq_zero.mpr hc, add_zero] at hbooks
  exact_mod_cast hbooks

/-- **A step is defined** exactly when what it deletes by its type is there. -/
theorem defined_step (hstep : (machine derives).step r event = some r') :
    r'.objects.undefined = false ↔ r.DeletesStored event := by
  cases event with
  | call event =>
    obtain ⟨-, hstep⟩ := Option.ite_none_left_eq_some.mp hstep
    obtain ⟨o', hcall, rfl⟩ := Option.map_eq_some_iff.mp hstep
    obtain ⟨hdef, -⟩ := Option.ite_none_left_eq_some.mp hcall
    refine (defined_call (by simpa using hdef) (step_call hcall)).trans ?_
    simp only [DeletesStored, ShutdownEvent.call.injEq]
  | beforeDestruct e =>
    obtain ⟨halive, hstep⟩ := Option.ite_none_right_eq_some.mp hstep
    obtain rfl := Option.some.inj hstep
    exact iff_of_true (undefined_deleteAllComponents.trans halive.1) nofun
  | destroy e =>
    obtain ⟨halive, hstep⟩ := Option.ite_none_right_eq_some.mp hstep
    obtain rfl := Option.some.inj hstep
    exact iff_of_true (undefined_deleteAllComponents.trans halive.1) nofun

/-! ## Careful runs -/

/-- What a step records. -/
theorem step_record (hstep : (machine derives).step r event = some r') :
    r'.placed = r.placed ++ event.placed r.objects
      ∧ r'.deleted = r.deleted ++ event.deleted r.objects := by
  cases event with
  | call event =>
    obtain ⟨-, hstep⟩ := Option.ite_none_left_eq_some.mp hstep
    obtain ⟨o', -, rfl⟩ := Option.map_eq_some_iff.mp hstep
    exact ⟨rfl, rfl⟩
  | beforeDestruct e =>
    obtain ⟨-, hstep⟩ := Option.ite_none_right_eq_some.mp hstep
    obtain rfl := Option.some.inj hstep
    exact ⟨(List.append_nil _).symm, (List.append_nil _).symm⟩
  | destroy e =>
    obtain ⟨-, hstep⟩ := Option.ite_none_right_eq_some.mp hstep
    obtain rfl := Option.some.inj hstep
    exact ⟨(List.append_nil _).symm, (List.append_nil _).symm⟩

/-- Nothing is deleted, or asked to be by its type, and what is put into an entity has never been in
one. -/
def Gentle (r : Holdings) (event : ShutdownEvent) (_ : Holdings) : Prop :=
  event.deleted r.objects = [] ∧ (∀ e T, event ≠ .call (.deleteComponent e T))
    ∧ ∀ c ∈ event.placed r.objects, c ∉ r.placed

/-- Nothing has been deleted, or put into an entity twice. -/
structure Tidy (r : Holdings) : Prop where
  balanced : r.Balanced
  once : r.placed.Nodup
  kept : r.deleted = []

theorem nodup_placed (o : Objects) (event : ShutdownEvent) : (event.placed o).Nodup := by
  unfold ShutdownEvent.placed OwnershipEvent.placed
  repeat' split
  all_goals simp

theorem Tidy.step (h : r.Tidy) (hstep : (machine derives).step r event = some r')
    (hg : Gentle r event r') : r'.Tidy := by
  obtain ⟨hplaced, hdeleted⟩ := step_record hstep
  refine ⟨h.balanced.step hstep, ?_, ?_⟩
  · rw [hplaced]
    exact h.once.append (nodup_placed r.objects event) fun c hold hnew => hg.2.2 c hnew hold
  · rw [hdeleted, h.kept, hg.1, List.append_nil]

/-- What is held was put there. -/
theorem Balanced.mem_placed (h : r.Balanced) {c : ComponentRef} (hc : ¬ Loose r.held c) :
    c ∈ r.placed := by
  have hslots : slots r.held c ≠ 0 := fun hzero => hc (slots_eq_zero.mp hzero)
  by_contra hmem
  have hbooks := h c
  rw [List.count_eq_zero_of_not_mem hmem, Nat.cast_zero, add_eq_zero] at hbooks
  exact hslots hbooks.2

end Holdings

open Holdings

/-- **A component is shut down exactly once by the time its last entity drops it**, and nothing
undefined is done, in exactly the runs where whatever is dropped had been put into entities once
more than it was deleted from them, and whatever is deleted by its type is there. -/
theorem shutDownOnce_iff (derives : TypeName → TypeName → Bool) (es : List ShutdownEvent) :
    (Holdings.machine derives).Along ShutDownOnce start es
      ↔ (Holdings.machine derives).Along PlacedOnceMore start es := by
  refine Machine.along_congr Balanced (fun _ _ _ h hstep => h.step hstep) ?_ balanced_start
  intro r event r' h hstep
  have hcounts (c : ComponentRef) (hdrops : r.Drops r' c) :
      r'.objects.beforeDestructs c = 1 ↔ r'.placed.count c = r'.deleted.count c + 1 := by
    have hcount := (h.step hstep).of_loose hdrops.2
    omega
  have hdefined := defined_step hstep
  constructor
  · intro honce
    exact ⟨hdefined.mp honce.defined, fun c hdrops => (hcounts c hdrops).mp (honce.once c hdrops)⟩
  · intro hplaced
    exact ⟨hdefined.mpr hplaced.deletes,
      fun c hdrops => (hcounts c hdrops).mpr (hplaced.onceMore c hdrops)⟩

/-- **…in particular where nothing is deleted**, and nothing is put into an entity that was in one
before. -/
theorem along_shutDownOnce (derives : TypeName → TypeName → Bool) {es : List ShutdownEvent}
    (h : (Holdings.machine derives).Along Gentle start es) :
    (Holdings.machine derives).Along ShutDownOnce start es := by
  refine Machine.along_of_along Tidy (fun _ _ _ hr hstep hg => hr.step hstep hg) ?_
    ⟨balanced_start, List.nodup_nil, rfl⟩ h
  intro r event r' hr hstep hg
  refine ⟨(defined_step hstep).mpr fun e T heq => (hg.2.1 e T heq).elim, fun c hdrops => ?_⟩
  have htidy := hr.step hstep hg
  have hmem : c ∈ r'.placed := by
    rw [(step_record hstep).1]
    exact List.mem_append_left _ (hr.balanced.mem_placed hdrops.1)
  have hcount := htidy.balanced.of_loose hdrops.2
  rwa [List.count_eq_one_of_mem htidy.once hmem, htidy.kept, List.count_nil, add_zero] at hcount

/-- A component that is deleted is not shut down. -/
theorem not_shutDownOnce_of_deleteComponent :
    ¬ (Holdings.machine (· = ·)).Along ShutDownOnce start
      [.call (.makeEntity (.construct "a")), .call (.addComponent 0 networkComponent),
        .call (.deleteComponent 0 networkComponent)] := by
  intro h
  have howned : ((Objects.empty.makeEntity (.construct "a")).addComponent 0
      networkComponent).2.Owned :=
    ((sound_empty.makeEntity (.construct "a")).addComponent (by decide) networkComponent).owned
  have hcount := (((h _ rfl).2 _ rfl).2 _ rfl).1.once 0
    ⟨fun hloose => hloose 0 networkComponent (by decide), howned.loose_erase (by decide)⟩
  revert hcount
  decide

end MultiplayerServer
