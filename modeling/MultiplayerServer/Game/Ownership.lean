import MultiplayerServer.Machinery.Custody
import MultiplayerServer.Machinery.Runs
import MultiplayerServer.Game.Entity

/-!
# Game/Ownership — an entity's map against its components' owner pointers

Who owns a component is written down twice, in `components_` of the entity and in `owner_` of the
component.  `attach_component` writes both for the new owner and neither for the old one, so a
component that is stored already comes to be stored twice.

* `ownership_iff` — the two agree in exactly the runs that attach only what is stored nowhere, and
  delete by type only what is there.
-/

namespace MultiplayerServer

open Machinery

/-- A call that makes an object or moves a component. -/
inductive OwnershipEvent
  | makeEntity (entity : Entity)
  | makeComponent (T : TypeName) (owner : Option EntityRef)
  | addComponent (e : EntityRef) (T : TypeName)
  | attachComponent (e : EntityRef) (T : TypeName) (c : ComponentRef)
  | deleteComponent (e : EntityRef) (T : TypeName)
  | deleteGivenComponent (e : EntityRef) (T : TypeName) (c : ComponentRef)
  | deleteAllComponents (e : EntityRef)
  | initComponents (e : EntityRef) (names : List String)
  deriving DecidableEq

namespace Objects

/-- Whether `c` is a component a pointer to `T` can point to. -/
def isA (derives : TypeName → TypeName → Bool) (o : Objects) (c : ComponentRef) (T : TypeName) :
    Bool :=
  o.components[c]?.any fun component => derives component.typeName T

theorem lt_of_isA {derives : TypeName → TypeName → Bool} {o : Objects} {c : ComponentRef}
    {T : TypeName} (h : o.isA derives c T = true) : c < o.components.length := by
  by_contra hlt
  simp [isA, List.getElem?_eq_none (Nat.le_of_not_lt hlt)] at h

/-- One call, on objects that exist. -/
def call (derives : TypeName → TypeName → Bool) (o : Objects) : OwnershipEvent → Option Objects
  | .makeEntity entity => some (o.makeEntity entity)
  | .makeComponent T owner => some (o.makeComponent { typeName := T, owner := owner })
  | .addComponent e T => if e < o.entities.length then some (o.addComponent e T).2 else none
  | .attachComponent e T c =>
    if hc : o.isA derives c T = true then
      if e < o.entities.length then some (o.attachComponent e T c (lt_of_isA hc)).2 else none
    else none
  | .deleteComponent e T => if e < o.entities.length then some (o.deleteComponent e T).2 else none
  | .deleteGivenComponent e T c =>
    if e < o.entities.length ∧ o.isA derives c T = true then some (o.deleteGivenComponent e T c).2
    else none
  | .deleteAllComponents e => if e < o.entities.length then some (o.deleteAllComponents e) else none
  | .initComponents e names =>
    if e < o.entities.length then some (o.initComponents e names) else none

/-- The runs of a set of entities and components, whose classes `derives` from one another as it
says.  A run ends where it becomes undefined. -/
def machine (derives : TypeName → TypeName → Bool) : Machine Objects OwnershipEvent where
  step o e := if o.undefined then none else o.call derives e

/-- **Ownership**: every component stored in an entity is owned by it, and stored once. -/
def Owned (o : Objects) : Prop := Custody o.getComponent o.getOwner

/-- …and nothing undefined has been done. -/
structure Sound (o : Objects) : Prop where
  defined : o.undefined = false
  owned : o.Owned

/-- What is attached is stored nowhere, unless the attachment is refused; and what is deleted by its
type is there. -/
def Careful (o : Objects) (e : OwnershipEvent) (_ : Objects) : Prop :=
  match e with
  | .attachComponent e T c => o.getComponent e T = none → Loose o.getComponent c
  | .deleteComponent e T => (o.getComponent e T).isSome
  | _ => True

theorem sound_empty : empty.Sound := ⟨rfl, Custody.empty (fun _ _ => rfl) _⟩

variable {o : Objects} {e : EntityRef} {T : TypeName} {c : ComponentRef}

/-! ## One call at a time -/

theorem loose_new : Loose o.getComponent o.components.length :=
  fun _ _ h => (Nat.lt_irrefl _ (getComponent_lt h)).elim

theorem Sound.makeEntity (h : o.Sound) (entity : Entity) : (o.makeEntity entity).Sound where
  defined := h.defined
  owned := h.owned.mono fun hc => ⟨by simpa using hc, rfl⟩

/-- A component just made is stored nowhere, whatever its owner. -/
theorem Sound.makeComponent (h : o.Sound) (component : Component) :
    (o.makeComponent component).Sound where
  defined := h.defined
  owned := h.owned.mono fun {e T c} hc => by
    refine ⟨hc, ?_⟩
    rw [getOwner_makeComponent, if_neg]
    exact Nat.ne_of_lt (getComponent_lt hc)

theorem Sound.addComponent (h : o.Sound) (he : e < o.entities.length) (T : TypeName) :
    (o.addComponent e T).2.Sound := by
  rw [Objects.addComponent]
  split
  · exact h
  · rename_i hfree
    refine ⟨h.defined, (h.owned.put_iff hfree ?_ ?_).mpr loose_new⟩
    · intro e' T'
      exact getComponent_emplace (by simp) he hfree
    · intro c'
      rw [getOwner_emplace, getOwner_makeComponent]

/-- **`attach_component` keeps ownership exactly when it is refused, or given what is stored
nowhere.** -/
theorem Sound.attachComponent_iff (h : o.Sound) (he : e < o.entities.length)
    (hc : c < o.components.length) :
    (o.attachComponent e T c hc).2.Sound
      ↔ (o.getComponent e T = none → Loose o.getComponent c) := by
  rw [Objects.attachComponent]
  split
  · rename_i hsome
    exact iff_of_true h fun hnone => by simp [hnone] at hsome
  · rename_i hfree
    have hfree : o.getComponent e T = none := by simpa using hfree
    have hown : ((o.updateComponentOwner c (some e)).emplace e T c (by simpa using hc)).Owned
        ↔ Loose o.getComponent c := by
      refine h.owned.put_iff hfree (fun e' T' => ?_) fun c' => ?_
      · exact getComponent_emplace (by simpa using hc) he hfree
      · exact getOwner_updateComponentOwner (some e) hc
    exact ⟨fun hs _ => hown.mp hs.owned, fun hl => ⟨h.defined, hown.mpr (hl hfree)⟩⟩

/-- **`delete_component<T>()` is defined exactly when something is stored under `T`.** -/
theorem Sound.deleteComponent_iff (h : o.Sound) :
    (o.deleteComponent e T).2.Sound ↔ (o.getComponent e T).isSome = true := by
  rw [Objects.deleteComponent]
  split
  · rename_i hsome
    exact iff_of_true ⟨h.defined, h.owned.remove (fun _ _ => getComponent_erase) fun _ => rfl⟩ hsome
  · rename_i hnone
    exact iff_of_false (fun hs => nomatch hs.defined) hnone

theorem Sound.deleteGivenComponent (h : o.Sound) : (o.deleteGivenComponent e T c).2.Sound := by
  rw [Objects.deleteGivenComponent]
  split
  · rename_i hc
    refine ⟨h.defined, h.owned.release hc (fun e' T' => ?_) fun c' => ?_⟩
    · exact getComponent_erase
    · exact getOwner_updateComponentOwner none (by simpa using getComponent_lt hc)
  · exact h

/-- `before_destruct` of any number of components touches no map and no owner. -/
theorem foldl_beforeDestruct (cs : List ComponentRef) :
    (cs.foldl beforeDestruct o).undefined = o.undefined
      ∧ (∀ e T, (cs.foldl beforeDestruct o).getComponent e T = o.getComponent e T)
      ∧ ∀ c, (cs.foldl beforeDestruct o).getOwner c = o.getOwner c := by
  induction cs generalizing o with
  | nil => exact ⟨rfl, fun _ _ => rfl, fun _ => rfl⟩
  | cons c cs ih =>
    obtain ⟨hdef, hheld, howner⟩ := ih (o := o.beforeDestruct c)
    exact ⟨hdef, fun e T => hheld e T, fun c' => (howner c').trans getOwner_beforeDestruct⟩

theorem Sound.deleteAllComponents (h : o.Sound) : (o.deleteAllComponents e).Sound := by
  obtain ⟨hdef, hheld, howner⟩ := foldl_beforeDestruct (o := o) (o.stored e)
  refine ⟨hdef.trans h.defined, h.owned.clear (h := e) (fun e' T' => ?_) fun c' => howner c'⟩
  rw [Objects.deleteAllComponents, getComponent_clear, hheld]

theorem Sound.initComponents (h : o.Sound) (he : e < o.entities.length) (names : List String) :
    (o.initComponents e names).Sound := by
  rw [Objects.initComponents]
  induction names generalizing o with
  | nil => exact h
  | cons name names ih =>
    rw [List.foldl_cons]
    split
    · exact ih (h.addComponent he _) (by rwa [length_addComponent])
    · exact ih h he

/-- What an event did, on objects that were there. -/
theorem step_call {derives : TypeName → TypeName → Bool} {o' : Objects} {event : OwnershipEvent}
    (h : (machine derives).step o event = some o') : o.call derives event = some o' :=
  (Option.ite_none_left_eq_some.mp h).2

/-- **One event keeps ownership exactly when it is careful.** -/
theorem Sound.step_iff (h : o.Sound) {derives : TypeName → TypeName → Bool} {o' : Objects}
    {event : OwnershipEvent} (hstep : (machine derives).step o event = some o') :
    o'.Sound ↔ Careful o event o' := by
  have hcall := step_call hstep
  cases event with
  | makeEntity entity =>
    obtain rfl := Option.some.inj hcall
    exact iff_of_true (h.makeEntity entity) trivial
  | makeComponent T owner =>
    obtain rfl := Option.some.inj hcall
    exact iff_of_true (h.makeComponent _) trivial
  | addComponent e T =>
    obtain ⟨he, hcall⟩ := Option.ite_none_right_eq_some.mp hcall
    obtain rfl := Option.some.inj hcall
    exact iff_of_true (h.addComponent he T) trivial
  | attachComponent e T c =>
    simp only [call] at hcall
    split_ifs at hcall with hc he
    obtain rfl := Option.some.inj hcall
    exact h.attachComponent_iff he _
  | deleteComponent e T =>
    obtain ⟨-, hcall⟩ := Option.ite_none_right_eq_some.mp hcall
    obtain rfl := Option.some.inj hcall
    exact h.deleteComponent_iff
  | deleteGivenComponent e T c =>
    obtain ⟨-, hcall⟩ := Option.ite_none_right_eq_some.mp hcall
    obtain rfl := Option.some.inj hcall
    exact iff_of_true h.deleteGivenComponent trivial
  | deleteAllComponents e =>
    obtain ⟨-, hcall⟩ := Option.ite_none_right_eq_some.mp hcall
    obtain rfl := Option.some.inj hcall
    exact iff_of_true h.deleteAllComponents trivial
  | initComponents e names =>
    obtain ⟨he, hcall⟩ := Option.ite_none_right_eq_some.mp hcall
    obtain rfl := Option.some.inj hcall
    exact iff_of_true (h.initComponents he names) trivial

/-! ## What ownership is for -/

/-- What is walked is what is stored. -/
theorem getComponent_of_mem_toList {entity : Entity} (hentity : o.entities[e]? = some entity)
    {p : TypeName × ComponentRef} (hp : p ∈ entity.components.toList) :
    o.getComponent e p.1 = some p.2 := by
  rw [getComponent, hentity]
  exact Std.ExtTreeMap.mem_toList_iff_getElem?_eq_some.mp hp

/-- **An owned component is updated once a tick**: what `update` walks names no component twice. -/
theorem Owned.nodup_stored (h : o.Owned) (e : EntityRef) : (o.stored e).Nodup := by
  rw [stored]
  cases hentity : o.entities[e]? with
  | none => exact List.nodup_nil
  | some entity =>
    have hheld {p : TypeName × ComponentRef} (hp : p ∈ entity.components.toList) :
        o.getComponent e p.1 = some p.2 := getComponent_of_mem_toList hentity hp
    refine List.Pairwise.map _ (fun p q hpq heq => ?_)
      (List.Pairwise.and_mem.mp entity.components.distinct_keys_toList)
    obtain ⟨hp, hq, hne⟩ := hpq
    have hkey : q.1 = p.1 := (h.once (hheld hp) ((hheld hq).trans (congrArg some heq.symm))).2
    exact hne (by rw [hkey, Std.compare_self])

/-- **An owned component reports the entity that holds it**: every handler is called with its id. -/
theorem Owned.handleDisconnect_eq (h : o.Owned) {entity : Entity}
    (hentity : o.entities[e]? = some entity) (hc : o.getComponent e T = some c) :
    o.handleDisconnect c = (o.components[c]?.elim [] fun component =>
      component.disconnectHandlers.toList.map fun handler => (handler.2, entity.id)) := by
  rw [handleDisconnect, h.owner hc, Option.bind_some, hentity]

end Objects

open Objects

/-- **The map and the owner pointers agree in exactly the careful runs**, of any number of entities
and components and any hierarchy of their classes. -/
theorem ownership_iff (derives : TypeName → TypeName → Bool) (es : List OwnershipEvent) :
    (Objects.machine derives).Always Sound .empty es
      ↔ (Objects.machine derives).Along Careful .empty es :=
  Machine.always_iff_along Sound (fun _ h => h) (fun _ _ _ h hstep => (h.step_iff hstep).mpr)
    (fun _ _ _ h hstep => (h.step_iff hstep).mp) sound_empty

/-- A component attached to one entity and then to another. -/
theorem not_sound_of_attachComponent :
    ¬ (Objects.machine (· = ·)).Always Sound .empty
      [.makeEntity (.construct "a"), .makeEntity (.construct "b"),
        .makeComponent networkComponent none, .attachComponent 0 networkComponent 0,
        .attachComponent 1 networkComponent 0] := by
  intro h
  have howned := (h.last rfl).owned
  have hsame := howned.once (by decide : Objects.getComponent _ 0 networkComponent = some 0)
    (by decide : Objects.getComponent _ 1 networkComponent = some 0)
  exact absurd hsame.1 (by decide)

end MultiplayerServer
