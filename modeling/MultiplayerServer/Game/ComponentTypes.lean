import MultiplayerServer.Game.LoginService
import MultiplayerServer.Game.Removal

/-!
# Game/ComponentTypes — why the cast of a lookup is valid

A component is stored under the key of the class the caller named, and `get_component` casts what it
finds under that key to that class without a check.  What is attached is of the class its pointer
says or of one derived from it, what is added is of the class itself, and `emplace` replaces
nothing.

* `componentTypes_sound` — every cast is valid in every run, whatever the hierarchy, and a lookup
  answers the same until what it finds is deleted.
-/

namespace MultiplayerServer

open Machinery

/-- Whether a call deletes `c`, stored in `e` under `T`. -/
def OwnershipEvent.Deletes (e : EntityRef) (T : TypeName) (c : ComponentRef) :
    OwnershipEvent → Prop
  | .deleteComponent e' T' => e' = e ∧ T' = T
  | .deleteGivenComponent e' T' c' => e' = e ∧ T' = T ∧ c' = c
  | .deleteAllComponents e' => e' = e
  | _ => False

namespace Objects

/-- The class a component was made as. -/
def typeOf (o : Objects) (c : ComponentRef) : Option TypeName :=
  o.components[c]?.map fun component => component.typeName

/-- **The casts are valid**: what `get_component` and `add_component` cast to a class is of that
class or of one derived from it. -/
structure CastsValid (derives : TypeName → TypeName → Bool) (o : Objects) : Prop where
  get : ∀ e T c, o.getComponent e T = some c → o.isA derives c T = true
  add : ∀ e T, e < o.entities.length →
    (o.addComponent e T).2.isA derives (o.addComponent e T).1 T = true

/-- **Nothing is replaced**: what is stored stays, or is deleted and leaves its key free. -/
def Keeps (o : Objects) (event : OwnershipEvent) (o' : Objects) : Prop :=
  ∀ e T c, o.getComponent e T = some c →
    o'.getComponent e T = some c ∨ event.Deletes e T c ∧ o'.getComponent e T = none

/-! ## A component stays of its class -/

/-- Every component is still there, and of the class it was. -/
def Grows (o o' : Objects) : Prop := ∀ c T, o.typeOf c = some T → o'.typeOf c = some T

variable {derives : TypeName → TypeName → Bool} {o o' o'' : Objects} {e : EntityRef} {T : TypeName}
  {c : ComponentRef}

theorem isA_eq : o.isA derives c T = (o.typeOf c).any fun S => derives S T := by
  rw [isA, typeOf]
  cases o.components[c]? <;> rfl

theorem Grows.isA (h : o.Grows o') (hc : o.isA derives c T = true) :
    o'.isA derives c T = true := by
  rw [isA_eq, Option.any_eq_true] at hc ⊢
  obtain ⟨S, hS, hT⟩ := hc
  exact ⟨S, h c S hS, hT⟩

theorem Grows.refl (o : Objects) : o.Grows o := fun _ _ h => h

theorem Grows.trans (h : o.Grows o') (h' : o'.Grows o'') : o.Grows o'' :=
  fun c T hc => h' c T (h c T hc)

theorem grows_makeComponent (component : Component) : o.Grows (o.makeComponent component) := by
  intro c T h
  have hc : c < o.components.length := by
    by_contra hlt
    simp [typeOf, List.getElem?_eq_none (Nat.le_of_not_lt hlt)] at h
  rwa [typeOf, makeComponent, List.getElem?_append_left hc]

/-- A component that changes stays of its class, unless it is its class that changes. -/
theorem grows_updateComponent {f : Component → Component}
    (hf : ∀ component, (f component).typeName = component.typeName) :
    o.Grows (o.updateComponent c f) := by
  intro c' T h
  rw [typeOf, updateComponent, List.getElem?_modify]
  rw [typeOf] at h
  cases hcomponent : o.components[c']? with
  | none => simp [hcomponent] at h
  | some component =>
    rw [hcomponent] at h
    rw [← h, Option.map_eq_map, Option.map_some, Option.map_some, Option.map_some]
    split
    · rw [hf]
    · rfl

theorem grows_foldl_beforeDestruct (cs : List ComponentRef) :
    o.Grows (cs.foldl beforeDestruct o) := by
  induction cs generalizing o with
  | nil => exact .refl o
  | cons c cs ih =>
    have hone : o.Grows (o.beforeDestruct c) := grows_updateComponent fun _ => rfl
    exact hone.trans ih

theorem grows_addComponent (e : EntityRef) (T : TypeName) : o.Grows (o.addComponent e T).2 := by
  cases h : o.getComponent e T with
  | some c =>
    rw [addComponent_of_stored h]
    exact .refl o
  | none =>
    rw [addComponent_of_free h]
    exact grows_makeComponent _

theorem grows_attachComponent (hc : c < o.components.length) :
    o.Grows (o.attachComponent e T c hc).2 := by
  rw [attachComponent]
  split
  · exact .refl o
  · exact grows_updateComponent fun _ => rfl

theorem grows_deleteComponent : o.Grows (o.deleteComponent e T).2 := by
  rw [deleteComponent]
  split <;> exact .refl o

theorem grows_deleteGivenComponent : o.Grows (o.deleteGivenComponent e T c).2 := by
  rw [deleteGivenComponent]
  split
  · exact grows_updateComponent fun _ => rfl
  · exact .refl o

/-! ## What a call stores -/

/-- What is stored was stored, or is of the class it is stored under. -/
def Fills (derives : TypeName → TypeName → Bool) (o o' : Objects) : Prop :=
  ∀ e T c, o'.getComponent e T = some c →
    o.getComponent e T = some c ∨ o'.isA derives c T = true

/-- What a call is held to. -/
structure Lawful (derives : TypeName → TypeName → Bool) (o : Objects) (event : OwnershipEvent)
    (o' : Objects) : Prop where
  grows : o.Grows o'
  keeps : o.Keeps event o'
  fills : o.Fills derives o'

/-- A call that stores nothing and deletes nothing. -/
theorem Lawful.of_same {event : OwnershipEvent} (hgrows : o.Grows o')
    (h : ∀ e T, o'.getComponent e T = o.getComponent e T) : o.Lawful derives event o' where
  grows := hgrows
  keeps e T _ hc := Or.inl ((h e T).trans hc)
  fills e T _ hc := Or.inl ((h e T).symm.trans hc)

/-- A call that stores one component, of the class of the key, under a free key. -/
theorem Lawful.of_put {event : OwnershipEvent} (hgrows : o.Grows o')
    (hfree : o.getComponent e T = none) (hc : o'.isA derives c T = true)
    (h : ∀ e' T', o'.getComponent e' T'
      = if e' = e ∧ T' = T then some c else o.getComponent e' T') : o.Lawful derives event o' where
  grows := hgrows
  keeps e' T' c' hc' := by
    refine Or.inl ((h e' T').trans ?_)
    rw [if_neg, hc']
    rintro ⟨rfl, rfl⟩
    simp [hfree] at hc'
  fills e' T' c' hc' := by
    rw [h] at hc'
    split at hc'
    · rename_i heq
      obtain rfl := Option.some.inj hc'
      exact Or.inr (heq.2 ▸ hc)
    · exact Or.inl hc'

/-- A call that deletes what it says it deletes. -/
theorem Lawful.of_delete {event : OwnershipEvent} (hgrows : o.Grows o')
    (h : ∀ e T c, o.getComponent e T = some c →
      o'.getComponent e T = some c ∨ event.Deletes e T c ∧ o'.getComponent e T = none)
    (hold : ∀ e T c, o'.getComponent e T = some c → o.getComponent e T = some c) :
    o.Lawful derives event o' where
  grows := hgrows
  keeps := h
  fills e T c hc := Or.inl (hold e T c hc)

/-- **What `add_component` adds is of the class of its key.** -/
theorem lawful_addComponent (hrefl : ∀ T, derives T T = true) (he : e < o.entities.length)
    (T : TypeName) (event : OwnershipEvent) : o.Lawful derives event (o.addComponent e T).2 := by
  have hgrows := grows_addComponent (o := o) e T
  cases h : o.getComponent e T with
  | some c =>
    rw [addComponent_of_stored h]
    exact .of_same (.refl o) fun _ _ => rfl
  | none =>
    rw [addComponent_of_free h] at hgrows ⊢
    refine .of_put hgrows h ?_ fun e' T' => getComponent_emplace (lt_makeComponent _) he h
    simp [isA, emplace, updateMap, makeComponent, hrefl]

theorem lawful_attachComponent (he : e < o.entities.length) (hc : o.isA derives c T = true) :
    o.Lawful derives (.attachComponent e T c) (o.attachComponent e T c (lt_of_isA hc)).2 := by
  have hgrows := grows_attachComponent (e := e) (T := T) (lt_of_isA hc)
  have htype := hgrows.isA hc
  rw [attachComponent] at hgrows htype ⊢
  split
  · exact .of_same (.refl o) fun _ _ => rfl
  · rename_i hfree
    rw [if_neg hfree] at hgrows htype
    have hfree : o.getComponent e T = none := by simpa using hfree
    exact .of_put hgrows hfree htype fun e' T' =>
      getComponent_emplace (by simpa using lt_of_isA hc) (by simpa using he) hfree

/-- Erasing one key, where that is what is to be deleted. -/
theorem lawful_erase {event : OwnershipEvent} (hgrows : o.Grows o')
    (h : ∀ e' T', o'.getComponent e' T' = if e' = e ∧ T' = T then none else o.getComponent e' T')
    (hdel : ∀ c, o.getComponent e T = some c → event.Deletes e T c) :
    o.Lawful derives event o' := by
  refine .of_delete hgrows (fun e' T' c' hc' => ?_) fun e' T' c' hc' => ?_
  · by_cases heq : e' = e ∧ T' = T
    · refine Or.inr ⟨?_, by rw [h, if_pos heq]⟩
      obtain ⟨rfl, rfl⟩ := heq
      exact hdel c' hc'
    · exact Or.inl (by rw [h, if_neg heq, hc'])
  · rw [h] at hc'
    split at hc'
    · cases hc'
    · exact hc'

theorem lawful_deleteComponent :
    o.Lawful derives (.deleteComponent e T) (o.deleteComponent e T).2 := by
  have hgrows := grows_deleteComponent (o := o) (e := e) (T := T)
  rw [deleteComponent] at hgrows ⊢
  split
  · rename_i hsome
    rw [if_pos hsome] at hgrows
    exact lawful_erase hgrows (fun _ _ => getComponent_erase) fun _ _ => ⟨rfl, rfl⟩
  · exact .of_same (.refl o) fun _ _ => rfl

theorem lawful_deleteGivenComponent :
    o.Lawful derives (.deleteGivenComponent e T c) (o.deleteGivenComponent e T c).2 := by
  have hgrows := grows_deleteGivenComponent (o := o) (e := e) (T := T) (c := c)
  rw [deleteGivenComponent] at hgrows ⊢
  split
  · rename_i hc
    rw [if_pos hc] at hgrows
    refine lawful_erase hgrows (fun _ _ => getComponent_erase) fun c' hc' => ⟨rfl, rfl, ?_⟩
    exact Option.some.inj (hc.symm.trans hc')
  · exact .of_same (.refl o) fun _ _ => rfl

theorem lawful_deleteAllComponents :
    o.Lawful derives (.deleteAllComponents e) (o.deleteAllComponents e) := by
  have hheld (e' : EntityRef) (T : TypeName) : (o.deleteAllComponents e).getComponent e' T
      = if e' = e then none else o.getComponent e' T := by
    rw [deleteAllComponents, getComponent_clear, (foldl_beforeDestruct _).2.1]
  refine .of_delete (grows_foldl_beforeDestruct _) (fun e' T c hc => ?_) fun e' T c hc => ?_
  · rw [hheld]
    split
    · rename_i he
      exact Or.inr ⟨he.symm, rfl⟩
    · exact Or.inl hc
  · rw [hheld] at hc
    split at hc
    · cases hc
    · exact hc

theorem lawful_initComponents (hrefl : ∀ T, derives T T = true) (he : e < o.entities.length)
    (names : List String) :
    o.Lawful derives (.initComponents e names) (o.initComponents e names) := by
  rw [initComponents_eq he]
  split
  · exact lawful_addComponent hrefl he networkComponent _
  · exact .of_same (.refl o) fun _ _ => rfl

/-- **Every call is lawful.** -/
theorem lawful_call (hrefl : ∀ T, derives T T = true) {event : OwnershipEvent}
    (h : o.call derives event = some o') : o.Lawful derives event o' := by
  cases event with
  | makeEntity entity =>
    obtain rfl := Option.some.inj h
    exact .of_same (.refl o) fun _ _ => getComponent_makeEntity entity
  | makeComponent T owner =>
    obtain rfl := Option.some.inj h
    exact .of_same (grows_makeComponent _) fun _ _ => getComponent_makeComponent _
  | addComponent e T =>
    obtain ⟨he, h⟩ := Option.ite_none_right_eq_some.mp h
    obtain rfl := Option.some.inj h
    exact lawful_addComponent hrefl he T _
  | attachComponent e T c =>
    simp only [call] at h
    split_ifs at h with hc he
    obtain rfl := Option.some.inj h
    exact lawful_attachComponent he hc
  | deleteComponent e T =>
    obtain ⟨-, h⟩ := Option.ite_none_right_eq_some.mp h
    obtain rfl := Option.some.inj h
    exact lawful_deleteComponent
  | deleteGivenComponent e T c =>
    obtain ⟨-, h⟩ := Option.ite_none_right_eq_some.mp h
    obtain rfl := Option.some.inj h
    exact lawful_deleteGivenComponent
  | deleteAllComponents e =>
    obtain ⟨-, h⟩ := Option.ite_none_right_eq_some.mp h
    obtain rfl := Option.some.inj h
    exact lawful_deleteAllComponents
  | initComponents e names =>
    obtain ⟨he, h⟩ := Option.ite_none_right_eq_some.mp h
    obtain rfl := Option.some.inj h
    exact lawful_initComponents hrefl he names

/-! ## Runs -/

/-- What is stored under the key of a class is of it. -/
def Typed (derives : TypeName → TypeName → Bool) (o : Objects) : Prop :=
  ∀ e T c, o.getComponent e T = some c → o.isA derives c T = true

theorem Lawful.typed {event : OwnershipEvent} (h : o.Lawful derives event o')
    (ho : o.Typed derives) : o'.Typed derives := by
  intro e T c hc
  rcases h.fills e T c hc with hold | hnew
  · exact h.grows.isA (ho e T c hold)
  · exact hnew

theorem Typed.castsValid (hrefl : ∀ T, derives T T = true) (h : o.Typed derives) :
    o.CastsValid derives where
  get := h
  add e T he := (lawful_addComponent hrefl he T (.addComponent e T)).typed h e T _
    (getComponent_addComponent he)

/-- **What is stored stays** until it is deleted. -/
theorem getComponent_exec (hrefl : ∀ T, derives T T = true) {es : List OwnershipEvent}
    (hexec : (machine derives).exec o es = some o')
    (hes : ∀ event ∈ es, ¬ event.Deletes e T c) (hc : o.getComponent e T = some c) :
    o'.getComponent e T = some c := by
  induction es generalizing o with
  | nil => exact Option.some.inj hexec ▸ hc
  | cons event es ih =>
    obtain ⟨o₁, hstep, hrest⟩ := Option.bind_eq_some_iff.mp hexec
    refine ih hrest (fun event' hmem => hes event' (List.mem_cons_of_mem _ hmem)) ?_
    rcases (lawful_call hrefl (step_call hstep)).keeps e T c hc with hkept | ⟨hdel, -⟩
    · exact hkept
    · exact (hes event List.mem_cons_self hdel).elim

end Objects

open Objects

/-- **The casts of a lookup are sound**, for every hierarchy and in every run: what they are of is
of the class they are to, nothing stored is ever replaced, and what is stored is found until it is
deleted. -/
theorem componentTypes_sound (derives : TypeName → TypeName → Bool)
    (hrefl : ∀ T, derives T T = true) (es : List OwnershipEvent) :
    (Objects.machine derives).Always (CastsValid derives) .empty es
      ∧ (Objects.machine derives).Along Keeps .empty es
      ∧ ∀ o, (Objects.machine derives).exec .empty es = some o →
        ∀ e T c, o.getComponent e T = some c →
          ∀ (more : List OwnershipEvent) (o' : Objects),
            (Objects.machine derives).exec o more = some o' →
            (∀ event ∈ more, ¬ event.Deletes e T c) → o'.getComponent e T = some c := by
  refine ⟨?_, ?_, fun o _ e T c hc more o' hmore hkept => getComponent_exec hrefl hmore hkept hc⟩
  · refine (Machine.always_of_step (Typed derives) (fun o event o' h hstep => ?_) ?_).mono
      fun o h => h.castsValid hrefl
    · exact (lawful_call hrefl (step_call hstep)).typed h
    · exact fun e T c h => nomatch h
  · refine Machine.along_of_step (fun _ => True) (fun _ _ _ _ _ => trivial)
      (fun o event o' _ hstep => ?_) trivial
    exact (lawful_call hrefl (step_call hstep)).keeps

/-- Two classes, of which one derives from the other. -/
theorem componentTypes_sound_derived :
    (Objects.machine fun S T => S == T || T == "Base").Always
        (CastsValid fun S T => S == T || T == "Base") .empty
        [.makeEntity (.construct "a"), .makeComponent "Derived" none,
          .attachComponent 0 "Base" 0, .addComponent 0 "Derived"]
      ∧ (Objects.machine fun S T => S == T || T == "Base").Along Keeps .empty
        [.makeEntity (.construct "a"), .makeComponent "Derived" none,
          .attachComponent 0 "Base" 0, .addComponent 0 "Derived"] := by
  have h := componentTypes_sound (fun S T => S == T || T == "Base") (by simp)
    [.makeEntity (.construct "a"), .makeComponent "Derived" none,
      .attachComponent 0 "Base" 0, .addComponent 0 "Derived"]
  exact ⟨h.1, h.2.1⟩

end MultiplayerServer
