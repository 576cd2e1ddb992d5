import MultiplayerServer.Game.GameMain

/-!
# Game/ServiceLookup — the ways to a service

A service is found under its name, among the local ones of its name, under its name and its id, and
in the factory under its id alone.

* `lookupsAgree_always` — they agree in every state of a process, as long as no id comes twice.
-/

namespace MultiplayerServer

open Machinery

/-- `ServerEntity::is_local` -/
def Entity.isLocal (entity : Entity) (ip : String) (port : ℤ) : Bool :=
  if entity.type = .kMirrorEntity then false
  else entity.proxy.ip = ip ∧ entity.proxy.port = port

namespace GameMain

variable (generator : ℕ → String) (g : GameMain)

/-- `get_local_game_service` -/
def getLocalGameService (name : String) : Option EntityRef :=
  g.gameServices[name]?.bind fun services => services.find? fun e =>
    g.world.objects.entities[e]?.any fun entity => entity.isLocal g.ip g.port

/-- **The lookups agree**: no list is empty, the first service of a name is the local one, there is
none where none was recorded, and one that is in a list is an entity that its id leads to. -/
structure LookupsAgree : Prop where
  nonempty : ∀ (name : String) (services : List EntityRef),
    g.gameServices[name]? = some services → services ≠ []
  localService : ∀ name, g.getLocalGameService name = g.getGameService name
  none_iff : ∀ name, g.getGameService name = none ↔ g.createdUnder name = []
  byId : ∀ (name : String) (services : List EntityRef), g.gameServices[name]? = some services →
    ∀ service ∈ services, ∃ entity, g.world.objects.entities[service]? = some entity
      ∧ g.getGameServiceById name entity.id = some service
      ∧ g.world.getEntity entity.id = some service

/-! ## Every service is local and registered -/

/-- A service of the process, as the factory has made it. -/
def IsService (e : EntityRef) : Prop :=
  ∃ entity, g.world.objects.entities[e]? = some entity ∧ entity.isLocal g.ip g.port = true
    ∧ g.world.getEntity entity.id = some e

/-- **What is true of the services in every state**: the last of a name is on record, each of them
is local and registered, and more ids can be drawn. -/
structure Registered : Prop where
  last : g.LastOnly
  services : ∀ p ∈ g.created, g.IsService p.2
  fresh : g.world.FreshIds generator

variable {generator g} {g' : GameMain} {name : String} {e : EntityRef}

/-- A service stays one. -/
theorem IsService.extends (h : g.IsService e) {w : World} (hw : g.world.Extends w) :
    { g with world := w : GameMain }.IsService e := by
  obtain ⟨entity, hentity, hlocal, hid⟩ := h
  exact ⟨entity, hw.entity hentity, hlocal, hw.registered hid⟩

/-- **A service that is made** is local, and registered under an id that was free. -/
theorem isService_createService (h : g.world.FreshIds generator) (handler : CreateHandler) :
    { g with world := (g.createService generator handler).2 : GameMain }.IsService
      (g.createService generator handler).1 := by
  cases handler with
  | loginService =>
    refine ⟨.make (g.world.nextId generator) (.loginService g.ip g.port), ?_, ?_, ?_⟩
    · exact (congrArg (·[g.world.objects.entities.length]?) World.entities_createEntityWithId).trans
        List.getElem?_concat_length
    · simp [Entity.isLocal, Entity.make, Entity.constructLogin, Entity.constructServer,
        EntityProxy.setProxy]
    · rw [Entity.make_id]
      exact World.getEntity_createEntityWithId.trans (if_pos ⟨rfl, h.next⟩)

theorem extends_createService (generator : ℕ → String) (g : GameMain) (handler : CreateHandler) :
    g.world.Extends (g.createService generator handler).2 := by
  cases handler with
  | loginService => exact World.extends_createEntity generator g.world _

theorem fresh_createService (h : g.world.FreshIds generator) (handler : CreateHandler) :
    (g.createService generator handler).2.FreshIds generator := by
  cases handler with
  | loginService => exact h.createEntity _

/-- **One name** keeps them so. -/
theorem Inits.registered {result : Except String Unit × GameMain}
    (h : Inits generator g name result) (hg : g.Registered generator) :
    result.2.Registered generator := by
  have hlast := h.lastOnly hg.last
  rcases h with _ | _ | ⟨-, -, handler⟩
  · exact hg
  · exact hg
  · refine ⟨hlast, fun p hp => ?_, fresh_createService hg.fresh handler⟩
    -- the services there were stay what they are, whether they are still on record or not
    obtain hold | hnew := List.mem_append.mp hp
    · exact (hg.services p hold).extends (extends_createService generator g handler)
    · obtain rfl := List.mem_singleton.mp hnew
      exact isService_createService hg.fresh handler

/-- **One call** keeps them so, also one that an exception ends. -/
theorem Registered.step {event : GameEvent} (hg : g.Registered generator)
    (h : (machine generator).step g event = some g') : g'.Registered generator := by
  cases event with
  | initAllGameServices =>
    obtain rfl := Option.some.inj h
    exact initAllGameServices_keeps (P := Registered generator)
      (fun hg hinits => hinits.registered hg) hg
  | onClientConnected connection =>
    obtain rfl := Option.some.inj h
    rw [onClientConnected]
    split
    · rename_i service _
      refine ⟨hg.last, fun p hp => (hg.services p hp).extends ?_, ?_⟩
      · exact World.extends_onClientConnected generator g.world service connection g.gameConfig
      · exact hg.fresh.client g.gameConfig service connection
    · exact hg

theorem registered_construct (hgenerator : Function.Injective generator) (gameConfig : GameConfig) :
    (construct gameConfig (World.construct generator)).Registered generator := by
  obtain ⟨hworld, hcreated, hservices⟩ :=
    construct_new gameConfig (World.construct generator)
  refine ⟨fun name => ?_, fun p hp => ?_, ?_⟩
  · simp [createdUnder, hcreated, hservices]
  · simp [hcreated] at hp
  · rw [hworld]
    exact World.freshIds_construct hgenerator

/-! ## …so the lookups agree -/

theorem mem_createdUnder : e ∈ g.createdUnder name ↔ (name, e) ∈ g.created := by
  simp [createdUnder]

/-- **What is on record under a name** is nothing, or one service that was made under it. -/
theorem LastOnly.cases (hg : g.LastOnly) (name : String) :
    (g.gameServices[name]? = none ∧ g.createdUnder name = [])
      ∨ ∃ e, g.gameServices[name]? = some [e] ∧ (name, e) ∈ g.created := by
  rw [hg name]
  rcases hlast : (g.createdUnder name).getLast? with _ | e
  · exact Or.inl ⟨rfl, List.getLast?_eq_none_iff.mp hlast⟩
  · exact Or.inr ⟨e, rfl, mem_createdUnder.mp (List.mem_of_getLast? hlast)⟩

/-- **One service, found four ways.** -/
theorem IsService.found (h : g.IsService e) (he : g.gameServices[name]? = some [e]) :
    g.getGameService name = some e ∧ g.getLocalGameService name = some e
      ∧ ∃ entity, g.world.objects.entities[e]? = some entity
        ∧ g.getGameServiceById name entity.id = some e ∧ g.world.getEntity entity.id = some e := by
  obtain ⟨entity, hentity, hlocal, hid⟩ := h
  refine ⟨by rw [getGameService, he]; rfl, ?_, entity, hentity, ?_, hid⟩
  · simp [getLocalGameService, he, hentity, hlocal]
  · simp [getGameServiceById, he, hentity]

theorem Registered.lookupsAgree (hg : g.Registered generator) : g.LookupsAgree where
  nonempty name services hservices := by
    obtain ⟨hnone, -⟩ | ⟨e, he, -⟩ := hg.last.cases name
    · cases hnone.symm.trans hservices
    · obtain rfl := Option.some.inj (he.symm.trans hservices)
      exact List.cons_ne_nil _ _
  localService name := by
    obtain ⟨hnone, -⟩ | ⟨e, he, hmade⟩ := hg.last.cases name
    · rw [getLocalGameService, getGameService, hnone]
      rfl
    · obtain ⟨hfirst, hlocal, -⟩ := (hg.services _ hmade).found he
      exact hlocal.trans hfirst.symm
  none_iff name := by
    obtain ⟨hnone, hempty⟩ | ⟨e, he, hmade⟩ := hg.last.cases name
    · rw [getGameService, hnone]
      exact iff_of_true rfl hempty
    · rw [((hg.services _ hmade).found he).1]
      exact iff_of_false nofun (List.ne_nil_of_mem (mem_createdUnder.mpr hmade))
  byId name services hservices service hmem := by
    obtain ⟨hnone, -⟩ | ⟨e, he, hmade⟩ := hg.last.cases name
    · cases hnone.symm.trans hservices
    · obtain rfl := Option.some.inj (he.symm.trans hservices)
      obtain rfl := List.mem_singleton.mp hmem
      exact ((hg.services _ hmade).found he).2.2

end GameMain

open GameMain

/-- **The lookups agree in every state of a process**, whatever it is configured with. -/
theorem lookupsAgree_always {generator : ℕ → String} (hgenerator : Function.Injective generator)
    (gameConfig : GameConfig) (es : List GameEvent) :
    (GameMain.machine generator).Always LookupsAgree
      (construct gameConfig (World.construct generator)) es :=
  (Machine.always_of_step (Registered generator) (fun _ _ _ hg hstep => hg.step hstep)
    (registered_construct hgenerator gameConfig)).mono fun _ hg => hg.lookupsAgree

/-- Two calls, with a client between them. -/
theorem lookupsAgree_always_twice :
    (GameMain.machine fun n => String.ofList (List.replicate n 'x')).Always LookupsAgree
      (construct ⟨((∅ : Std.ExtTreeMap String ConfigValue).insert GameConfig.serverConfigStr
          (.server ⟨"127.0.0.1", 8080, 2⟩)).insert GameConfig.servicesConfigStr
          (.services [⟨"LoginService", []⟩, ⟨"ChatService", []⟩])⟩
        (World.construct fun n => String.ofList (List.replicate n 'x')))
      [.initAllGameServices, .onClientConnected 0, .initAllGameServices] :=
  lookupsAgree_always (fun m n h => by simpa using congrArg String.length h) _ _

end MultiplayerServer
