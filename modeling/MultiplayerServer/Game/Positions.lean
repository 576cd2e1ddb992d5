import MultiplayerServer.Game.EntityProxy
import MultiplayerServer.Game.GameMain

/-!
# Game/Positions — where a position leads

A position is handed out for its entity to be found by: the address tells the process, and the id is
what the process has registered the entity under.

* `positionsLead_iff` — every position leads back to its entity in exactly the processes whose
  address has no underscore, or that have made no service.
-/

namespace MultiplayerServer

open Machinery

namespace World

/-- An entity with the address of its process, under the id that was drawn for it, by which it is
found.  The first id of all is drawn for no entity. -/
structure Place (generator : ℕ → String) (ip : String) (port : ℤ) (w : World) (e : EntityRef)
    (entity : Entity) : Prop where
  drawn : entity.id = generator (e + 1)
  proxy : entity.proxy = ⟨ip, port, entity.id, true⟩
  registered : w.getEntity entity.id = some e

/-- Every entity has its place. -/
structure Placed (generator : ℕ → String) (ip : String) (port : ℤ) (w : World) : Prop where
  drawn : w.factory.uuid.drawn = w.objects.entities.length + 1
  place : ∀ (e : EntityRef) (entity : Entity), w.objects.entities[e]? = some entity →
    w.Place generator ip port e entity

variable {generator : ℕ → String} {ip : String} {port : ℤ} {w w' : World} {entity : Entity}

/-- **One entity more** has a place if those have one that there were. -/
theorem Placed.concat (h : w.Placed generator ip port) (hw : w.Extends w')
    (hentities : w'.objects.entities = w.objects.entities ++ [entity])
    (hdrawn : w'.factory.uuid.drawn = w.factory.uuid.drawn + 1)
    (hid : entity.id = w.nextId generator) (hproxy : entity.proxy = ⟨ip, port, entity.id, true⟩)
    (hregistered : w'.getEntity entity.id = some w.objects.entities.length) :
    w'.Placed generator ip port where
  drawn := by rw [hdrawn, h.drawn, hentities, List.length_append, List.length_singleton]
  place e entity' he := by
    rw [hentities] at he
    obtain hlt | rfl | hgt := Nat.lt_trichotomy e w.objects.entities.length
    · rw [List.getElem?_append_left hlt] at he
      obtain ⟨hdrawn, hproxy, hregistered⟩ := h.place e entity' he
      exact ⟨hdrawn, hproxy, hw.registered hregistered⟩
    · rw [List.getElem?_concat_length] at he
      obtain rfl := Option.some.inj he
      exact ⟨hid.trans (congrArg generator h.drawn), hproxy, hregistered⟩
    · rw [List.getElem?_eq_none (List.length_append.trans_le hgt)] at he
      cases he

/-- The arguments an entity of a process is made with. -/
inductive Local (ip : String) (port : ℤ) : EntityArgs → Prop
  | serverEntity (type : ServerEntityType) : Local ip port (.serverEntity type ip port)
  | loginService : Local ip port (.loginService ip port)

theorem Local.proxy_make {args : EntityArgs} (h : Local ip port args) (id : String) :
    (Entity.make id args).proxy = ⟨ip, port, id, true⟩ := by
  cases h <;> rfl

theorem Placed.createEntity {args : EntityArgs} (h : w.Placed generator ip port)
    (hfresh : w.FreshIds generator) (hargs : Local ip port args) :
    (w.createEntity generator args).2.Placed generator ip port := by
  refine h.concat (extends_createEntity generator w args) entities_createEntityWithId rfl
    (Entity.make_id _ _) ?_ ?_
  · rw [hargs.proxy_make, Entity.make_id]
  · rw [Entity.make_id]
    exact getEntity_createEntityWithId.trans (if_pos ⟨rfl, hfresh.next⟩)

/-- **What becomes of the entity of a client** is a matter of its components. -/
theorem entities_serveClient (o : Objects) (entity : Entity) (names : List String)
    (service : EntityRef) (connection : ConnectionRef) : ∃ components,
      ((o.makeEntity entity).serveClient o.entities.length service names connection).entities
        = o.entities ++ [{ entity with components := components }] := by
  obtain ⟨hlt, hfree⟩ := Objects.getComponent_made (o := o) (T := networkComponent) entity
  by_cases hmem : "NetworkComponent" ∈ names
  · obtain ⟨hentities, -, -⟩ := Objects.serveClient_of_mem service connection hlt hfree hmem
    rw [hentities, Objects.makeEntity, modify_concat]
    exact ⟨_, rfl⟩
  · rw [Objects.serveClient_of_not_mem service connection hlt hfree hmem]
    exact ⟨_, rfl⟩

/-- **A client's entity**, as the configuration has it, with the address of the service. -/
theorem entities_client (generator : ℕ → String) (w : World) (service : EntityRef)
    (connection : ConnectionRef) {config : GameConfig} {data : LoginEntityConfig}
    (hdata : config.loginEntityConfig = some data)
    (hclass : data.entityClassName = "ServerEntity") :
    ∃ components,
      (w.onClientConnected generator config service connection).2.objects.entities
        = w.objects.entities ++ [{ Entity.make (w.nextId generator)
            (.serverEntity (.ofString data.entityType) (w.proxy service).ip (w.proxy service).port)
            with components := components }] := by
  rw [onClientConnected_eq hdata hclass]
  exact entities_serveClient _ _ _ service connection

theorem Placed.onClientConnected {service : EntityRef} (h : w.Placed generator ip port)
    (hfresh : w.FreshIds generator) (hservice : w.objects.entities[service]? = some entity)
    (config : GameConfig) (connection : ConnectionRef) :
    (w.onClientConnected generator config service connection).2.Placed generator ip port := by
  rcases hdata : config.loginEntityConfig with _ | data
  · rw [World.onClientConnected, hdata]
    exact h
  by_cases hclass : data.entityClassName = "ServerEntity"
  · have hextends := extends_onClientConnected generator w service connection config
    obtain ⟨components, hentities⟩ := entities_client generator w service connection hdata hclass
    rw [onClientConnected_eq hdata hclass] at hextends hentities ⊢
    -- the service has the address of the process, and hands it on
    have hproxy : w.proxy service = ⟨ip, port, entity.id, true⟩ := by
      rw [World.proxy, hservice]
      exact (h.place service entity hservice).proxy
    refine h.concat hextends hentities rfl rfl ?_ ?_
    · rw [hproxy]
      rfl
    · exact (getEntity_createClient generator w service data).trans (if_pos ⟨rfl, hfresh.next⟩)
  · simp only [World.onClientConnected, hdata, if_neg hclass]
    exact h

end World

namespace GameMain

variable (generator : ℕ → String) (g : GameMain)

/-- **Every position leads back**: read into any proxy, the position of an entity gives the address
of the process and the id that the entity is found by there.  A `std::string` always fits. -/
def PositionsLead : Prop :=
  ∀ (e : EntityRef) (entity : Entity), g.world.objects.entities[e]? = some entity →
    EntityProxy.Fits entity.proxy.getPos → ∀ p : EntityProxy,
      p.parsePos entity.proxy.getPos = (true, ⟨g.ip, g.port, entity.id, true⟩)
        ∧ g.world.getEntity entity.id = some e

/-- What holds in every state of a process: its entities have their places, and there are entities
exactly if a service was made. -/
structure Placing (ip : String) (port : ℤ) : Prop where
  address : (g.ip, g.port) = (ip, port)
  last : g.LastOnly
  fresh : g.world.FreshIds generator
  placed : g.world.Placed generator ip port
  entities : g.world.objects.entities = [] ↔ g.created = []

variable {generator g} {g' : GameMain} {ip : String} {port : ℤ} {name : String}

/-- What is made stays. -/
theorem entities_ne_nil {w w' : World} (hw : w.Extends w') (h : w.objects.entities ≠ []) :
    w'.objects.entities ≠ [] := by
  obtain ⟨more, hmore⟩ := hw.entities
  rw [← hmore]
  exact List.append_ne_nil_of_left_ne_nil h more

/-- A service that is found is there. -/
theorem exists_of_loginService {service : EntityRef}
    (h : (g.getGameService "LoginService").bind g.asLoginService = some service) :
    ∃ entity, g.world.objects.entities[service]? = some entity := by
  obtain ⟨e, -, hcast⟩ := Option.bind_eq_some_iff.mp h
  obtain ⟨hclass, hcast⟩ := Option.ite_none_right_eq_some.mp hcast
  obtain rfl := Option.some.inj hcast
  obtain ⟨entity, hentity, -⟩ := (Option.any_eq_true _ _).mp hclass
  exact ⟨entity, hentity⟩

/-- **One name** keeps them so. -/
theorem Inits.placing {result : Except String Unit × GameMain}
    (h : Inits generator g name result) (hg : g.Placing generator ip port) :
    result.2.Placing generator ip port := by
  have hlast := h.lastOnly hg.last
  rcases h with _ | _ | ⟨-, -, _ | _⟩
  · exact hg
  · exact hg
  · obtain ⟨hip, hport⟩ := Prod.mk.inj hg.address
    refine ⟨hg.address, hlast, hg.fresh.createEntity _, ?_, ?_⟩
    · exact hg.placed.createEntity hg.fresh (hip ▸ hport ▸ .loginService)
    · exact iff_of_false (by simp [recordGameService, createService, World.createEntity_eq])
        (List.append_ne_nil_of_right_ne_nil _ (List.cons_ne_nil _ _))

/-- **One call** keeps them so. -/
theorem Placing.step {event : GameEvent} (hg : g.Placing generator ip port)
    (h : (machine generator).step g event = some g') : g'.Placing generator ip port := by
  cases event with
  | initAllGameServices =>
    obtain rfl := Option.some.inj h
    exact initAllGameServices_keeps (P := fun g => g.Placing generator ip port)
      (fun hg hinits => hinits.placing hg) hg
  | onClientConnected connection =>
    obtain rfl := Option.some.inj h
    rw [onClientConnected]
    split
    next service hservice =>
      obtain ⟨entity, hentity⟩ := exists_of_loginService hservice
      have hne : g.world.objects.entities ≠ [] := fun hnil => by simp [hnil] at hentity
      have hextends :=
        World.extends_onClientConnected generator g.world service connection g.gameConfig
      refine ⟨hg.address, hg.last, hg.fresh.client _ _ _, ?_, ?_⟩
      · exact hg.placed.onClientConnected hg.fresh hentity g.gameConfig connection
      · exact iff_of_false (entities_ne_nil hextends hne) (mt hg.entities.mpr hne)
    next => exact hg

/-- A process that has just been launched. -/
def launch (generator : ℕ → String) (gameConfig : GameConfig) : GameMain :=
  construct gameConfig (.construct generator)

theorem placing_launch (hgenerator : Function.Injective generator) (gameConfig : GameConfig) :
    (launch generator gameConfig).Placing generator (launch generator gameConfig).ip
      (launch generator gameConfig).port := by
  obtain ⟨hworld, hcreated, hservices⟩ := construct_new gameConfig (World.construct generator)
  refine ⟨rfl, fun name => ?_, ?_, ?_, ?_⟩
  · simp [launch, createdUnder, hcreated, hservices]
  · rw [launch, hworld]
    exact World.freshIds_construct hgenerator
  · rw [launch, hworld]
    refine ⟨rfl, fun e entity hentity => ?_⟩
    exact (Option.some_ne_none entity (hentity.symm.trans List.getElem?_nil)).elim
  · rw [launch, hworld, hcreated]
    exact iff_of_true rfl rfl

/-- **In a state**, the positions lead back exactly where the address has no underscore, or nothing
was made. -/
theorem Placing.leads_iff (hg : g.Placing generator ip port)
    (hids : ∀ n, '_' ∉ (generator n).toList) (hport : IsInt32 port)
    (hfits : EntityProxy.Fits (⟨ip, port, generator 1, true⟩ : EntityProxy).getPos) :
    g.PositionsLead ↔ '_' ∉ ip.toList ∨ g.created = [] := by
  obtain ⟨rfl, rfl⟩ := Prod.mk.inj hg.address
  constructor
  · intro hlead
    rcases hentities : g.world.objects.entities with _ | ⟨entity, entities⟩
    · exact Or.inr (hg.entities.mp hentities)
    · have hentity : g.world.objects.entities[0]? = some entity := by rw [hentities]; rfl
      obtain ⟨hdrawn, hproxy, -⟩ := hg.placed.place 0 entity hentity
      have hfit : EntityProxy.Fits entity.proxy.getPos := by rwa [hproxy, hdrawn]
      -- the address that is read has no underscore, whatever is made of the rest
      have hread : (EntityProxy.parsePos {} entity.proxy.getPos).2.ip = g.ip :=
        congrArg (fun result => result.2.ip) (hlead 0 entity hentity hfit {}).1
      rw [EntityProxy.parsePos_eq hfit] at hread
      refine Or.inl (hread ▸ ?_)
      split <;> exact String.toList_ofList ▸ not_mem_beforeFirst
  · rintro (hip | hnone) e entity hentity hfit p
    · obtain ⟨hdrawn, hproxy, hregistered⟩ := hg.placed.place e entity hentity
      have hread : p.parsePos entity.proxy.getPos
          = (true, { entity.proxy with validate := true }) :=
        EntityProxy.parsePos_getPos (by rwa [hproxy]) (by rw [hproxy]; exact hdrawn ▸ hids _)
          (by rwa [hproxy]) hfit
      exact ⟨by rw [hread, hproxy], hregistered⟩
    · rw [hg.entities.mpr hnone] at hentity
      cases hentity

end GameMain

open GameMain

/-- **The positions of a process lead back to its entities, throughout a run**, exactly when its
address has no underscore, or the run comes to no service; the generator is one that does not repeat
itself, and draws no underscores. -/
theorem positionsLead_iff {generator : ℕ → String} (hgenerator : Function.Injective generator)
    (hids : ∀ n, '_' ∉ (generator n).toList) {gameConfig : GameConfig}
    (hport : IsInt32 (launch generator gameConfig).port)
    (hfits : EntityProxy.Fits (⟨(launch generator gameConfig).ip,
      (launch generator gameConfig).port, generator 1, true⟩ : EntityProxy).getPos)
    (es : List GameEvent) :
    (GameMain.machine generator).Always PositionsLead (launch generator gameConfig) es
      ↔ '_' ∉ (launch generator gameConfig).ip.toList
        ∨ es.flatMap (launch generator gameConfig).creates = [] := by
  suffices h : ∀ g : GameMain, g.Placing generator (launch generator gameConfig).ip
      (launch generator gameConfig).port → SameSetup (launch generator gameConfig) g →
      ((GameMain.machine generator).Always PositionsLead g es
        ↔ '_' ∉ (launch generator gameConfig).ip.toList
          ∨ g.created.map Prod.fst ++ es.flatMap (launch generator gameConfig).creates = []) by
    have hcreated : (launch generator gameConfig).created = [] := (construct_new _ _).2.1
    rw [h _ (placing_launch hgenerator gameConfig) ⟨rfl, rfl⟩, hcreated]
    rfl
  intro g hg hsetup
  induction es generalizing g with
  | nil => simpa using hg.leads_iff hids hport hfits
  | cons event es ih =>
    obtain ⟨g', hstep⟩ := exists_step generator g event
    obtain ⟨-, hsame, hcreated⟩ := step_spec hg.last hstep
    have hrest := ih g' (hg.step hstep) (hsetup.trans hsame)
    rw [hcreated, hsetup.creates event, List.append_assoc] at hrest
    rw [Machine.always_cons, List.flatMap_cons, ← hrest, hg.leads_iff hids hport hfits]
    refine ⟨fun h => h.2 g' hstep, fun h => ⟨?_, fun g'' hstep' => ?_⟩⟩
    · refine (hrest.mp h).imp_right fun hnil => ?_
      exact List.map_eq_nil_iff.mp (List.append_eq_nil_iff.mp hnil).1
    · exact Option.some.inj (hstep.symm.trans hstep') ▸ h

/-- A process with its login service and a client. -/
theorem positionsLead_iff_client :
    let gameConfig : GameConfig := ⟨((∅ : Std.ExtTreeMap String ConfigValue).insert
        GameConfig.serverConfigStr (.server ⟨"127.0.0.1", 8080, 2⟩)).insert
          GameConfig.servicesConfigStr (.services [⟨"LoginService", []⟩])⟩
    let generator : ℕ → String := fun n => String.ofList (List.replicate n 'x')
    (GameMain.machine generator).Always PositionsLead (launch generator gameConfig)
        [.initAllGameServices, .onClientConnected 0]
      ↔ '_' ∉ (launch generator gameConfig).ip.toList
        ∨ ([.initAllGameServices, .onClientConnected 0] : List GameEvent).flatMap
          (launch generator gameConfig).creates = [] :=
  positionsLead_iff (fun m n h => by simpa using congrArg String.length h)
    (fun n h => by simp at h) (by decide) (by decide) _

end MultiplayerServer
