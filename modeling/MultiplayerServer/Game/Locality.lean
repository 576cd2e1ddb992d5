import MultiplayerServer.Game.Accepting
import MultiplayerServer.Game.Positions
import MultiplayerServer.Game.ServiceLookup

/-!
# Game/Locality — which entities a process takes for its own

An entity is local to the process whose address it has, unless it is the mirror of one elsewhere.
Every entity is given the address of the process that makes it; what kind of entity a client's is,
the configuration says.

* `allLocal_iff` — every entity is local in exactly the runs in which no client is given a mirror.
-/

namespace MultiplayerServer

open Machinery

/-- The one way to a mirror. -/
theorem ServerEntityType.ofString_eq_kMirrorEntity_iff {type : String} :
    ofString type = .kMirrorEntity ↔ type = "kMirrorEntity" := by
  grind [ofString]

namespace Entity

variable {entity : Entity} {ip : String} {port : ℤ}

/-- Of an entity with the address of its process, the kind decides. -/
theorem isLocal_iff (hip : entity.proxy.ip = ip) (hport : entity.proxy.port = port) :
    entity.isLocal ip port = true ↔ entity.type ≠ .kMirrorEntity := by
  simp [isLocal, hip, hport]

/-- A local entity has the address. -/
theorem proxy_of_isLocal (h : entity.isLocal ip port = true) :
    entity.proxy.ip = ip ∧ entity.proxy.port = port := by
  rw [isLocal] at h
  split at h
  · cases h
  · simpa using h

end Entity

namespace GameMain

variable (generator : ℕ → String) (g : GameMain)

/-- Every entity is local to the process. -/
def AllLocal : Prop :=
  ∀ entity ∈ g.world.objects.entities, entity.isLocal g.ip g.port = true

/-- A client is given a mirror: there is a service to ask, and the configuration says so. -/
def Mirrors : GameEvent → Prop
  | .initAllGameServices => False
  | .onClientConnected _ => g.loginService.isSome = true
      ∧ ∃ data ∈ g.gameConfig.loginEntityConfig,
        data.entityClassName = "ServerEntity" ∧ data.entityType = "kMirrorEntity"

variable {generator g} {g' : GameMain} {connection : ConnectionRef}

/-- **A service is local.** -/
theorem Inits.allLocal {name : String} {result : Except String Unit × GameMain}
    (h : Inits generator g name result) (hg : g.AllLocal) : result.2.AllLocal := by
  rcases h with _ | _ | ⟨-, -, _ | _⟩
  · exact hg
  · exact hg
  · intro entity hentity
    have hmade : entity ∈ g.world.objects.entities
        ++ [Entity.make (g.world.nextId generator) (.loginService g.ip g.port)] :=
      World.entities_createEntityWithId ▸ hentity
    obtain hold | hnew := List.mem_append.mp hmade
    · exact hg entity hold
    · obtain rfl := List.mem_singleton.mp hnew
      exact (Entity.isLocal_iff rfl rfl).mpr nofun

/-- **A client is**, unless it is given a mirror. -/
theorem AllLocal.onClientConnected_iff (hg : g.AllLocal) :
    (g.onClientConnected generator connection).2.AllLocal
      ↔ ¬ g.Mirrors (.onClientConnected connection) := by
  rcases hservice : g.loginService with _ | service
  · rw [onClientConnected, ← loginService, hservice]
    exact iff_of_true hg (by simp [Mirrors, hservice])
  have hgame : (g.onClientConnected generator connection).2 = { g with
      world := (g.world.onClientConnected generator g.gameConfig service connection).2 } := by
    rw [onClientConnected, ← loginService, hservice]
  rw [hgame, AllLocal]
  rcases hdata : g.gameConfig.loginEntityConfig with _ | data
  · simp only [World.onClientConnected, hdata]
    exact iff_of_true hg (by simp [Mirrors, hdata])
  by_cases hclass : data.entityClassName = "ServerEntity"
  · obtain ⟨entity, hentity⟩ := exists_of_loginService hservice
    obtain ⟨hip, hport⟩ := Entity.proxy_of_isLocal (hg entity (List.mem_of_getElem? hentity))
    have hproxy : g.world.proxy service = entity.proxy := by rw [World.proxy, hentity]; rfl
    obtain ⟨components, hentities⟩ :=
      World.entities_client generator g.world service connection hdata hclass
    -- the client's entity has the address of the service, which is that of the process
    rw [hproxy, hip, hport] at hentities
    rw [hentities, List.forall_mem_append, List.forall_mem_singleton]
    refine (and_iff_right hg).trans ((Entity.isLocal_iff rfl rfl).trans ?_)
    simp [Mirrors, hservice, hdata, hclass, Entity.make, Entity.constructServer,
      ServerEntityType.ofString_eq_kMirrorEntity_iff]
  · simp only [World.onClientConnected, hdata, if_neg hclass]
    exact iff_of_true hg (by simp [Mirrors, hdata, hclass])

end GameMain

open GameMain

/-- **Every entity is local in exactly the runs in which no client is given a mirror.** -/
theorem allLocal_iff (generator : ℕ → String) (gameConfig : GameConfig) (es : List GameEvent) :
    (GameMain.machine generator).Always AllLocal (launch generator gameConfig) es
      ↔ (GameMain.machine generator).Along (fun g event _ => ¬ g.Mirrors event)
        (launch generator gameConfig) es := by
  refine Machine.always_iff_along AllLocal (fun _ h => h) ?_ ?_ ?_
  · intro g event g' hg hstep hmirrors
    cases event with
    | initAllGameServices =>
      obtain rfl := Option.some.inj hstep
      exact initAllGameServices_keeps (fun hg hinits => hinits.allLocal hg) hg
    | onClientConnected connection =>
      obtain rfl := Option.some.inj hstep
      exact hg.onClientConnected_iff.mpr hmirrors
  · intro g event g' hg hstep hlocal
    cases event with
    | initAllGameServices => exact not_false
    | onClientConnected connection =>
      obtain rfl := Option.some.inj hstep
      exact hg.onClientConnected_iff.mp hlocal
  · obtain ⟨hworld, -, -⟩ := construct_new gameConfig (World.construct generator)
    rw [AllLocal, launch, hworld]
    exact List.forall_mem_nil _

end MultiplayerServer
