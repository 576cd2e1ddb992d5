import MultiplayerServer.Game.ServiceComponents

/-!
# Game/Startup — which services start

The constructor of `GameMain` fills the table of handlers last, and returns early where the
configuration has no server section.  The process goes on with the default address, and with a table
that knows no service at all.

* `starts_iff` — every service that is known is started, and no other reason is there to throw,
  where no known service is asked for, or else the server section was loaded and none of them is
  asked for behind an unknown one.
-/

namespace MultiplayerServer

namespace GameMain

variable (generator : ℕ → String) (gameConfig : GameConfig) (world : World) (g : GameMain)

/-- The entries that are to be started: those with a name `preload_services_create_handler`
registers a handler for, wherever they stand. -/
def knownServices : List GameServiceConfig :=
  (g.gameConfig.gameServiceConfigs.getD []).filter fun service =>
    service.serviceName ∈ g.preloadServicesCreateHandler.gameServicesCreateHandler

/-- None of them stands behind a name it registers none for, where the loop throws. -/
def KnownFirst : Prop :=
  (g.gameConfig.gameServiceConfigs.getD []).Pairwise fun first later =>
    first.serviceName ≠ ""
      → first.serviceName ∉ g.preloadServicesCreateHandler.gameServicesCreateHandler
      → later.serviceName ∉ g.preloadServicesCreateHandler.gameServicesCreateHandler

/-- The address that is loaded, or else the default one. -/
def address : AsioServerConfig :=
  gameConfig.getServerIpPort.getD { ip := "127.0.0.1", port := 8080, concurrency := 2 }

/-- There is a login service there, of this address. -/
def LoginAt (world : World) (address : AsioServerConfig) (e : EntityRef) : Prop :=
  ∃ entity, world.objects.entities[e]? = some entity ∧ entity.entityClass = .loginService
    ∧ entity.proxy.ip = address.ip ∧ entity.proxy.port = address.port

/-- **The known services start**: an exception is for a name without a handler, and every entry that
is known was created, at the address that was loaded or the default one. -/
structure Starts : Prop where
  throws : ∀ e, ((construct gameConfig world).initAllGameServices generator).1 = .error e →
    ∃ service ∈ gameConfig.gameServiceConfigs.getD [], service.serviceName ≠ ""
      ∧ service.serviceName
        ∉ (construct gameConfig world).preloadServicesCreateHandler.gameServicesCreateHandler
  created : List.Forall₂ (fun service p => p.1 = service.serviceName
      ∧ LoginAt ((construct gameConfig world).initAllGameServices generator).2.world
        (address gameConfig) p.2)
    (construct gameConfig world).knownServices
    ((construct gameConfig world).initAllGameServices generator).2.created

variable {generator gameConfig world g} {services : List GameServiceConfig}

/-! ## The loop -/

/-- **An exception is for a name without a handler.** -/
theorem exists_of_error {e : String} (h : (g.initGameServices generator services).1 = .error e) :
    ∃ service ∈ services, service.serviceName ≠ ""
      ∧ service.serviceName ∉ g.gameServicesCreateHandler := by
  induction services generalizing g with
  | nil => cases h
  | cons service services ih =>
    have hinits := inits_initGameService generator g service.serviceName
    rw [initGameServices] at h
    generalize g.initGameService generator service.serviceName = result at hinits h
    rcases hinits with hname | ⟨hname, hhandler⟩ | ⟨hname, hhandler, handler⟩
    · obtain ⟨unknown, hmem, hunknown⟩ := ih h
      exact ⟨unknown, List.mem_cons_of_mem _ hmem, hunknown⟩
    · exact ⟨service, List.mem_cons_self, hname, hhandler⟩
    · obtain ⟨unknown, hmem, hunknown⟩ := ih h
      exact ⟨unknown, List.mem_cons_of_mem _ hmem, hunknown⟩

/-- What there is stays. -/
theorem entities_initGameServices (generator : ℕ → String) (g : GameMain)
    (services : List GameServiceConfig) :
    g.world.objects.entities
      <+: (g.initGameServices generator services).2.world.objects.entities := by
  induction services generalizing g with
  | nil => exact List.prefix_rfl
  | cons service services ih =>
    have hinits := inits_initGameService generator g service.serviceName
    rw [initGameServices]
    generalize g.initGameService generator service.serviceName = result at hinits ⊢
    rcases hinits with hname | ⟨hname, hhandler⟩ | ⟨hname, hhandler, _ | _⟩
    · exact ih g
    · exact List.prefix_rfl
    · generalize hmade : recordGameService _ service.serviceName _ = g₁
      have hworld : g₁.world.objects.entities = g.world.objects.entities
          ++ [Entity.make (g.world.nextId generator) (.loginService g.ip g.port)] := by
        rw [← hmade]
        rfl
      exact (hworld ▸ List.prefix_append _ _).trans (ih g₁)

/-- **What the loop makes** is a login service for every entry, at the address of the process. -/
theorem logins_initGameServices (generator : ℕ → String) (g : GameMain)
    (services : List GameServiceConfig) :
    ∃ made, (g.initGameServices generator services).2.created = g.created ++ made
      ∧ List.Forall₂ (fun service p => p.1 = service.serviceName
        ∧ LoginAt (g.initGameServices generator services).2.world ⟨g.ip, g.port, g.concurrency⟩
          p.2) (g.handledServices services) made := by
  induction services generalizing g with
  | nil => exact ⟨[], (List.append_nil _).symm, .nil⟩
  | cons service services ih =>
    have hinits := inits_initGameService generator g service.serviceName
    rw [initGameServices]
    generalize g.initGameService generator service.serviceName = result at hinits ⊢
    rcases hinits with hname | ⟨hname, hhandler⟩ | ⟨hname, hhandler, handler⟩
    · rw [handledServices_cons_of_empty hname]
      exact ih g
    · rw [handledServices_cons_of_unhandled hname hhandler]
      exact ⟨[], (List.append_nil _).symm, .nil⟩
    · generalize hmade : recordGameService _ service.serviceName _ = g₁
      obtain ⟨made, hcreated, hlogins⟩ := ih g₁
      obtain ⟨rest, hstay⟩ := entities_initGameServices generator g₁ services
      cases handler
      have hfirst : g₁.created
          = g.created ++ [(service.serviceName, g.world.objects.entities.length)] := by
        rw [← hmade]
        rfl
      have hentities : g₁.world.objects.entities = g.world.objects.entities
          ++ [Entity.make (g.world.nextId generator) (.loginService g.ip g.port)] := by
        rw [← hmade]
        rfl
      have haddress : (⟨g₁.ip, g₁.port, g₁.concurrency⟩ : AsioServerConfig)
          = ⟨g.ip, g.port, g.concurrency⟩ := by
        rw [← hmade]
        rfl
      have hhandlers : g₁.handledServices services = g.handledServices services := by
        rw [← hmade]
        rfl
      refine ⟨(service.serviceName, g.world.objects.entities.length) :: made, ?_, ?_⟩
      · refine hcreated.trans ?_
        rw [hfirst, List.append_assoc]
        rfl
      · rw [handledServices_cons_of_handled hname hhandler]
        rw [haddress, hhandlers] at hlogins
        refine .cons ⟨rfl, Entity.make (g.world.nextId generator) (.loginService g.ip g.port), ?_,
          rfl, rfl, rfl⟩ hlogins
        -- the services that are made after it leave it where it is
        refine (congrArg (·[_]?) hstay).symm.trans ?_
        rw [hentities]
        simp

/-! ## The constructor -/

/-- **Where there is no server section, there is no handler either.** -/
theorem construct_of_none (h : gameConfig.getServerIpPort = none) :
    construct gameConfig world = { gameConfig := gameConfig, world := world } := by
  rw [construct, h]

theorem construct_of_some {config : AsioServerConfig}
    (h : gameConfig.getServerIpPort = some config) :
    construct gameConfig world
      = { ip := config.ip, port := config.port, concurrency := config.concurrency
          gameConfig := gameConfig, world := world : GameMain }.preloadServicesCreateHandler := by
  rw [construct, h]

/-- What `init_all_game_services` goes through. -/
theorem initAllGameServices_eq (generator : ℕ → String) (g : GameMain) :
    g.initAllGameServices generator
      = g.initGameServices generator (g.gameConfig.gameServiceConfigs.getD []) := by
  rw [initAllGameServices]
  cases g.gameConfig.gameServiceConfigs <;> rfl

/-- The loop without a handler makes nothing. -/
theorem handledServices_of_empty (h : g.gameServicesCreateHandler = ∅) :
    g.handledServices services = [] := by
  rw [handledServices, h]
  cases services.filter fun service => decide (service.serviceName ≠ "") <;> simp

/-- What the loop comes to has a handler, -/
theorem handledServices_sublist : List.Sublist (g.handledServices services)
    (services.filter fun service => service.serviceName ∈ g.gameServicesCreateHandler) := by
  have hhandled : (g.handledServices services).filter
      (fun service => service.serviceName ∈ g.gameServicesCreateHandler)
      = g.handledServices services :=
    List.filter_eq_self.mpr fun service hmem => List.mem_takeWhile_imp
      (p := fun service : GameServiceConfig =>
        decide (service.serviceName ∈ g.gameServicesCreateHandler)) hmem
  rw [← hhandled]
  exact ((List.takeWhile_sublist _).trans List.filter_sublist).filter _

/-- …and is all that has one exactly where nothing that has one stands behind a name without. -/
theorem handledServices_eq_filter_iff (hempty : "" ∉ g.gameServicesCreateHandler) :
    g.handledServices services
        = services.filter (fun service => service.serviceName ∈ g.gameServicesCreateHandler)
      ↔ services.Pairwise fun first later => first.serviceName ≠ ""
        → first.serviceName ∉ g.gameServicesCreateHandler
        → later.serviceName ∉ g.gameServicesCreateHandler := by
  induction services with
  | nil => simp [handledServices]
  | cons service services ih =>
    rw [List.pairwise_cons, ← ih]
    by_cases hname : service.serviceName = ""
    · rw [handledServices_cons_of_empty hname, List.filter_cons_of_neg (by simpa [hname])]
      simp [hname]
    by_cases hhandler : service.serviceName ∈ g.gameServicesCreateHandler
    · rw [handledServices_cons_of_handled hname hhandler,
        List.filter_cons_of_pos (by simpa using hhandler), List.cons_inj_right]
      simp [hhandler]
    · rw [handledServices_cons_of_unhandled hname hhandler,
        List.filter_cons_of_neg (by simpa using hhandler), eq_comm, List.filter_eq_nil_iff]
      constructor
      · intro hnone
        have hfilter := List.filter_eq_nil_iff.mpr hnone
        refine ⟨fun later hlater _ _ => by simpa using hnone later hlater, ?_⟩
        rw [hfilter]
        exact List.sublist_nil.mp (hfilter ▸ handledServices_sublist)
      · exact fun h later hlater => by simpa using h.1 later hlater hname hhandler

theorem construct_gameConfig : (construct gameConfig world).gameConfig = gameConfig := by
  rw [construct]
  split <;> rfl

/-- What the constructor would know. -/
theorem mem_preload_construct {name : String} :
    name ∈ (construct gameConfig world).preloadServicesCreateHandler.gameServicesCreateHandler
      ↔ name = "LoginService" := by
  rcases h : gameConfig.getServerIpPort with _ | config
  · rw [construct_of_none h, preloadServicesCreateHandler, Std.ExtTreeMap.mem_insert,
      Std.LawfulEqCmp.compare_eq_iff_eq, or_iff_left Std.ExtTreeMap.not_mem_empty, eq_comm]
  · simp only [construct_of_some h, preloadServicesCreateHandler, Std.ExtTreeMap.mem_insert,
      Std.LawfulEqCmp.compare_eq_iff_eq, Std.ExtTreeMap.not_mem_empty, or_false, or_self]
    exact eq_comm

/-- **With a server section, the known services start** where they come before the unknown ones. -/
theorem starts_iff_of_some {config : AsioServerConfig}
    (h : gameConfig.getServerIpPort = some config) :
    Starts generator gameConfig world ↔ (construct gameConfig world).KnownFirst := by
  have hpreloaded : (construct gameConfig world).preloadServicesCreateHandler
      = construct gameConfig world := by
    rw [construct_of_some h, preloadServicesCreateHandler, preloadServicesCreateHandler]
    simp only [mk.injEq, true_and, and_true]
    rfl
  obtain ⟨made, hcreated, hlogins⟩ := logins_initGameServices generator
    (construct gameConfig world) (gameConfig.gameServiceConfigs.getD [])
  have haddress : (⟨(construct gameConfig world).ip, (construct gameConfig world).port,
      (construct gameConfig world).concurrency⟩ : AsioServerConfig) = address gameConfig := by
    rw [construct_of_some h, address, h]
    rfl
  have hmade : ((construct gameConfig world).initAllGameServices generator).2.created = made := by
    rw [initAllGameServices_eq, construct_gameConfig, hcreated,
      (construct_new gameConfig world).2.1, List.nil_append]
  have hempty : "" ∉ (construct gameConfig world).gameServicesCreateHandler := by
    rw [← hpreloaded, mem_preload_construct]
    decide
  rw [KnownFirst, construct_gameConfig, hpreloaded, ← handledServices_eq_filter_iff hempty]
  constructor
  · intro hstarts
    have hall := hstarts.created
    rw [knownServices, hpreloaded, construct_gameConfig, hmade] at hall
    exact handledServices_sublist.eq_of_length (hlogins.length_eq.trans hall.length_eq.symm)
  · intro hknown
    refine ⟨fun e he => ?_, ?_⟩
    · rw [initAllGameServices_eq, construct_gameConfig] at he
      rw [hpreloaded]
      exact exists_of_error he
    · rw [knownServices, hpreloaded, construct_gameConfig, ← hknown, hmade, initAllGameServices_eq,
        construct_gameConfig, ← haddress]
      exact hlogins

/-- **Without one, nothing is made.** -/
theorem created_of_none (h : gameConfig.getServerIpPort = none) :
    ((construct gameConfig world).initAllGameServices generator).2.created = [] := by
  have hempty := @construct_of_none _ world h
  obtain ⟨made, hcreated, hlogins⟩ := logins_initGameServices generator
    (construct gameConfig world) (gameConfig.gameServiceConfigs.getD [])
  rw [handledServices_of_empty (by rw [hempty])] at hlogins
  obtain rfl := List.forall₂_nil_left_iff.mp hlogins
  rw [initAllGameServices_eq, construct_gameConfig, hcreated, hempty]
  rfl

end GameMain

open GameMain

/-- **The known services start exactly where none is asked for**, or where the server section was
loaded and none is asked for behind an unknown one, whatever else the configuration holds. -/
theorem starts_iff (generator : ℕ → String) (gameConfig : GameConfig) (world : World) :
    Starts generator gameConfig world
      ↔ (construct gameConfig world).knownServices = []
        ∨ gameConfig.getServerIpPort.isSome = true
          ∧ (construct gameConfig world).KnownFirst := by
  have hnone : (construct gameConfig world).knownServices = []
      → (construct gameConfig world).KnownFirst := fun h =>
    List.pairwise_of_forall_mem_list fun _ _ later hlater _ _ => by
      simpa using List.filter_eq_nil_iff.mp h later hlater
  cases h : gameConfig.getServerIpPort with
  | some config =>
    rw [starts_iff_of_some h]
    exact ⟨fun hfirst => Or.inr ⟨rfl, hfirst⟩, fun hor => hor.elim hnone And.right⟩
  | none =>
    have hcreated := @created_of_none generator _ world h
    constructor
    · intro hstarts
      have hall := hstarts.created
      rw [hcreated] at hall
      exact Or.inl (List.forall₂_nil_right_iff.mp hall)
    · rintro (hknown | ⟨hsome, -⟩)
      · refine ⟨fun e he => ?_, by rw [hknown, hcreated]; exact .nil⟩
        rw [initAllGameServices_eq, construct_gameConfig] at he
        obtain ⟨service, hmem, hname, -⟩ := exists_of_error he
        rw [knownServices, construct_gameConfig] at hknown
        exact ⟨service, hmem, hname, by simpa using List.filter_eq_nil_iff.mp hknown service hmem⟩
      · cases hsome

/-- A login service, and no server section. -/
theorem not_starts_of_noServer :
    ¬ Starts (fun n => String.ofList (List.replicate n 'x'))
      ⟨(∅ : Std.ExtTreeMap String ConfigValue).insert GameConfig.servicesConfigStr
        (.services [⟨"LoginService", []⟩])⟩
      (World.construct fun n => String.ofList (List.replicate n 'x')) := by
  intro h
  obtain ⟨service, hmem, -, hunknown⟩ := h.throws (noHandler "LoginService") rfl
  obtain rfl : service = ⟨"LoginService", []⟩ := List.mem_singleton.mp hmem
  exact hunknown (by decide)

end MultiplayerServer
