import MultiplayerServer.Machinery.Runs
import MultiplayerServer.Game.LoginService

/-!
# Game/GameMain — the services of a process

`GameMain` of `game_main.h`: what the configuration asks for is made by a handler and recorded under
its name.  `record_game_service` assigns the name a new list before it appends, so what a list holds
is the service that came last.

* `recorded_iff` — everything made is on record in exactly the runs that never come to a name twice.
-/

namespace MultiplayerServer

open Machinery

/-- A function in `game_services_create_handler_`. -/
inductive CreateHandler
  /-- `create_entity<LoginService>(ip_, port_, game_config_)` -/
  | loginService
  deriving DecidableEq

/-- `GameMain` -/
structure GameMain where
  ip : String := "127.0.0.1"
  port : ℤ := 8080
  concurrency : ℤ := 2
  gameConfig : GameConfig
  world : World
  gameServices : Std.ExtTreeMap String (List EntityRef) := ∅
  gameServicesCreateHandler : Std.ExtTreeMap String CreateHandler := ∅
  /-- The services `init_game_service` created, in order, with the names it created them under. -/
  created : List (String × EntityRef) := []

namespace GameMain

variable (generator : ℕ → String) (g : GameMain)

/-- `preload_services_create_handler` -/
def preloadServicesCreateHandler : GameMain :=
  { g with
    gameServicesCreateHandler := g.gameServicesCreateHandler.insert "LoginService" .loginService }

/-- The constructor, given what is loaded; the factory is the one of the process. -/
def construct (gameConfig : GameConfig) (world : World) : GameMain :=
  match gameConfig.getServerIpPort with
  | none => { gameConfig := gameConfig, world := world }
  | some config =>
    { ip := config.ip, port := config.port, concurrency := config.concurrency
      gameConfig := gameConfig, world := world : GameMain }.preloadServicesCreateHandler

/-! ## Making services -/

/-- A call of a create handler. -/
def createService : CreateHandler → EntityRef × World
  | .loginService => g.world.createEntity generator (.loginService g.ip g.port)

/-- `record_game_service` -/
def recordGameService (name : String) (service : EntityRef) : GameMain :=
  { g with
    gameServices := (g.gameServices.insert name []).modify name (· ++ [service]) }

/-- What `init_game_service` throws. -/
def noHandler (name : String) : String :=
  "GameMain::init_game_service: can't find service create handler for " ++ name

/-- `init_game_service` -/
def initGameService (name : String) : Except String Unit × GameMain :=
  if name = "" then (.ok (), g)
  else
    match g.gameServicesCreateHandler[name]? with
    | some handler =>
      let (service, world) := g.createService generator handler
      let g := { g with world := world, created := g.created ++ [(name, service)] }
      (.ok (), g.recordGameService name service)
    | none => (.error (noHandler name), g)

/-- The loop of `init_all_game_services`. -/
def initGameServices (g : GameMain) : List GameServiceConfig → Except String Unit × GameMain
  | [] => (.ok (), g)
  | service :: services =>
    match g.initGameService generator service.serviceName with
    | (.error e, g) => (.error e, g)
    | (.ok (), g) => initGameServices g services

/-- `init_all_game_services` -/
def initAllGameServices : Except String Unit × GameMain :=
  match g.gameConfig.gameServiceConfigs with
  | none => (.ok (), g)
  | some services => g.initGameServices generator services

/-- Nothing has been made yet. -/
theorem construct_new (gameConfig : GameConfig) (world : World) :
    (construct gameConfig world).world = world ∧ (construct gameConfig world).created = []
      ∧ (construct gameConfig world).gameServices = ∅ := by
  rw [construct]
  split <;> exact ⟨rfl, rfl, rfl⟩

/-! ## Finding services -/

/-- `get_game_service(service_name)`: the `front()` of a list that is there. -/
def getGameService (name : String) : Option EntityRef :=
  g.gameServices[name]?.bind List.head?

/-- `get_game_service(service_name, id)` -/
def getGameServiceById (name id : String) : Option EntityRef :=
  g.gameServices[name]?.bind fun services =>
    services.find? fun e => g.world.objects.entities[e]?.any fun entity => entity.id = id

/-- `dynamic_pointer_cast<LoginService>` -/
def asLoginService (e : EntityRef) : Option EntityRef :=
  if g.world.objects.entities[e]?.any fun entity => entity.entityClass = .loginService then some e
  else none

/-- `on_client_connected`, with its result. -/
def onClientConnected (connection : ConnectionRef) : Bool × GameMain :=
  match (g.getGameService "LoginService").bind g.asLoginService with
  | some service =>
    let (taken, world) := g.world.onClientConnected generator g.gameConfig service connection
    (taken, { g with world := world })
  | none => (false, g)

/-! ## Runs -/

/-- A call of a process. -/
inductive GameEvent
  | initAllGameServices
  | onClientConnected (connection : ConnectionRef)
  deriving DecidableEq

/-- One call; an exception is the caller's. -/
def step (g : GameMain) : GameEvent → Option GameMain
  | .initAllGameServices => some (g.initAllGameServices generator).2
  | .onClientConnected connection => some (g.onClientConnected generator connection).2

/-- The runs of a process. -/
def machine : Machine GameMain GameEvent := ⟨step generator⟩

/-- The services that were created under a name. -/
def createdUnder (name : String) : List EntityRef :=
  (g.created.filter fun p => p.1 = name).map Prod.snd

/-- **Nothing that was made is lost**: the list of a name is what was created under it, and each of
these is found under its id. -/
structure Recorded : Prop where
  lists : ∀ name, g.gameServices[name]?.getD [] = g.createdUnder name
  found : ∀ {name : String} {e : EntityRef} {entity : Entity}, (name, e) ∈ g.created →
    g.world.objects.entities[e]? = some entity → g.getGameServiceById name entity.id = some e

/-- The names of a list that services are made under: an empty one is passed over, and one without a
handler ends the list. -/
def handled (g : GameMain) : List GameServiceConfig → List String
  | [] => []
  | service :: services =>
    if service.serviceName = "" then handled g services
    else if service.serviceName ∈ g.gameServicesCreateHandler then
      service.serviceName :: handled g services
    else []

/-- The names a call makes services under. -/
def creates : GameEvent → List String
  | .initAllGameServices => g.handled (g.gameConfig.gameServiceConfigs.getD [])
  | .onClientConnected _ => []

/-! ## What is on record -/

variable {generator g} {g' : GameMain} {name : String} {e : EntityRef}

/-- What a list holds is what came last. -/
def LastOnly (g : GameMain) : Prop :=
  ∀ name, g.gameServices[name]? = (g.createdUnder name).getLast?.map ([·])

/-- `g'` is made of what `g` is made of. -/
structure SameSetup (g g' : GameMain) : Prop where
  gameConfig : g'.gameConfig = g.gameConfig
  handlers : g'.gameServicesCreateHandler = g.gameServicesCreateHandler

theorem SameSetup.trans {g'' : GameMain} (h : SameSetup g g') (h' : SameSetup g' g'') :
    SameSetup g g'' := ⟨h'.gameConfig.trans h.gameConfig, h'.handlers.trans h.handlers⟩

theorem SameSetup.handled (h : SameSetup g g') (services : List GameServiceConfig) :
    g'.handled services = g.handled services := by
  induction services with
  | nil => rfl
  | cons service services ih => rw [GameMain.handled, GameMain.handled, ih, h.handlers]

theorem SameSetup.creates (h : SameSetup g g') (event : GameEvent) :
    g'.creates event = g.creates event := by
  cases event with
  | initAllGameServices => rw [GameMain.creates, h.gameConfig, h.handled, GameMain.creates]
  | onClientConnected connection => rfl

/-- **What recording does**, to any name. -/
theorem getElem?_recordGameService {service : EntityRef} {name' : String} :
    (g.recordGameService name service).gameServices[name']?
      = if name' = name then some [service] else g.gameServices[name']? := by
  rw [recordGameService, Std.ExtTreeMap.getElem?_modify]
  by_cases h : name' = name
  · simp [h]
  · simp [Std.ExtTreeMap.getElem?_insert, h, Ne.symm h]

@[simp] theorem created_recordGameService {service : EntityRef} :
    (g.recordGameService name service).created = g.created := rfl

/-- **One name**: nothing is made, or one service, which is recorded. -/
inductive Inits (generator : ℕ → String) (g : GameMain) (name : String) :
    Except String Unit × GameMain → Prop
  | passed (hname : name = "") : Inits generator g name (.ok (), g)
  | threw (hname : name ≠ "") (hhandler : name ∉ g.gameServicesCreateHandler) :
      Inits generator g name (.error (noHandler name), g)
  | made (hname : name ≠ "") (hhandler : name ∈ g.gameServicesCreateHandler)
      (handler : CreateHandler) :
      Inits generator g name (.ok (), { g with
        world := (g.createService generator handler).2
        created := g.created ++ [(name, (g.createService generator handler).1)]
          : GameMain }.recordGameService name (g.createService generator handler).1)

theorem inits_initGameService (generator : ℕ → String) (g : GameMain) (name : String) :
    Inits generator g name (g.initGameService generator name) := by
  by_cases hname : name = ""
  · rw [initGameService, if_pos hname]
    exact .passed hname
  rw [initGameService, if_neg hname]
  rcases hhandler : g.gameServicesCreateHandler[name]? with _ | handler
  · exact .threw hname fun hmem => by
      simp [Std.ExtTreeMap.mem_iff_isSome_getElem?, hhandler] at hmem
  · exact .made hname (by simp [Std.ExtTreeMap.mem_iff_isSome_getElem?, hhandler]) handler

theorem Inits.sameSetup {result : Except String Unit × GameMain}
    (h : Inits generator g name result) : SameSetup g result.2 := by
  rcases h with _ | _ | _ <;> exact ⟨rfl, rfl⟩

/-- **The loop rule**: what one name keeps, all of them keep. -/
theorem initAllGameServices_keeps {P : GameMain → Prop}
    (keep : ∀ {g : GameMain} {name : String} {result : Except String Unit × GameMain},
      P g → Inits generator g name result → P result.2) (h : P g) :
    P (g.initAllGameServices generator).2 := by
  have hservices (services : List GameServiceConfig) :
      P (g.initGameServices generator services).2 := by
    induction services generalizing g with
    | nil => exact h
    | cons service services ih =>
      have hkept := keep h (inits_initGameService generator g service.serviceName)
      rw [initGameServices]
      split
      · rename_i heq
        exact heq ▸ hkept
      · rename_i heq
        exact ih (by rwa [heq] at hkept)
  rw [initAllGameServices]
  split
  · exact h
  · exact hservices _

/-- …and of the world, what making an entity keeps. -/
theorem initAllGameServices_world {P : World → Prop}
    (keep : ∀ w args, P w → P (w.createEntity generator args).2) (h : P g.world) :
    P (g.initAllGameServices generator).2.world := by
  refine initAllGameServices_keeps (P := fun g => P g.world) (fun {g name result} hg hinits => ?_) h
  rcases hinits with _ | _ | ⟨-, -, _ | _⟩
  · exact hg
  · exact hg
  · exact keep _ _ hg

theorem createdUnder_concat {service : EntityRef} {name' : String} :
    ((g.created ++ [(name, service)]).filter fun p => p.1 = name').map Prod.snd
      = g.createdUnder name' ++ if name' = name then [service] else [] := by
  by_cases h : name' = name
  · simp [createdUnder, h]
  · simp [createdUnder, h, Ne.symm h]

theorem Inits.lastOnly {result : Except String Unit × GameMain} (h : Inits generator g name result)
    (hg : g.LastOnly) : result.2.LastOnly := by
  rcases h with _ | _ | ⟨-, -, handler⟩
  · exact hg
  · exact hg
  · intro name'
    rw [getElem?_recordGameService]
    refine Eq.trans ?_ (congrArg (fun l => l.getLast?.map ([·])) createdUnder_concat).symm
    by_cases h : name' = name
    · simp [h]
    · simpa [h] using hg name'

theorem initGameServices_spec (services : List GameServiceConfig) (hg : g.LastOnly) :
    (g.initGameServices generator services).2.LastOnly
      ∧ SameSetup g (g.initGameServices generator services).2
      ∧ (g.initGameServices generator services).2.created.map Prod.fst
        = g.created.map Prod.fst ++ g.handled services := by
  induction services generalizing g with
  | nil => exact ⟨hg, ⟨rfl, rfl⟩, by simp [initGameServices, handled]⟩
  | cons service services ih =>
    have hinits := inits_initGameService generator g service.serviceName
    have hlast := hinits.lastOnly hg
    have hsame := hinits.sameSetup
    rw [initGameServices, handled]
    generalize g.initGameService generator service.serviceName = result at hinits hlast hsame ⊢
    rcases hinits with hname | ⟨hname, hhandler⟩ | ⟨hname, hhandler, handler⟩
    · simpa [hname] using ih hg
    · exact ⟨hg, ⟨rfl, rfl⟩, by simp [hname, hhandler]⟩
    · obtain ⟨hrest, hsetup, hcreated⟩ := ih hlast
      refine ⟨hrest, hsame.trans hsetup, hcreated.trans ?_⟩
      rw [if_neg hname, if_pos hhandler, hsame.handled, created_recordGameService,
        List.map_append, List.append_assoc]
      rfl

theorem exists_step (generator : ℕ → String) (g : GameMain) (event : GameEvent) :
    ∃ g', (machine generator).step g event = some g' := by
  cases event <;> exact ⟨_, rfl⟩

/-- **One call**: it adds what it creates. -/
theorem step_spec {event : GameEvent} (hg : g.LastOnly)
    (h : (machine generator).step g event = some g') :
    g'.LastOnly ∧ SameSetup g g'
      ∧ g'.created.map Prod.fst = g.created.map Prod.fst ++ g.creates event := by
  cases event with
  | initAllGameServices =>
    obtain rfl := Option.some.inj h
    rw [initAllGameServices, creates]
    rcases g.gameConfig.gameServiceConfigs with _ | services
    · exact ⟨hg, ⟨rfl, rfl⟩, by simp [handled]⟩
    · exact initGameServices_spec services hg
  | onClientConnected connection =>
    obtain rfl := Option.some.inj h
    rw [onClientConnected, creates, List.append_nil]
    split
    · exact ⟨hg, ⟨rfl, rfl⟩, rfl⟩
    · exact ⟨hg, ⟨rfl, rfl⟩, rfl⟩

theorem length_createdUnder :
    (g.createdUnder name).length = (g.created.map Prod.fst).count name := by
  rw [createdUnder, List.length_map, List.count, List.countP_map, List.countP_eq_length_filter]
  rfl

/-- **Nothing is lost while no name comes twice.** -/
theorem LastOnly.recorded_iff_nodup (hg : g.LastOnly) :
    g.Recorded ↔ (g.created.map Prod.fst).Nodup := by
  rw [List.nodup_iff_count_le_one]
  constructor
  · intro h name
    rw [← length_createdUnder, ← h.lists name, hg name]
    cases (g.createdUnder name).getLast? <;> simp
  · intro h
    have honce (name : String) : (g.createdUnder name).length ≤ 1 :=
      length_createdUnder.trans_le (h name)
    refine ⟨fun name => ?_, fun {name e entity} he hentity => ?_⟩
    · rw [hg name]
      rcases hlist : g.createdUnder name with _ | ⟨a, _ | ⟨b, l⟩⟩
      · rfl
      · rfl
      · simpa [hlist] using honce name
    · have hin : e ∈ g.createdUnder name := by simpa [createdUnder] using he
      rw [getGameServiceById, hg name]
      rcases hlist : g.createdUnder name with _ | ⟨a, _ | ⟨b, l⟩⟩
      · simp [hlist] at hin
      · obtain rfl : e = a := by simpa [hlist] using hin
        simp [hentity]
      · simpa [hlist] using honce name

end GameMain

open GameMain

/-- **Nothing is lost in exactly the runs that never come to a name twice**, whatever the
configuration and whatever there was before. -/
theorem recorded_iff (generator : ℕ → String) (gameConfig : GameConfig) (world : World)
    (es : List GameEvent) :
    (GameMain.machine generator).Always Recorded (construct gameConfig world) es
      ↔ (es.flatMap (construct gameConfig world).creates).Nodup := by
  suffices h : ∀ g : GameMain, g.LastOnly → SameSetup (construct gameConfig world) g →
      ((GameMain.machine generator).Always Recorded g es
        ↔ (g.created.map Prod.fst ++ es.flatMap (construct gameConfig world).creates).Nodup) by
    obtain ⟨-, hcreated, hservices⟩ := construct_new gameConfig world
    rw [h _ (fun name => by simp [createdUnder, hcreated, hservices]) ⟨rfl, rfl⟩, hcreated]
    rfl
  intro g hg hsetup
  induction es generalizing g with
  | nil => simpa using hg.recorded_iff_nodup
  | cons event es ih =>
    obtain ⟨g', hstep⟩ := exists_step generator g event
    obtain ⟨hlast, hsame, hcreated⟩ := step_spec hg hstep
    have hrest := ih g' hlast (hsetup.trans hsame)
    rw [hcreated, hsetup.creates event, List.append_assoc] at hrest
    rw [Machine.always_cons, List.flatMap_cons, ← hrest]
    refine ⟨fun h => h.2 g' hstep, fun h => ⟨?_, fun g'' hstep' => ?_⟩⟩
    · exact hg.recorded_iff_nodup.mpr (List.nodup_append.mp (hrest.mp h)).1
    · exact Option.some.inj (hstep.symm.trans hstep') ▸ h

/-- A configuration that names the same service twice. -/
theorem not_recorded_of_twice :
    ¬ (GameMain.machine fun n => String.ofList (List.replicate n 'x')).Always Recorded
      (construct ⟨((∅ : Std.ExtTreeMap String ConfigValue).insert GameConfig.serverConfigStr
          (.server ⟨"127.0.0.1", 8080, 2⟩)).insert GameConfig.servicesConfigStr
          (.services [⟨"LoginService", []⟩, ⟨"LoginService", []⟩])⟩
        (World.construct fun n => String.ofList (List.replicate n 'x')))
      [.initAllGameServices] := by
  intro h
  have hlists := (h.last rfl).lists "LoginService"
  revert hlists
  decide

end MultiplayerServer
