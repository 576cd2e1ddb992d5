import MultiplayerServer.Config.ConfigPath
import MultiplayerServer.Config.Loadable
import MultiplayerServer.Game.Startup
import MultiplayerServer.Log.LoggerManager
import MultiplayerServer.Network.ThreadPool

/-!
# Process/Main — from the command line to `wait`

`main` of `main.cpp`, with the `ArgParser` it begins with: a path is read off the command line and
checked, the game is made of what is loaded from it, and a server of what the game is told.  The
constructors on the way ask for loggers, each of which opens a file.  What the process asks of the
rest of the world, and is answered the same way every time, is a `Host`.

* `createGameMain_cases`, `startAsioServer_cases` — what each part of `main` takes.
* `main_iff` — the command lines that bring up a server, and those that make a process of no
  threads, which is done at once.
-/

namespace MultiplayerServer

open Machinery

/-! ## The command line -/

/-- `po::variables_map`, as far as it is asked. -/
structure VariablesMap where
  /-- `count("help")` -/
  help : ℕ
  /-- `vm["config"].as<std::string>()`, where there is one. -/
  config : Option String
  deriving DecidableEq

/-- `ArgParser` -/
structure ArgParser where
  argv : List String
  configFilePath : String := ""
  deriving DecidableEq

/-- `parse`, given what `boost::program_options` finds on a command line; `none` is an exception
of its, which is caught. -/
def ArgParser.parse (store : List String → Option VariablesMap) (parser : ArgParser) :
    Bool × ArgParser :=
  match store parser.argv with
  | none => (false, parser)
  | some vm =>
    if vm.help > 0 then (false, parser)
    else
      match vm.config with
      | some path => (true, { parser with configFilePath := path })
      | none => (false, parser)

/-! ## The process -/

/-- What a process finds.  To ask for the status of a file, to open a socket and to set an option of
one is taken to succeed, and the assertions of RapidJSON to be on, which a Release build leaves out.
-/
structure Host where
  /-- `parse_command_line`, `store` and `notify` -/
  commandLine : List String → Option VariablesMap
  /-- Whether the file of a sink opens; spdlog throws otherwise. -/
  opens : SpdlogSink → Bool
  files : FileSystem
  /-- What a file is parsed as; there is nothing where it cannot be read or parsed. -/
  parsed : String → Option Json
  net : Net
  /-- What an uninitialised array holds. -/
  memory : ReceiveBuffer
  generator : ℕ → String
  /-- Whether so many threads can be started; the constructor of a thread throws otherwise. -/
  spawns : ℕ → Bool

/-- A process that waits for its threads.  The loggers that their handlers ask for are there. -/
structure Process where
  server : AsioServer
  game : GameMain

/-- What comes of `main`. -/
inductive MainOutcome
  | returned (status : ExitStatus)
  /-- An exception has left `main`. -/
  | terminated
  /-- An assertion of RapidJSON has failed. -/
  | aborted
  /-- `wait` is called while there are threads, and nobody stops them. -/
  | waiting (p : Process)

namespace Host

variable (host : Host)

/-- `create_logger`, as the constructors call it; there is none where an exception leaves it. -/
def createLogger (loggerName logFilePath : String) (loggers : LoggerManager) :
    Option LoggerManager :=
  (loggers.createLogger host.opens loggerName .debug logFilePath none).map Prod.snd

/-- `g_logger_manager` and `g_file_logger`, which are made before `main` is called. -/
def globalLoggers : Option LoggerManager := do
  let loggers ← LoggerManager.construct host.opens
  host.createLogger "common" "log/major.log" loggers

/-- `GameMain`, and `init_all_game_services`. -/
def createGameMain (path : String) (loggers : LoggerManager) :
    Except MainOutcome (GameMain × LoggerManager) :=
  match host.createLogger "GameConfig" "log/game_config.log" loggers with
  | none => .error .terminated
  | some loggers =>
    match ({} : GameConfig).loadConfigFile host.files path host.parsed with
    | none => .error .aborted
    | some gameConfig =>
      match (GameMain.construct gameConfig (.construct host.generator)).initAllGameServices
          host.generator with
      | (.error _, _) => .error .terminated
      | (.ok (), game) =>
        -- the first service asks as it is made: an exception leaves `main` from there as well
        if game.created = [] then .ok (game, loggers)
        else
          match host.createLogger "Entity" "log/entity.log" loggers with
          | none => .error .terminated
          | some loggers => .ok (game, loggers)

/-- `AsioServer`, with what it is told of the game, and `start` as far as the threads; there is none
where an exception leaves it. -/
def startAsioServer (game : GameMain) (loggers : LoggerManager) : Option AsioServer :=
  match host.createLogger "AsioServer" "log/AsioServer.log" loggers with
  | none => none
  | some loggers =>
    match (AsioServer.ofGameMain game).start host.net host.memory with
    | (.error _, _) => none
    | (.ok _, server) =>
      -- the connection that the first client is to have asks as it is made, on the way
      match host.createLogger "AsioTcpConnection" "log/AsioTcpConnection.log" loggers with
      | none => none
      | some _ => some server

end Host

/-- `main`, with what comes before it. -/
def main (host : Host) (argv : List String) : MainOutcome :=
  match host.globalLoggers with
  | none => .terminated
  | some loggers =>
    match ArgParser.parse host.commandLine { argv } with
    | (false, _) => .returned .failure
    | (true, parser) =>
      match checkConfigFile host.files parser.configFilePath with
      | none => .terminated
      | some .failure => .returned .failure
      | some .success =>
        match host.createGameMain parser.configFilePath loggers with
        | .error outcome => outcome
        | .ok (game, loggers) =>
          match host.startAsioServer game loggers with
          | none => .terminated
          | some server =>
            if server.joinable = 0 then .returned .success
            else if host.spawns server.joinable then .waiting { server, game }
            else .terminated

/-! ## What it takes -/

namespace Host

variable (host : Host) (argv : List String) (path : String)

/-- The document at a path, where the loader takes it for one. -/
def document : Option Json :=
  if extension path = ".json".toList then host.parsed path else none

/-- The server section there. -/
def serverGiven : Option AsioServerConfig := (host.document path).bind GameConfig.serverSection

/-- The address to listen on, with the number of threads: the default ones where nothing is
given. -/
def address : AsioServerConfig :=
  (host.serverGiven path).getD { ip := "127.0.0.1", port := 8080, concurrency := 2 }

/-- The services to start: none where the login section that comes before them is not given. -/
def services : List GameServiceConfig :=
  ((host.document path).bind fun tree =>
    (GameConfig.loginSection tree).bind fun _ => GameConfig.servicesSection tree).getD []

/-- A file that can be logged to. -/
def Logs (file : String) : Prop := host.opens (.basicFile file false) = true

/-- **The game can be made**: its log files open, the document stops no assertion, and no service is
unknown. -/
structure GameReady : Prop where
  configLog : host.Logs "log/game_config.log"
  readable : ∀ tree ∈ host.document path, GameConfig.Readable tree
  known : ∀ service ∈ host.services path, service.serviceName ≠ "" →
    service.serviceName = "LoginService" ∧ (host.serverGiven path).isSome
  /-- An entity logs, and there is one for each service. -/
  entityLog : ∀ service ∈ host.services path, service.serviceName ≠ "" → host.Logs "log/entity.log"

/-- **The server can be made**: its log files open, and the address can be listened on. -/
structure ServerReady (ip : String) (port : ℤ) : Prop where
  serverLog : host.Logs "log/AsioServer.log"
  listens : ∃ endpoint, host.net.resolve ip port = some endpoint
    ∧ host.net.binds endpoint [] = true
  connectionLog : host.Logs "log/AsioTcpConnection.log"

/-- **All is well up to the threads**: a path is given and taken, and the game and the server can be
made. -/
structure Ready : Prop where
  majorLog : host.Logs "log/major.log"
  asked : ∃ vm ∈ host.commandLine argv, vm.help = 0 ∧ vm.config = some path
  checked : checkConfigFile host.files path = some .success
  game : host.GameReady path
  server : host.ServerReady (host.address path).ip (host.address path).port

end Host

/-! ## The configuration -/

section Loaded

variable {host : Host} {path : String} {g : GameConfig}

/-- What has been loaded, if a document stops no assertion. -/
theorem Host.loadConfigFile_eq (h : checkConfigFile host.files path = some .success) :
    ({} : GameConfig).loadConfigFile host.files path host.parsed
      = ({} : GameConfig).loadConfig (host.document path) := by
  have hempty : path ≠ "" := by
    rintro rfl
    simp [checkConfigFile] at h
  rw [checkConfigFile, if_neg hempty] at h
  rw [GameConfig.loadConfigFile, Host.document]
  split at h
  · cases h
  · rename_i hexists
    split at h
    · cases h
    · rename_i hregular
      rw [if_neg hexists, if_neg hregular]
      by_cases hext : extension path = ".json".toList
      · rw [if_neg (not_not.mpr hext), if_pos hext]
      · rw [if_pos hext, if_neg hext]
        rfl

/-- **No assertion is stopped** exactly by a document that is readable, or by none at all. -/
theorem Host.isSome_loadConfig :
    (({} : GameConfig).loadConfig (host.document path)).isSome
      ↔ ∀ tree ∈ host.document path, GameConfig.Readable tree := by
  rcases host.document path with _ | tree
  · simp [GameConfig.loadConfig]
  refine ⟨fun hload tree' htree' => ?_, fun h => by rw [(h tree rfl).loadConfig]; rfl⟩
  obtain rfl := Option.some.inj htree'
  have hroot : tree.isObject := GameConfig.isObject_of_loadConfig hload
  obtain ⟨hserver, hloggers, hlogin, hservices⟩ := (GameConfig.isSome_loadConfig hroot).mp hload
  exact ⟨hroot, hserver, hloggers, hlogin, hservices⟩

/-- **What has been loaded is what the document gives.** -/
theorem Host.loaded_eq (h : ({} : GameConfig).loadConfig (host.document path) = some g) :
    g.getServerIpPort = host.serverGiven path
      ∧ g.gameServiceConfigs.getD [] = host.services path
      ∧ g.loginEntityConfig = (host.document path).bind GameConfig.loginSection := by
  rw [Host.serverGiven, Host.services]
  rcases hdoc : host.document path with _ | tree <;> rw [hdoc] at h
  · obtain rfl := Option.some.inj h
    exact ⟨by simp [GameConfig.getServerIpPort, GameConfig.get],
      by simp [GameConfig.gameServiceConfigs, GameConfig.get],
      by simp [GameConfig.loginEntityConfig, GameConfig.get]⟩
  · rw [GameConfig.loadConfig_eq h, GameConfig.getServerIpPort_entries,
      GameConfig.gameServiceConfigs_entries, GameConfig.loginEntityConfig_entries]
    exact ⟨rfl, rfl, rfl⟩

/-- A number of threads is an `int`. -/
theorem Host.isInt32_concurrency (h : ({} : GameConfig).loadConfig (host.document path) = some g) :
    IsInt32 (host.address path).concurrency := by
  have hloadable := GameConfig.loadable_new.loadConfig h
  rw [Host.address, ← (Host.loaded_eq h).1]
  rcases hserver : g.getServerIpPort with _ | config
  · exact ⟨by decide, by decide⟩
  · exact (hloadable.server config hserver).2.2

end Loaded

/-! ## The services -/

namespace GameMain

variable {generator : ℕ → String} {g : GameMain} {gameConfig : GameConfig} {world : World}
  {services : List GameServiceConfig}

/-- **The loop gets through** exactly where every name it comes to has a handler. -/
theorem isOk_initGameServices_iff :
    (∃ u, (g.initGameServices generator services).1 = .ok u)
      ↔ ∀ service ∈ services, service.serviceName ≠ "" →
        service.serviceName ∈ g.gameServicesCreateHandler := by
  induction services generalizing g with
  | nil => simp [initGameServices]
  | cons service services ih =>
    have hinits := inits_initGameService generator g service.serviceName
    have hsame := hinits.sameSetup
    rw [initGameServices, List.forall_mem_cons]
    generalize g.initGameService generator service.serviceName = result at hinits hsame ⊢
    rcases hinits with hname | ⟨hname, hhandler⟩ | ⟨hname, hhandler, handler⟩
    · simp [hname, ih]
    · simp [hname, hhandler]
    · rw [ih, hsame.handlers]
      simp [hhandler]

/-- **A loop that gets through makes nothing** exactly where no entry has a name. -/
theorem created_eq_nil_iff (generator : ℕ → String) (services : List GameServiceConfig)
    (hnew : g.created = [])
    (hok : ∃ u, (g.initGameServices generator services).1 = .ok u) :
    (g.initGameServices generator services).2.created = []
      ↔ ∀ service ∈ services, service.serviceName = "" := by
  obtain ⟨made, hcreated, hmade⟩ := created_initGameServices generator g services
  rw [handledServices_eq_filter (isOk_initGameServices_iff.mp hok)] at hmade
  rw [hcreated, hnew, List.nil_append, ← List.length_eq_zero_iff, ← hmade.length_eq,
    List.length_eq_zero_iff]
  simp [List.filter_eq_nil_iff]

/-- What the constructor knows: a service of one name, and that where there is a server section. -/
theorem mem_handlers_construct {name : String} :
    name ∈ (construct gameConfig world).gameServicesCreateHandler
      ↔ name = "LoginService" ∧ gameConfig.getServerIpPort.isSome := by
  rcases h : gameConfig.getServerIpPort with _ | config
  · simp [construct_of_none h]
  · simp only [construct_of_some h, preloadServicesCreateHandler, Std.ExtTreeMap.mem_insert,
      Std.LawfulEqCmp.compare_eq_iff_eq, Std.ExtTreeMap.not_mem_empty, or_false, Option.isSome_some,
      and_true]
    exact eq_comm

variable (generator gameConfig world) in
/-- No service changes the address. -/
theorem address_initAllGameServices :
    (⟨((construct gameConfig world).initAllGameServices generator).2.ip,
      ((construct gameConfig world).initAllGameServices generator).2.port,
      ((construct gameConfig world).initAllGameServices generator).2.concurrency⟩
        : AsioServerConfig) = address gameConfig := by
  refine initAllGameServices_keeps
    (P := fun g => (⟨g.ip, g.port, g.concurrency⟩ : AsioServerConfig) = address gameConfig)
    (fun {g name result} h hinits => ?_) ?_
  · rcases hinits with _ | _ | _ <;> exact h
  · rw [address]
    rcases h : gameConfig.getServerIpPort with _ | config
    · rw [construct_of_none h]
      rfl
    · rw [construct_of_some h]
      rfl

end GameMain

/-! ## The server -/

namespace AsioServer

variable {net : Net} {memory : ReceiveBuffer}

variable (net memory) in
/-- **A server that has just been made starts** exactly where it can listen, with as many threads as
it was told. -/
theorem start_ofGameMain (game : GameMain) :
    (∃ endpoint, net.resolve game.ip game.port = some endpoint ∧ net.binds endpoint [] = true)
        ∧ (∃ server, (ofGameMain game).start net memory = (.ok true, server)
          ∧ server.joinable = threadCount game.concurrency)
      ∨ (¬ ∃ endpoint, net.resolve game.ip game.port = some endpoint
          ∧ net.binds endpoint [] = true)
        ∧ ∃ e server, (ofGameMain game).start net memory = (.error e, server) := by
  rcases hr : net.resolve game.ip game.port with _ | endpoint
  · simp [start, ofGameMain, construct, startTcpAccept, hr]
  rcases hb : net.binds endpoint [] with _ | _
  · simp [start, ofGameMain, construct, startTcpAccept, makeAcceptor, hr, hb]
  · simp [start, ofGameMain, construct, startTcpAccept, makeAcceptor, asyncAccept,
      startIoContextThreadPool, hr, hb]

/-- No threads are started exactly where none are asked for. -/
theorem threadCount_eq_zero_iff {n : ℤ} (h : IsInt32 n) : threadCount n = 0 ↔ n = 0 := by
  obtain ⟨hlo, hhi⟩ := h
  rw [threadCount, BitVec.toNat_ofInt]
  omega

end AsioServer

/-! ## From the command line to the threads -/

namespace Host

variable {host : Host} {argv : List String} {path : String} {loggers : LoggerManager}

/-- The path that is read off the command line. -/
theorem parse_eq_iff : (∃ vm ∈ host.commandLine argv, vm.help = 0 ∧ vm.config = some path)
    ↔ ArgParser.parse host.commandLine { argv } = (true, { argv, configFilePath := path }) := by
  rw [ArgParser.parse]
  rcases host.commandLine argv with _ | ⟨help, config⟩
  · simp
  rcases Nat.eq_zero_or_pos help with rfl | hhelp
  · rcases config with _ | path' <;> simp
  · simp [hhelp, hhelp.ne']

theorem argv_parse (store : List String → Option VariablesMap) (parser : ArgParser) :
    (ArgParser.parse store parser).2.argv = parser.argv := by
  rw [ArgParser.parse]
  split
  · rfl
  · split
    · rfl
    · split <;> rfl

/-- What the process is, once it waits. -/
structure Brought (host : Host) (path : String) (p : Process) : Prop where
  game : ∃ g, ({} : GameConfig).loadConfig (host.document path) = some g
    ∧ (GameMain.construct g (.construct host.generator)).initAllGameServices host.generator
      = (.ok (), p.game)
  server : (AsioServer.ofGameMain p.game).start host.net host.memory = (.ok true, p.server)

/-- The process waits, or has come to an end as it should. -/
def CameUp : MainOutcome → Prop
  | .returned .success => True
  | .waiting _ => True
  | _ => False

variable (host) in
/-- A logger of a new name. -/
theorem createLogger_cases (file : String) {loggerName : String} {names : List String}
    (h : loggers.Lacks (loggerName :: names)) (hnew : loggerName ∉ names) (hfile : file ≠ "") :
    host.Logs file ∧ (∃ loggers', host.createLogger loggerName file loggers = some loggers'
        ∧ loggers'.Lacks names)
      ∨ ¬ host.Logs file ∧ host.createLogger loggerName file loggers = none := by
  rw [createLogger]
  rcases h.createLogger_cases host.opens .debug hnew hfile with
    ⟨hopens, r, loggers', hcreate, hlacks⟩ | ⟨hopens, hcreate⟩
  · exact Or.inl ⟨hopens, loggers', by rw [hcreate]; rfl, hlacks⟩
  · exact Or.inr ⟨by simp [Logs, hopens], by rw [hcreate]; rfl⟩

variable (host) in
/-- **What comes before `main`** is one file that is logged to. -/
theorem globalLoggers_cases :
    host.Logs "log/major.log" ∧ (∃ loggers, host.globalLoggers = some loggers
        ∧ loggers.Lacks ["GameConfig", "Entity", "AsioServer", "AsioTcpConnection"])
      ∨ ¬ host.Logs "log/major.log" ∧ host.globalLoggers = none := by
  rw [globalLoggers, LoggerManager.construct_eq]
  exact createLogger_cases host "log/major.log" (fun _ _ => Std.ExtTreeMap.getElem?_empty)
    (by decide) (by decide)

/-- Every service there is to start is started, if there is a handler for each. -/
theorem isOk_initAllGameServices_iff {g : GameConfig}
    (hload : ({} : GameConfig).loadConfig (host.document path) = some g) :
    (∃ u, ((GameMain.construct g (.construct host.generator)).initAllGameServices
        host.generator).1 = .ok u)
      ↔ ∀ service ∈ host.services path, service.serviceName ≠ "" →
        service.serviceName = "LoginService" ∧ (host.serverGiven path).isSome := by
  obtain ⟨hserver, hservices, -⟩ := loaded_eq hload
  rw [GameMain.initAllGameServices_eq, GameMain.construct_gameConfig,
    GameMain.isOk_initGameServices_iff, hservices]
  simp only [GameMain.mem_handlers_construct, hserver]

/-- There is none that is started exactly where none has a name. -/
theorem created_initAllGameServices_eq_nil_iff {g : GameConfig} {game : GameMain}
    (hload : ({} : GameConfig).loadConfig (host.document path) = some g)
    (hinit : (GameMain.construct g (.construct host.generator)).initAllGameServices host.generator
      = (.ok (), game)) :
    game.created = [] ↔ ∀ service ∈ host.services path, service.serviceName = "" := by
  obtain ⟨-, hservices, -⟩ := loaded_eq hload
  have hcreated := GameMain.created_eq_nil_iff host.generator (g.gameServiceConfigs.getD [])
    (GameMain.construct_new g (.construct host.generator)).2.1
  rw [GameMain.initAllGameServices_eq, GameMain.construct_gameConfig] at hinit
  rw [hinit, hservices] at hcreated
  exact hcreated ⟨(), rfl⟩

/-- The address the game tells the server. -/
theorem address_eq {g : GameConfig} {result : Except String Unit} {game : GameMain}
    (hload : ({} : GameConfig).loadConfig (host.document path) = some g)
    (hinit : (GameMain.construct g (.construct host.generator)).initAllGameServices host.generator
      = (result, game)) :
    host.address path = ⟨game.ip, game.port, game.concurrency⟩ := by
  have haddress := GameMain.address_initAllGameServices host.generator g (.construct host.generator)
  rw [hinit] at haddress
  rw [haddress, GameMain.address, (loaded_eq hload).1, Host.address]

/-- **What it takes to make the game**, of a path that has been checked. -/
theorem createGameMain_cases
    (hcheck : checkConfigFile host.files path = some .success)
    (hlacks : loggers.Lacks ["GameConfig", "Entity", "AsioServer", "AsioTcpConnection"]) :
    host.GameReady path ∧ (∃ g game loggers',
        ({} : GameConfig).loadConfig (host.document path) = some g
          ∧ (GameMain.construct g (.construct host.generator)).initAllGameServices host.generator
            = (.ok (), game)
          ∧ host.createGameMain path loggers = .ok (game, loggers')
          ∧ loggers'.Lacks ["AsioServer", "AsioTcpConnection"])
      ∨ ¬ host.GameReady path
        ∧ ∃ outcome, host.createGameMain path loggers = .error outcome ∧ ¬ CameUp outcome := by
  rw [createGameMain, loadConfigFile_eq hcheck]
  rcases createLogger_cases host "log/game_config.log" hlacks (by decide) (by decide) with
    ⟨hconfigLog, loggers₁, hlogger, hlacks₁⟩ | ⟨hconfigLog, hlogger⟩ <;>
    rw [hlogger] <;> dsimp only
  rotate_left
  · exact Or.inr ⟨fun h => hconfigLog h.configLog, _, rfl, id⟩
  rcases hload : ({} : GameConfig).loadConfig (host.document path) with _ | g <;> dsimp only
  · refine Or.inr ⟨fun h => ?_, _, rfl, id⟩
    have hsome := isSome_loadConfig.mpr h.readable
    rw [hload] at hsome
    cases hsome
  have hknown := isOk_initAllGameServices_iff hload
  rcases hinit : (GameMain.construct g (.construct host.generator)).initAllGameServices
    host.generator with ⟨e | _, game⟩ <;> dsimp only
  · refine Or.inr ⟨fun h => ?_, _, rfl, id⟩
    obtain ⟨u, hu⟩ := hknown.mpr h.known
    rw [hinit] at hu
    cases hu
  rw [hinit] at hknown
  have hreadable := isSome_loadConfig.mp (by rw [hload]; rfl)
  have hnone := created_initAllGameServices_eq_nil_iff hload hinit
  by_cases hcreated : game.created = []
  · rw [if_pos hcreated]
    have hnames := hnone.mp hcreated
    exact Or.inl ⟨⟨hconfigLog, hreadable, hknown.mp ⟨(), rfl⟩,
        fun service hmem hname => absurd (hnames service hmem) hname⟩,
      g, game, loggers₁, rfl, hinit, rfl,
      fun name hname => hlacks₁ name (List.mem_cons_of_mem _ hname)⟩
  rw [if_neg hcreated]
  rcases createLogger_cases host "log/entity.log" hlacks₁ (by decide) (by decide) with
    ⟨hentityLog, loggers₂, hlogger₂, hlacks₂⟩ | ⟨hentityLog, hlogger₂⟩ <;>
    rw [hlogger₂]
  · exact Or.inl ⟨⟨hconfigLog, hreadable, hknown.mp ⟨(), rfl⟩, fun _ _ _ => hentityLog⟩,
      g, game, loggers₂, rfl, hinit, rfl, hlacks₂⟩
  · refine Or.inr ⟨fun h => hcreated (hnone.mpr fun service hmem => ?_), _, rfl, id⟩
    by_contra hname
    exact hentityLog (h.entityLog service hmem hname)

variable (host) in
/-- **What it takes to make the server.** -/
theorem startAsioServer_cases (game : GameMain)
    (hlacks : loggers.Lacks ["AsioServer", "AsioTcpConnection"]) :
    host.ServerReady game.ip game.port ∧ (∃ server,
        (AsioServer.ofGameMain game).start host.net host.memory = (.ok true, server)
          ∧ server.joinable = AsioServer.threadCount game.concurrency
          ∧ host.startAsioServer game loggers = some server)
      ∨ ¬ host.ServerReady game.ip game.port ∧ host.startAsioServer game loggers = none := by
  rw [startAsioServer]
  rcases createLogger_cases host "log/AsioServer.log" hlacks (by decide) (by decide) with
    ⟨hserverLog, loggers₁, hlogger, hlacks₁⟩ | ⟨hserverLog, hlogger⟩ <;>
    rw [hlogger] <;> dsimp only
  rotate_left
  · exact Or.inr ⟨fun h => hserverLog h.serverLog, rfl⟩
  rcases AsioServer.start_ofGameMain host.net host.memory game with
    ⟨hlistens, server, hstart, hthreads⟩ | ⟨hlistens, e, server, hstart⟩ <;> rw [hstart] <;>
    dsimp only
  rotate_left
  · exact Or.inr ⟨fun h => hlistens h.listens, rfl⟩
  rcases createLogger_cases host "log/AsioTcpConnection.log" hlacks₁ (by decide) (by decide) with
    ⟨hconnectionLog, loggers₂, hlogger₂, -⟩ | ⟨hconnectionLog, hlogger₂⟩ <;>
    rw [hlogger₂]
  · exact Or.inl ⟨⟨hserverLog, hlistens, hconnectionLog⟩, server, rfl, hthreads, rfl⟩
  · exact Or.inr ⟨fun h => hconnectionLog h.connectionLog, rfl⟩

/-- **Where all is well, only the threads are left**, and otherwise the process does not come up.
-/
theorem main_cases (host : Host) (argv : List String) :
    (∃ path p, host.Ready argv path ∧ Brought host path p
        ∧ main host argv = if (host.address path).concurrency = 0 then .returned .success
          else if host.spawns (AsioServer.threadCount (host.address path).concurrency) then
            .waiting p
          else .terminated)
      ∨ (¬ ∃ path, host.Ready argv path) ∧ ¬ CameUp (main host argv) := by
  have hargv := argv_parse host.commandLine { argv }
  have hparses (path : String) : host.Ready argv path →
      ArgParser.parse host.commandLine { argv } = (true, { argv, configFilePath := path }) :=
    fun h => parse_eq_iff.mp h.asked
  rw [main]
  rcases globalLoggers_cases host with ⟨hmajorLog, loggers, hglobal, hlacks⟩ | ⟨hmajorLog, hglobal⟩
    <;> rw [hglobal] <;> dsimp only
  rotate_left
  · exact Or.inr ⟨fun ⟨_, h⟩ => hmajorLog h.majorLog, id⟩
  rcases hparse : ArgParser.parse host.commandLine { argv } with ⟨_ | _, parser⟩ <;>
    rw [hparse] at hargv hparses
  · exact Or.inr ⟨fun ⟨path, h⟩ => (by cases hparses path h), id⟩
  obtain ⟨argv', path⟩ := parser
  obtain rfl : argv' = argv := hargv
  have hasked := parse_eq_iff.mpr hparse
  -- whatever else it takes, it takes of this path
  have hpath {path' : String} (h : host.Ready argv' path') : host.Ready argv' path := by
    obtain rfl : path = path' := by simpa using hparses path' h
    exact h
  dsimp only
  rcases hcheck : checkConfigFile host.files path with _ | _ | _
  · exact Or.inr ⟨fun ⟨_, h⟩ => (by cases (hpath h).checked.symm.trans hcheck), id⟩
  rotate_left
  · exact Or.inr ⟨fun ⟨_, h⟩ => (by cases (hpath h).checked.symm.trans hcheck), id⟩
  dsimp only
  rcases createGameMain_cases hcheck hlacks with
    ⟨hgame, g, game, loggers₁, hload, hinit, hmade, hlacks₁⟩ | ⟨hgame, outcome, hmade, hcame⟩ <;>
    rw [hmade] <;> dsimp only
  rotate_left
  · exact Or.inr ⟨fun ⟨_, h⟩ => hgame (hpath h).game, hcame⟩
  have hto := address_eq hload hinit
  have hnone := AsioServer.threadCount_eq_zero_iff (isInt32_concurrency hload)
  rcases startAsioServer_cases host game hlacks₁ with
    ⟨hserver, server, hstart, hthreads, hstarted⟩ | ⟨hserver, hstarted⟩ <;> rw [hstarted]
  · refine Or.inl ⟨path, ⟨server, game⟩,
      ⟨hmajorLog, hasked, hcheck, hgame, by rw [hto]; exact hserver⟩,
      ⟨⟨g, hload, hinit⟩, hstart⟩, ?_⟩
    rw [hto] at hnone ⊢
    simp only [hthreads, hnone]
  · refine Or.inr ⟨fun ⟨_, h⟩ => hserver ?_, id⟩
    have hready := (hpath h).server
    rwa [hto] at hready

/-- There is one path on a command line. -/
theorem Ready.unique {path' : String} (h : host.Ready argv path) (h' : host.Ready argv path') :
    path = path' := by
  have hparse := (parse_eq_iff.mp h.asked).symm.trans (parse_eq_iff.mp h'.asked)
  simpa using hparse

end Host

open Host

/-- **What comes of a process.**  A server is up exactly where a path is given and taken, its
document is readable, every service it asks for is known, the address can be listened on, the log
files on the way can be opened, and there are threads to start that can be started; the process is
done at once exactly where none are. -/
theorem main_iff (host : Host) (argv : List String) :
    ((∃ p, main host argv = .waiting p)
        ↔ ∃ path, host.Ready argv path ∧ (host.address path).concurrency ≠ 0
          ∧ host.spawns (AsioServer.threadCount (host.address path).concurrency) = true)
      ∧ (main host argv = .returned .success
        ↔ ∃ path, host.Ready argv path ∧ (host.address path).concurrency = 0) := by
  rcases main_cases host argv with ⟨path, p, hready, -, hmain⟩ | ⟨hnot, hcame⟩
  · have hpath {P : String → Prop} : (∃ path, host.Ready argv path ∧ P path) ↔ P path :=
      ⟨fun ⟨_, h, hp⟩ => (hready.unique h).symm ▸ hp, fun hp => ⟨path, hready, hp⟩⟩
    rw [hpath, hpath, hmain]
    by_cases hnone : (host.address path).concurrency = 0
    · simp [hnone]
    · cases host.spawns (AsioServer.threadCount (host.address path).concurrency) <;> simp [hnone]
  · refine ⟨iff_of_false (fun ⟨p, hmain⟩ => hcame ?_) fun ⟨path, h, _⟩ => hnot ⟨path, h⟩,
      iff_of_false (fun hmain => hcame ?_) fun ⟨path, h, _⟩ => hnot ⟨path, h⟩⟩
    · rw [hmain]
      trivial
    · rw [hmain]
      trivial

end MultiplayerServer
