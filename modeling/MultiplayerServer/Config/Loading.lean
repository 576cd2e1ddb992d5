import MultiplayerServer.Config.GameConfig
import MultiplayerServer.Config.Json

/-!
# Config/Loading — from a document to a configuration

`GameConfig::load_config` with its section loaders, as they are built with RapidJSON.  A loader is
`none` where an assertion of RapidJSON fails, which ends the process; an exception is a value, and
`load_config` catches it.

* `isSome_loadConfig_iff` — the documents that are loaded, or refused, without a failed assertion.
-/

namespace MultiplayerServer

open Machinery

namespace GameConfig

variable (g : GameConfig) (tree : Json)

/-! ## The sections -/

/-- `load_server_config` -/
def loadServerConfig : Option GameConfig := do
  if ← tree.hasMember serverConfigStr then
    let server ← tree.member serverConfigStr
    if server.isObject then
      if ← server.hasMemberOf "ip" Json.isString then
        let ip ← (← server.member "ip").getString
        if ← server.hasMemberOf "port" Json.isNumber then
          let port ← (← server.member "port").getInt
          if ← server.hasMember "concurrency" then
            let concurrency ← (← server.member "concurrency").getInt
            return ⟨g.config.insert serverConfigStr (.server ⟨ip, port, concurrency⟩)⟩
          else return g
        else return g
      else return g
    else return g
  else return g

/-- `if (logger.HasMember(key) && logger[key].IsBool()) data_ptr->emplace(key, …)` -/
def emplaceBool (logger : Json) (data : LoggerConfig) (key : String) : Option LoggerConfig := do
  if ← logger.hasMemberOf key Json.isBool then
    return data.insertIfNew key (.bool (← (← logger.member key).getBool))
  else return data

/-- …of a string, -/
def emplaceString (logger : Json) (data : LoggerConfig) (key : String) : Option LoggerConfig := do
  if ← logger.hasMemberOf key Json.isString then
    return data.insertIfNew key (.string (← (← logger.member key).getString))
  else return data

/-- …and of a size, for which `IsInt` is asked and `GetUint` called. -/
def emplaceSize (logger : Json) (data : LoggerConfig) (key : String) : Option LoggerConfig := do
  if ← logger.hasMemberOf key Json.isInt then
    return data.insertIfNew key (.size (← (← logger.member key).getUint))
  else return data

/-- The members of a logger's configuration, in the order they are read. -/
def loggerData (logger : Json) : Option LoggerConfig := do
  let data ← ["log_time", "log_thread", "log_level", "log_source", "log_line",
    "log_funcname"].foldlM (emplaceBool logger) ∅
  let data ← ["level", "log_tag_name"].foldlM (emplaceString logger) data
  let data ← ["log_file_max_size", "log_file_max_number"].foldlM (emplaceSize logger) data
  ["log_file_name", "log_file_dir", "log_file_extension"].foldlM (emplaceString logger) data

/-- `load_single_logger_config` -/
def loadSingleLoggerConfig (g : GameConfig) (logger : Json) : Option GameConfig := do
  if logger.isObject then
    if ← logger.hasMemberOf "name" Json.isString then
      let name ← (← logger.member "name").getString
      if name = "" then return g
      else
        let data ← loggerData logger
        return ⟨g.config.insert (logConfigStr ++ name) (.logger data)⟩
    else return g
  else return g

/-- `load_logger_config` -/
def loadLoggerConfig : Option GameConfig := do
  if ← tree.hasMember logConfigStr then
    (← (← tree.member logConfigStr).getArray).foldlM loadSingleLoggerConfig g
  else return g

/-- The components in the login section, if there are any. -/
def loginComponents (login : Json) : Option (List String) := do
  if ← login.hasMemberOf "components" Json.isArray then
    (← (← login.member "components").getArray).mapM Json.getString
  else return []

/-- `load_login_config`; of `entity_type` it is asked whether `entity` is a string. -/
def loadLoginConfig : Option (Except String GameConfig) := do
  if ← tree.hasMember loginConfigStr then
    let login ← tree.member loginConfigStr
    if ← login.hasMemberOf "entity" Json.isString then
      let entityClassName ← (← login.member "entity").getString
      if ← login.hasMember "entity_type" <&&> Json.isString <$> login.member "entity" then
        let entityType ← (← login.member "entity_type").getString
        let entityComponents ← loginComponents login
        return .ok ⟨g.config.insert loginConfigStr
          (.login ⟨entityClassName, entityType, entityComponents⟩)⟩
      else return .error "login entity type config not exist"
    else return .error "login entity config not exist"
  else return .error "login config not exist"

/-- One turn of the loop in `load_services_config`. -/
def loadService (service : Json) : Option GameServiceConfig := do
  let serviceName ← (← service.member "name").getString
  let serviceComponents ← (← (← service.member "components").getArray).mapM Json.getString
  return ⟨serviceName, serviceComponents⟩

/-- `load_services_config` -/
def loadServicesConfig : Option (Except String GameConfig) := do
  if ← tree.hasMember servicesConfigStr then
    let services ← tree.member servicesConfigStr
    if services.isArray then
      let data ← (← services.getArray).mapM loadService
      return .ok ⟨g.config.insert servicesConfigStr (.services data)⟩
    else return .error "services config is not array"
  else return .error "services config not exist"

/-- `load_config`, given what the file is parsed as; there is nothing where it cannot be read or
parsed.  What was stored before an exception stays. -/
def loadConfig : Option Json → Option GameConfig
  | none => some g
  | some tree => do
    let g ← g.loadServerConfig tree
    let g ← g.loadLoggerConfig tree
    match ← g.loadLoginConfig tree with
    | .error _ => return g
    | .ok g =>
      match ← g.loadServicesConfig tree with
      | .error _ => return g
      | .ok g => return g

/-! ## What is asserted of a document -/

/-- A port that is a number, and a concurrency that is there, have to be `int`s. -/
def ServerReadable (tree : Json) : Prop :=
  ∀ server ∈ tree.findMember serverConfigStr, ∀ ip ∈ server.findMember "ip", ip.isString →
    ∀ port ∈ server.findMember "port", port.isNumber →
      port.isInt ∧ ∀ concurrency ∈ server.findMember "concurrency", concurrency.isInt

/-- A size of a logger that has a name has to be no negative `int`. -/
def LoggerReadable (logger : Json) : Prop :=
  ∀ name ∈ logger.findMember "name", ∀ s ∈ name.getString, s ≠ "" →
    ∀ key ∈ ["log_file_max_size", "log_file_max_number"], ∀ size ∈ logger.findMember key,
      size.isInt → size.isUint

/-- The loggers have to be an array. -/
def LoggersReadable (tree : Json) : Prop :=
  ∀ loggers ∈ tree.findMember logConfigStr,
    loggers.isArray ∧ ∀ logger ∈ loggers.elements, LoggerReadable logger

/-- The login section has to be an object; beside an entity class, an entity type that is there and
the components in an array have to be strings. -/
def LoginReadable (tree : Json) : Prop :=
  ∀ login ∈ tree.findMember loginConfigStr, login.isObject
    ∧ ∀ entity ∈ login.findMember "entity", entity.isString →
      ∀ type ∈ login.findMember "entity_type", type.isString
        ∧ ∀ components ∈ login.findMember "components", components.isArray →
          ∀ component ∈ components.elements, component.isString

/-- The login section gives an entity class and an entity type, so that the services are come to. -/
def LoginGiven (tree : Json) : Prop :=
  ∃ login ∈ tree.findMember loginConfigStr, (∃ entity ∈ login.findMember "entity", entity.isString)
    ∧ (login.findMember "entity_type").isSome

/-- A service has to have a name and components, all of them strings. -/
def ServiceReadable (service : Json) : Prop :=
  (∃ name ∈ service.findMember "name", name.isString)
    ∧ ∃ components ∈ service.findMember "components", components.isArray
      ∧ ∀ component ∈ components.elements, component.isString

/-- …and every service in an array has to be one. -/
def ServicesReadable (tree : Json) : Prop :=
  ∀ services ∈ tree.findMember servicesConfigStr, services.isArray →
    ∀ service ∈ services.elements, ServiceReadable service

/-- **What is asserted of a document**: the last section only where the one before is given. -/
structure Readable (tree : Json) : Prop where
  root : tree.isObject
  server : ServerReadable tree
  loggers : LoggersReadable tree
  login : LoginReadable tree
  services : LoginGiven tree → ServicesReadable tree

variable {g tree}

theorem isSome_loadServerConfig (h : tree.isObject) :
    (g.loadServerConfig tree).isSome ↔ ServerReadable tree := by
  refine (Json.isSome_ifMember h).trans (forall₂_congr fun server _ => ?_)
  by_cases hserver : server.isObject
  · rw [if_pos hserver]
    refine (Json.isSome_ifMemberOf hserver).trans (forall₃_congr fun ip _ hip => ?_)
    refine isSome_bind_iff_of_isSome (Json.isSome_getString.trans hip) fun _ => ?_
    refine (Json.isSome_ifMemberOf hserver).trans (forall₃_congr fun port _ _ => ?_)
    rw [← Json.isSome_getInt]
    refine isSome_bind_iff_and fun _ => ?_
    refine (Json.isSome_ifMember hserver).trans (forall₂_congr fun concurrency _ => ?_)
    rw [← Json.isSome_getInt]
    exact isSome_bind_iff_left fun _ => rfl
  · have hnone (key : String) : server.findMember key = none := Json.findMember_of_not hserver
    simp [hserver, hnone]

/-- An `emplace` that asks for the kind it accesses never fails. -/
theorem isSome_emplaceBool {logger : Json} (h : logger.isObject) (data : LoggerConfig)
    (key : String) : (emplaceBool logger data key).isSome := by
  refine (Json.isSome_ifMemberOf h).mpr fun value _ hvalue => ?_
  exact (isSome_bind_iff_left fun _ => rfl).mpr (Json.isSome_getBool.trans hvalue)

theorem isSome_emplaceString {logger : Json} (h : logger.isObject) (data : LoggerConfig)
    (key : String) : (emplaceString logger data key).isSome := by
  refine (Json.isSome_ifMemberOf h).mpr fun value _ hvalue => ?_
  exact (isSome_bind_iff_left fun _ => rfl).mpr (Json.isSome_getString.trans hvalue)

/-- **A size** is asked whether it is an `int`, and accessed as an `unsigned`. -/
theorem isSome_emplaceSize {logger : Json} (h : logger.isObject) (data : LoggerConfig)
    (key : String) : (emplaceSize logger data key).isSome
      ↔ ∀ size ∈ logger.findMember key, size.isInt → size.isUint := by
  refine (Json.isSome_ifMemberOf h).trans (forall₃_congr fun size _ _ => ?_)
  rw [← Json.isSome_getUint]
  exact isSome_bind_iff_left fun _ => rfl

theorem isSome_loggerData {logger : Json} (h : logger.isObject) :
    (loggerData logger).isSome ↔ ∀ key ∈ ["log_file_max_size", "log_file_max_number"],
      ∀ size ∈ logger.findMember key, size.isInt → size.isUint := by
  have hbools (keys : List String) (data : LoggerConfig) :
      (keys.foldlM (emplaceBool logger) data).isSome :=
    (isSome_foldlM_iff fun _ _ _ _ => isSome_emplaceBool h _ _).mpr
      fun key _ => isSome_emplaceBool h _ key
  have hstrings (keys : List String) (data : LoggerConfig) :
      (keys.foldlM (emplaceString logger) data).isSome :=
    (isSome_foldlM_iff fun _ _ _ _ => isSome_emplaceString h _ _).mpr
      fun key _ => isSome_emplaceString h _ key
  refine isSome_bind_iff_of_isSome (hbools _ _) fun data => ?_
  refine isSome_bind_iff_of_isSome (hstrings _ _) fun data => ?_
  refine (isSome_bind_iff_left fun data => hstrings _ _).trans ?_
  refine (isSome_foldlM_iff fun _ _ _ => ?_).trans (forall₂_congr fun key _ => ?_)
  · rw [isSome_emplaceSize h, isSome_emplaceSize h]
    exact id
  · exact isSome_emplaceSize h data key

theorem isSome_loadSingleLoggerConfig {logger : Json} :
    (g.loadSingleLoggerConfig logger).isSome ↔ LoggerReadable logger := by
  by_cases h : logger.isObject
  · rw [loadSingleLoggerConfig, if_pos h]
    refine (Json.isSome_ifMemberOf h).trans (forall₂_congr fun name _ => ?_)
    rw [← Json.isSome_getString]
    refine isSome_bind_iff_of_mem fun s => ?_
    by_cases hs : s = ""
    · simp [hs]
    · rw [if_neg hs, forall_prop_of_true hs, ← isSome_loggerData h]
      exact isSome_bind_iff_left fun _ => rfl
  · have hnone (key : String) : logger.findMember key = none := Json.findMember_of_not h
    simp [loadSingleLoggerConfig, LoggerReadable, h, hnone]

theorem isSome_loadLoggerConfig (h : tree.isObject) :
    (g.loadLoggerConfig tree).isSome ↔ LoggersReadable tree := by
  refine (Json.isSome_ifMember h).trans (forall₂_congr fun loggers _ => ?_)
  refine Json.isSome_getArray_bind.trans (and_congr_right fun _ => ?_)
  refine (isSome_foldlM_iff fun _ _ _ => ?_).trans ?_
  · rw [isSome_loadSingleLoggerConfig, isSome_loadSingleLoggerConfig]
    exact id
  · exact forall₂_congr fun _ _ => isSome_loadSingleLoggerConfig

theorem isSome_loginComponents {login : Json} (h : login.isObject) :
    (loginComponents login).isSome ↔ ∀ components ∈ login.findMember "components",
      components.isArray → ∀ component ∈ components.elements, component.isString := by
  refine (Json.isSome_ifMemberOf h).trans (forall₃_congr fun components _ harray => ?_)
  refine (Json.isSome_getArray_bind.trans (and_iff_right harray)).trans ?_
  refine isSome_mapM_iff.trans (forall₂_congr fun component _ => ?_)
  rw [Json.isSome_getString]

/-- The second question about the entity class has the first one's answer. -/
theorem hasEntityType_eq {login entity : Json} (h : login.isObject)
    (hentity : login.findMember "entity" = some entity) (hstring : entity.isString) :
    (login.hasMember "entity_type" <&&> Json.isString <$> login.member "entity")
      = login.hasMember "entity_type" := by
  rw [Json.hasMember_eq h, Json.member, hentity, Option.map_eq_map, Option.map_some, hstring]
  rcases login.findMember "entity_type" with _ | type <;> rfl

theorem isSome_loadLoginConfig (h : tree.isObject) :
    (g.loadLoginConfig tree).isSome ↔ LoginReadable tree := by
  refine (Json.isSome_ifMember h).trans (forall₂_congr fun login _ => ?_)
  by_cases hlogin : login.isObject
  · rw [and_iff_right hlogin]
    refine (Json.isSome_ifMemberOf hlogin).trans (forall₃_congr fun entity hentity hstring => ?_)
    refine isSome_bind_iff_of_isSome (Json.isSome_getString.trans hstring) fun _ => ?_
    rw [hasEntityType_eq hlogin hentity hstring]
    refine (Json.isSome_ifMember hlogin).trans (forall₂_congr fun type _ => ?_)
    rw [← Json.isSome_getString, ← isSome_loginComponents hlogin]
    exact isSome_bind_iff_and fun _ => isSome_bind_iff_left fun _ => rfl
  · simp [hlogin, Json.hasMemberOf, Json.hasMember]

theorem loginGiven_iff {login : Json} (h : tree.findMember loginConfigStr = some login) :
    LoginGiven tree ↔ ((login.findMember "entity").filter Json.isString).isSome
      ∧ (login.findMember "entity_type").isSome := by
  simp [LoginGiven, h, Option.isSome_filter, Option.any_eq_true]

/-- **The services are come to** when the login section gives what is asked of it. -/
theorem isOk_loadLoginConfig_iff (h : tree.isObject) {result : Except String GameConfig}
    (hresult : g.loadLoginConfig tree = some result) :
    (∃ g', result = .ok g') ↔ LoginGiven tree := by
  obtain ⟨hnone, rfl⟩ | ⟨login, hlogin, hresult⟩ := (Json.ifMember_eq_some h).mp hresult
  · simp [LoginGiven, hnone]
  rw [loginGiven_iff hlogin]
  have hobject : login.isObject := Json.isObject_of_hasMemberOf hresult
  obtain ⟨hnone, rfl⟩ | ⟨entity, hentity, hresult⟩ := (Json.ifMemberOf_eq_some hobject).mp hresult
  · simp [hnone]
  obtain ⟨hmem, hstring⟩ := Option.filter_eq_some_iff.mp hentity
  obtain ⟨_, -, hresult⟩ := Option.bind_eq_some_iff.mp hresult
  rw [hasEntityType_eq hobject hmem hstring] at hresult
  obtain ⟨hnone, rfl⟩ | ⟨type, htype, hresult⟩ := (Json.ifMember_eq_some hobject).mp hresult
  · simp [hnone]
  obtain ⟨_, -, hresult⟩ := Option.bind_eq_some_iff.mp hresult
  obtain ⟨_, -, hresult⟩ := Option.bind_eq_some_iff.mp hresult
  obtain rfl := Option.some.inj hresult
  simp [hentity, htype]

theorem isSome_loadService {service : Json} :
    (loadService service).isSome ↔ ServiceReadable service := by
  refine isSome_bind_iff.trans ?_
  have hname (p : Prop) : (∃ a, service.member "name" = some a ∧ a.isString ∧ p)
      ↔ (∃ name ∈ service.findMember "name", name.isString) ∧ p := by
    simp [Json.member, ← and_assoc]
  refine Iff.trans (exists_congr fun name => and_congr_right fun _ => ?_) (hname _)
  rw [← Json.isSome_getString]
  refine isSome_bind_iff_and fun _ => isSome_bind_iff.trans ?_
  refine exists_congr fun components => and_congr_right fun _ => ?_
  refine Json.isSome_getArray_bind.trans (and_congr_right fun _ => ?_)
  refine (isSome_bind_iff_left fun _ => rfl).trans ?_
  refine isSome_mapM_iff.trans (forall₂_congr fun component _ => ?_)
  rw [Json.isSome_getString]

theorem isSome_loadServicesConfig (h : tree.isObject) :
    (g.loadServicesConfig tree).isSome ↔ ServicesReadable tree := by
  refine (Json.isSome_ifMember h).trans (forall₂_congr fun services _ => ?_)
  by_cases harray : services.isArray
  · rw [forall_prop_of_true harray, if_pos harray]
    refine (Json.isSome_getArray_bind.trans (and_iff_right harray)).trans ?_
    refine (isSome_bind_iff_left fun _ => rfl).trans ?_
    exact isSome_mapM_iff.trans (forall₂_congr fun _ _ => isSome_loadService)
  · simp [harray]

/-- What is loaded is an object. -/
theorem isObject_of_loadConfig (hload : (g.loadConfig (some tree)).isSome) : tree.isObject := by
  by_contra h
  simp [loadConfig, loadServerConfig, Json.hasMember, h] at hload

/-- What follows the login section is done exactly when the section is given. -/
theorem isSome_loadConfig (h : tree.isObject) :
    (g.loadConfig (some tree)).isSome ↔ ServerReadable tree ∧ LoggersReadable tree
      ∧ LoginReadable tree ∧ (LoginGiven tree → ServicesReadable tree) := by
  rw [← isSome_loadServerConfig (g := g) h]
  refine isSome_bind_iff_and fun g => ?_
  rw [← isSome_loadLoggerConfig (g := g) h]
  refine isSome_bind_iff_and fun g => ?_
  rw [← isSome_loadLoginConfig (g := g) h]
  rcases hresult : g.loadLoginConfig tree with _ | result
  · simp
  have hgiven := isOk_loadLoginConfig_iff h hresult
  rcases result with _ | g'
  · simp [← hgiven]
  · rw [forall_prop_of_true (hgiven.mp ⟨g', rfl⟩), ← isSome_loadServicesConfig (g := g') h,
      Option.isSome_some, eq_self, true_and]
    refine isSome_bind_iff_left (x := g'.loadServicesConfig tree) fun result => ?_
    rcases result <;> rfl

end GameConfig

/-- **A document is loaded, or refused, without a failed assertion exactly when it is `Readable`**,
whatever has been loaded before. -/
theorem isSome_loadConfig_iff (tree : Json) (g : GameConfig) :
    (g.loadConfig (some tree)).isSome ↔ GameConfig.Readable tree := by
  by_cases h : tree.isObject
  · rw [GameConfig.isSome_loadConfig h]
    exact ⟨fun ⟨hserver, hloggers, hlogin, hservices⟩ => ⟨h, hserver, hloggers, hlogin, hservices⟩,
      fun hread => ⟨hread.server, hread.loggers, hread.login, hread.services⟩⟩
  · exact iff_of_false (fun hload => h (GameConfig.isObject_of_loadConfig hload))
      (fun hread => h hread.root)

/-- A port that is a number but no integer is accessed as one. -/
theorem not_isSome_loadConfig_of_fraction :
    ¬ (GameConfig.loadConfig {} (some (.object [("server", .object [("ip", .string "127.0.0.1"),
      ("port", .double "8080.5"), ("concurrency", .int 2)])]))).isSome := by
  decide

end MultiplayerServer
