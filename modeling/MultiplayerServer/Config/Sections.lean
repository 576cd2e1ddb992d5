import MultiplayerServer.Config.Loading
import MultiplayerServer.Machinery.Entries

/-!
# Config/Sections — what a document says

A document read without a map to store it in: the sections it gives (`serverSection`,
`loggerEntry`, `loginSection`, `servicesSection`), and all of it as one list of entries.  What
`load_config` does to a configuration is to store that list.

* `loadConfig_eq` — a load that no assertion stops stores the entries of the document, up to the
  section that an exception is thrown for.
-/

namespace MultiplayerServer

open Machinery

namespace GameConfig

/-! ## The sections of a document -/

variable (tree logger : Json)

/-- The server section, where an address, a port and a concurrency are given. -/
def serverSection : Option AsioServerConfig := do
  let server ← tree.findMember serverConfigStr
  let ip ← (server.findMember "ip").filter Json.isString
  let port ← (server.findMember "port").filter Json.isNumber
  let concurrency ← server.findMember "concurrency"
  return ⟨← ip.getString, ← port.getInt, ← concurrency.getInt⟩

/-- The name of a logger, which no empty one is. -/
def loggerName : Option String :=
  (((logger.findMember "name").filter Json.isString).bind Json.getString).filter (· ≠ "")

/-- A logger that has a name, as it is stored. -/
def loggerEntry : Option (String × ConfigValue) := do
  let name ← loggerName logger
  let data ← loggerData logger
  return (logConfigStr ++ name, .logger data)

/-- The loggers. -/
def loggers : List Json := (tree.findMember logConfigStr).elim [] Json.elements

/-- The names of the loggers that have one. -/
def loggerNames : List String := (loggers tree).filterMap loggerName

/-- The login section, where an entity class and an entity type are given. -/
def loginSection : Option LoginEntityConfig := do
  let login ← tree.findMember loginConfigStr
  let entity ← (login.findMember "entity").filter Json.isString
  let type ← login.findMember "entity_type"
  return ⟨← entity.getString, ← type.getString, ← loginComponents login⟩

/-- The services section, where it is a list. -/
def servicesSection : Option (List GameServiceConfig) := do
  let services ← (tree.findMember servicesConfigStr).filter Json.isArray
  (← services.getArray).mapM loadService

/-- The entries of the sections that are loaded in any case, -/
def firstEntries : List (String × ConfigValue) :=
  (serverSection tree).toList.map (fun server => (serverConfigStr, .server server))
    ++ (loggers tree).filterMap loggerEntry

/-- …and of those that are come to only while nothing is missing. -/
def lastEntries : List (String × ConfigValue) :=
  match loginSection tree with
  | none => []
  | some login => (loginConfigStr, .login login)
    :: (servicesSection tree).toList.map fun services => (servicesConfigStr, .services services)

/-- **What a document says**, in the order it is stored, up to the section it is refused for. -/
def entries : List (String × ConfigValue) := firstEntries tree ++ lastEntries tree

/-- …under each key. -/
def given : Std.ExtTreeMap String ConfigValue := Std.ExtTreeMap.ofList (entries tree)

/-- The configuration with a list of entries stored in it. -/
def store (g : GameConfig) (l : List (String × ConfigValue)) : GameConfig := ⟨g.config.insertMany l⟩

/-! ## A load stores what the document says -/

variable {tree logger} {g g' : GameConfig} {l l' : List (String × ConfigValue)}

/-- What `GetInt` gives is an `int`. -/
theorem range_of_getInt {j : Json} {n : ℤ} (h : j.getInt = some n) :
    -0x80000000 ≤ n ∧ n ≤ 0x7fffffff := by
  cases j with
  | int m =>
    obtain ⟨hint, h⟩ := Option.ite_none_right_eq_some.mp h
    obtain rfl := Option.some.inj h
    simpa [Json.isInt] using hint
  | _ => cases h

/-- **What is true of each kind of entry** is true of what the document says. -/
theorem forall_mem_entries {P : String → ConfigValue → Prop}
    (hserver : ∀ server ∈ serverSection tree, P serverConfigStr (.server server))
    (hlogger : ∀ logger name data, loggerName logger = some name → loggerData logger = some data →
      P (logConfigStr ++ name) (.logger data))
    (hlogin : ∀ login, P loginConfigStr (.login login))
    (hservices : ∀ services, P servicesConfigStr (.services services)) :
    ∀ p ∈ entries tree, P p.1 p.2 := by
  intro p h
  rw [entries, firstEntries, List.mem_append, List.mem_append, List.mem_map,
    List.mem_filterMap] at h
  obtain (⟨server, hgiven, rfl⟩ | ⟨logger, -, hentry⟩) | h := h
  · exact hserver server (Option.mem_toList.mp hgiven)
  · obtain ⟨name, hname, hentry⟩ := Option.bind_eq_some_iff.mp hentry
    obtain ⟨data, hdata, hentry⟩ := Option.bind_eq_some_iff.mp hentry
    obtain rfl := Option.some.inj hentry
    exact hlogger logger name data hname hdata
  rw [lastEntries] at h
  rcases hgiven : loginSection tree with _ | login
  · rw [hgiven] at h
    exact absurd h List.not_mem_nil
  rw [hgiven] at h
  obtain rfl | h := List.mem_cons.mp h
  · exact hlogin login
  · obtain ⟨services, -, rfl⟩ := List.mem_map.mp h
    exact hservices services

@[simp] theorem store_nil : g.store [] = g :=
  congrArg GameConfig.mk Std.ExtTreeMap.insertMany_nil

@[simp] theorem store_singleton {p : String × ConfigValue} :
    g.store [p] = ⟨g.config.insert p.1 p.2⟩ :=
  congrArg GameConfig.mk Std.ExtTreeMap.insertMany_list_singleton

theorem store_append : g.store (l ++ l') = (g.store l).store l' :=
  congrArg GameConfig.mk Std.ExtTreeMap.insertMany_append

theorem loadServerConfig_eq (h : tree.isObject) (hload : g.loadServerConfig tree = some g') :
    g' = g.store ((serverSection tree).toList.map fun server =>
      (serverConfigStr, .server server)) := by
  rw [serverSection]
  obtain ⟨hnone, rfl⟩ | ⟨server, hserver, hload⟩ := (Json.ifMember_eq_some h).mp hload
  · simp [hnone]
  by_cases hobject : server.isObject
  swap
  · rw [if_neg hobject] at hload
    obtain rfl := Option.some.inj hload
    simp [hserver, Json.findMember_of_not hobject]
  rw [if_pos hobject] at hload
  obtain ⟨hnone, rfl⟩ | ⟨ip, hip, hload⟩ := (Json.ifMemberOf_eq_some hobject).mp hload
  · simp [hserver, hnone]
  obtain ⟨address, haddress, hload⟩ := Option.bind_eq_some_iff.mp hload
  obtain ⟨hnone, rfl⟩ | ⟨port, hport, hload⟩ := (Json.ifMemberOf_eq_some hobject).mp hload
  · simp [hserver, hip, hnone]
  obtain ⟨number, hnumber, hload⟩ := Option.bind_eq_some_iff.mp hload
  obtain ⟨hnone, rfl⟩ | ⟨concurrency, hconcurrency, hload⟩ :=
    (Json.ifMember_eq_some hobject).mp hload
  · simp [hserver, hip, hport, hnone]
  obtain ⟨count, hcount, hload⟩ := Option.bind_eq_some_iff.mp hload
  obtain rfl := Option.some.inj hload
  simp [hserver, hip, haddress, hport, hnumber, hconcurrency, hcount]

theorem loadSingleLoggerConfig_eq (hload : g.loadSingleLoggerConfig logger = some g') :
    g' = g.store (loggerEntry logger).toList := by
  rw [loadSingleLoggerConfig] at hload
  rw [loggerEntry, loggerName]
  by_cases hobject : logger.isObject
  swap
  · rw [if_neg hobject] at hload
    obtain rfl := Option.some.inj hload
    simp [Json.findMember_of_not hobject]
  rw [if_pos hobject] at hload
  obtain ⟨hnone, rfl⟩ | ⟨value, hvalue, hload⟩ := (Json.ifMemberOf_eq_some hobject).mp hload
  · simp [hnone]
  obtain ⟨name, hname, hload⟩ := Option.bind_eq_some_iff.mp hload
  by_cases hempty : name = ""
  · rw [if_pos hempty] at hload
    obtain rfl := Option.some.inj hload
    simp [hvalue, hname, hempty, Option.filter_some]
  · rw [if_neg hempty] at hload
    obtain ⟨data, hdata, hload⟩ := Option.bind_eq_some_iff.mp hload
    obtain rfl := Option.some.inj hload
    simp [hvalue, hname, hempty, hdata, Option.filter_some]

/-- The loggers are stored one after the other. -/
theorem foldlM_loadSingleLoggerConfig_eq {loggers : List Json}
    (hload : loggers.foldlM loadSingleLoggerConfig g = some g') :
    g' = g.store (loggers.filterMap loggerEntry) := by
  induction loggers generalizing g with
  | nil =>
    obtain rfl := Option.some.inj hload
    simp
  | cons logger loggers ih =>
    obtain ⟨g₁, hfirst, hrest⟩ := Option.bind_eq_some_iff.mp hload
    rw [ih hrest, loadSingleLoggerConfig_eq hfirst, ← store_append]
    rcases hentry : loggerEntry logger with _ | entry
    · simp [hentry]
    · simp [hentry]

theorem loadLoggerConfig_eq (h : tree.isObject) (hload : g.loadLoggerConfig tree = some g') :
    g' = g.store ((loggers tree).filterMap loggerEntry) := by
  rw [loggers]
  obtain ⟨hnone, rfl⟩ | ⟨value, hvalue, hload⟩ := (Json.ifMember_eq_some h).mp hload
  · simp [hnone]
  obtain ⟨elements, helements, hload⟩ := Option.bind_eq_some_iff.mp hload
  rw [foldlM_loadSingleLoggerConfig_eq hload, hvalue, Option.elim_some,
    Json.elements_of_getArray helements]

theorem toOption_loadLoginConfig (h : tree.isObject) {result : Except String GameConfig}
    (hload : g.loadLoginConfig tree = some result) :
    result.toOption
      = (loginSection tree).map fun login => g.store [(loginConfigStr, .login login)] := by
  rw [loginSection]
  obtain ⟨hnone, rfl⟩ | ⟨login, hlogin, hload⟩ := (Json.ifMember_eq_some h).mp hload
  · simp [hnone, Except.toOption]
  have hobject : login.isObject := Json.isObject_of_hasMemberOf hload
  obtain ⟨hnone, rfl⟩ | ⟨entity, hentity, hload⟩ := (Json.ifMemberOf_eq_some hobject).mp hload
  · simp [hlogin, hnone, Except.toOption]
  obtain ⟨entityClassName, hclass, hload⟩ := Option.bind_eq_some_iff.mp hload
  obtain ⟨hmem, hstring⟩ := Option.filter_eq_some_iff.mp hentity
  rw [hasEntityType_eq hobject hmem hstring] at hload
  obtain ⟨hnone, rfl⟩ | ⟨type, htype, hload⟩ := (Json.ifMember_eq_some hobject).mp hload
  · simp [hlogin, hentity, hnone, Except.toOption]
  obtain ⟨entityType, hvalue, hload⟩ := Option.bind_eq_some_iff.mp hload
  obtain ⟨components, hcomponents, hload⟩ := Option.bind_eq_some_iff.mp hload
  obtain rfl := Option.some.inj hload
  simp [hlogin, hentity, hclass, htype, hvalue, hcomponents, Except.toOption]

theorem toOption_loadServicesConfig (h : tree.isObject) {result : Except String GameConfig}
    (hload : g.loadServicesConfig tree = some result) :
    result.toOption = (servicesSection tree).map fun services =>
      g.store [(servicesConfigStr, .services services)] := by
  rw [servicesSection]
  obtain ⟨hnone, rfl⟩ | ⟨value, hvalue, hload⟩ := (Json.ifMember_eq_some h).mp hload
  · simp [hnone, Except.toOption]
  by_cases harray : value.isArray
  · rw [if_pos harray] at hload
    obtain ⟨elements, helements, hload⟩ := Option.bind_eq_some_iff.mp hload
    obtain ⟨services, hservices, hload⟩ := Option.bind_eq_some_iff.mp hload
    obtain rfl := Option.some.inj hload
    simp [hvalue, harray, helements, hservices, Except.toOption, Option.filter_some]
  · rw [if_neg harray] at hload
    obtain rfl := Option.some.inj hload
    simp [hvalue, harray, Except.toOption, Option.filter_some]

/-- **A load stores what the document says.** -/
theorem loadConfig_eq (hload : g.loadConfig (some tree) = some g') :
    g' = g.store (entries tree) := by
  have h : tree.isObject := isObject_of_loadConfig (g := g) (by rw [hload]; rfl)
  obtain ⟨g₁, hserver, hload⟩ := Option.bind_eq_some_iff.mp hload
  obtain ⟨g₂, hloggers, hload⟩ := Option.bind_eq_some_iff.mp hload
  obtain ⟨result, hlogin, hload⟩ := Option.bind_eq_some_iff.mp hload
  have hfirst : g₂ = g.store (firstEntries tree) := by
    rw [firstEntries, store_append, ← loadServerConfig_eq h hserver]
    exact loadLoggerConfig_eq h hloggers
  have hgiven := toOption_loadLoginConfig h hlogin
  rw [entries, store_append, ← hfirst, lastEntries]
  rcases result with e | g₃
  -- thrown for the login section: what comes before it is all there is
  · obtain rfl := Option.some.inj hload
    have hnone : loginSection tree = none := Option.map_eq_none_iff.mp hgiven.symm
    rw [hnone, store_nil]
  obtain ⟨login, hsection, rfl⟩ := Option.map_eq_some_iff.mp hgiven.symm
  obtain ⟨result, hservices, hload⟩ := Option.bind_eq_some_iff.mp hload
  have hgiven := toOption_loadServicesConfig h hservices
  rw [hsection]
  rcases result with e | g₄
  -- thrown for the services: the login section stays
  · obtain rfl := Option.some.inj hload
    have hnone : servicesSection tree = none := Option.map_eq_none_iff.mp hgiven.symm
    rw [hnone]
    rfl
  · obtain rfl := Option.some.inj hload
    obtain ⟨services, hsection, rfl⟩ := Option.map_eq_some_iff.mp hgiven.symm
    rw [hsection, ← store_append]
    rfl

end GameConfig

end MultiplayerServer
