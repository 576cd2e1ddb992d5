import MultiplayerServer.Config.Reloading
import MultiplayerServer.Log.LoggerSettings
import MultiplayerServer.Machinery.Decimal

/-!
# Config/Loadable — what can be loaded

The configurations that loads can leave (`Loadable`), and a document for each of them (`toJson`).

* `loadConfig_toJson` — what is written of a loadable configuration is loaded again;
* `exists_exec_iff_loadable` — nothing else can be loaded, in however many loads.
-/

namespace MultiplayerServer

open Machinery

namespace GameConfig

/-- A string that goes on to its end. -/
def NulFree (s : String) : Prop := Char.ofNat 0 ∉ s.toList

/-- What can be stored of a logger: under the key of a setting, a value of the type it is read
as. -/
def LoggerStorable (key : String) : LoggerValue → Prop
  | .bool _ => key ∈ boolKeys
  | .string s => key ∈ stringKeys ∧ NulFree s
  | .size n => key ∈ sizeKeys ∧ n ≤ 0x7fffffff
  | .int _ => False

/-- What can be stored: strings that a document gives whole, and numbers that are `int`s. -/
def Storable : ConfigValue → Prop
  | .server config => NulFree config.ip ∧ IsInt32 config.port ∧ IsInt32 config.concurrency
  | .logger data =>
    ∀ (key : String) (value : LoggerValue), data[key]? = some value → LoggerStorable key value
  | .login config => NulFree config.entityClassName ∧ NulFree config.entityType
    ∧ ∀ component ∈ config.entityComponents, NulFree component
  | .services configs => ∀ config ∈ configs, NulFree config.serviceName
    ∧ ∀ component ∈ config.serviceComponents, NulFree component

/-- **A configuration that can be loaded**: what is stored can be, under a key of its type, and
there are services only beside a login section. -/
structure Loadable (g : GameConfig) : Prop where
  stored : ∀ (key : String) (value : ConfigValue), g.config[key]? = some value →
    StoredUnder key value ∧ NulFree key ∧ Storable value
  services : g.gameServiceConfigs.isSome → g.loginEntityConfig.isSome

variable {g g' : GameConfig} {tree logger : Json} {key name : String} {data : LoggerConfig}

/-! ## What is loaded is loadable -/

theorem nulFree_append {s s' : String} : NulFree (s ++ s') ↔ NulFree s ∧ NulFree s' := by
  simp [NulFree, not_or]

theorem nulFree_getString {j : Json} {s : String} (h : j.getString = some s) : NulFree s := by
  cases j with
  | string text =>
    obtain rfl := Option.some.inj h
    exact nul_notMem_cString
  | _ => cases h

theorem nulFree_mapM_getString {elements : List Json} {l : List String}
    (h : elements.mapM Json.getString = some l) : ∀ s ∈ l, NulFree s :=
  forall_mem_of_mapM (fun _ _ _ => nulFree_getString) h

theorem storable_of_serverSection {server : AsioServerConfig}
    (h : serverSection tree = some server) : Storable (.server server) := by
  obtain ⟨value, -, h⟩ := Option.bind_eq_some_iff.mp h
  obtain ⟨ip, -, h⟩ := Option.bind_eq_some_iff.mp h
  obtain ⟨port, -, h⟩ := Option.bind_eq_some_iff.mp h
  obtain ⟨concurrency, -, h⟩ := Option.bind_eq_some_iff.mp h
  obtain ⟨address, haddress, h⟩ := Option.bind_eq_some_iff.mp h
  obtain ⟨number, hnumber, h⟩ := Option.bind_eq_some_iff.mp h
  obtain ⟨count, hcount, h⟩ := Option.bind_eq_some_iff.mp h
  obtain rfl := Option.some.inj h
  exact ⟨nulFree_getString haddress, range_of_getInt hnumber, range_of_getInt hcount⟩

theorem storable_of_loginSection {login : LoginEntityConfig}
    (h : loginSection tree = some login) : Storable (.login login) := by
  obtain ⟨value, -, h⟩ := Option.bind_eq_some_iff.mp h
  obtain ⟨entity, -, h⟩ := Option.bind_eq_some_iff.mp h
  obtain ⟨type, -, h⟩ := Option.bind_eq_some_iff.mp h
  obtain ⟨entityClassName, hclass, h⟩ := Option.bind_eq_some_iff.mp h
  obtain ⟨entityType, htype, h⟩ := Option.bind_eq_some_iff.mp h
  obtain ⟨components, hcomponents, h⟩ := Option.bind_eq_some_iff.mp h
  obtain rfl := Option.some.inj h
  refine ⟨nulFree_getString hclass, nulFree_getString htype, ?_⟩
  obtain ⟨has, -, hcomponents⟩ := Option.bind_eq_some_iff.mp hcomponents
  cases has with
  | true =>
    obtain ⟨array, -, hcomponents⟩ := Option.bind_eq_some_iff.mp hcomponents
    obtain ⟨elements, -, hcomponents⟩ := Option.bind_eq_some_iff.mp hcomponents
    exact nulFree_mapM_getString hcomponents
  | false =>
    obtain rfl := Option.some.inj hcomponents
    exact fun _ h => absurd h List.not_mem_nil

theorem storable_of_servicesSection {services : List GameServiceConfig}
    (h : servicesSection tree = some services) : Storable (.services services) := by
  obtain ⟨array, -, h⟩ := Option.bind_eq_some_iff.mp h
  obtain ⟨elements, -, h⟩ := Option.bind_eq_some_iff.mp h
  refine forall_mem_of_mapM (fun service _ config hconfig => ?_) h
  obtain ⟨value, -, hconfig⟩ := Option.bind_eq_some_iff.mp hconfig
  obtain ⟨serviceName, hname, hconfig⟩ := Option.bind_eq_some_iff.mp hconfig
  obtain ⟨value, -, hconfig⟩ := Option.bind_eq_some_iff.mp hconfig
  obtain ⟨elements, -, hconfig⟩ := Option.bind_eq_some_iff.mp hconfig
  obtain ⟨components, hcomponents, hconfig⟩ := Option.bind_eq_some_iff.mp hconfig
  obtain rfl := Option.some.inj hconfig
  exact ⟨nulFree_getString hname, nulFree_mapM_getString hcomponents⟩

/-- What has been emplaced can be stored. -/
def AllStorable (data : LoggerConfig) : Prop :=
  ∀ (key : String) (value : LoggerValue), data[key]? = some value → LoggerStorable key value

/-- **One entry more**, if it can be stored. -/
theorem AllStorable.insertIfNew (h : AllStorable data) {value : LoggerValue}
    (hvalue : LoggerStorable key value) : AllStorable (data.insertIfNew key value) := by
  intro key' value' hentry
  rw [Std.ExtTreeMap.getElem?_insertIfNew] at hentry
  split at hentry
  next hkey =>
    obtain rfl : key = key' := Std.LawfulEqCmp.eq_of_compare hkey.1
    exact Option.some.inj hentry ▸ hvalue
  next => exact h key' value' hentry

/-- A member of the kind that is asked for is emplaced, if there is one. -/
theorem AllStorable.ifMemberOf (h : AllStorable data) {data' : LoggerConfig} {kind : Json → Bool}
    {α : Type} (get : Json → Option α) (make : α → LoggerValue)
    (hmake : ∀ j a, kind j = true → get j = some a → LoggerStorable key (make a))
    (hstep : ((logger.hasMemberOf key kind).bind fun has =>
      if has = true then (logger.member key).bind fun value => (get value).bind fun a =>
        some (data.insertIfNew key (make a)) else some data) = some data') :
    AllStorable data' := by
  have hobject : logger.isObject := Json.isObject_of_hasMemberOf hstep
  obtain ⟨-, rfl⟩ | ⟨value, hvalue, hstep⟩ := (Json.ifMemberOf_eq_some hobject).mp hstep
  · exact h
  obtain ⟨a, ha, hstep⟩ := Option.bind_eq_some_iff.mp hstep
  obtain rfl := Option.some.inj hstep
  exact h.insertIfNew (hmake value a (Option.filter_eq_some_iff.mp hvalue).2 ha)

theorem getUint_le {j : Json} {n : ℕ} (hint : j.isInt = true) (h : j.getUint = some n) :
    n ≤ 0x7fffffff := by
  cases j with
  | int m =>
    obtain ⟨-, h⟩ := Option.ite_none_right_eq_some.mp h
    obtain rfl := Option.some.inj h
    have hrange : -0x80000000 ≤ m ∧ m ≤ 0x7fffffff := by simpa [Json.isInt] using hint
    omega
  | _ => cases h

/-- **The settings of a logger** can be stored. -/
theorem allStorable_loggerData (h : loggerData logger = some data) : AllStorable data := by
  have hbool (key : String) (hkey : key ∈ boolKeys) (data data' : LoggerConfig)
      (hdata : AllStorable data) (hstep : emplaceBool logger data key = some data') :
      AllStorable data' :=
    hdata.ifMemberOf Json.getBool .bool (fun _ _ _ _ => hkey) hstep
  have hstring (key : String) (hkey : key ∈ stringKeys) (data data' : LoggerConfig)
      (hdata : AllStorable data) (hstep : emplaceString logger data key = some data') :
      AllStorable data' :=
    hdata.ifMemberOf Json.getString .string
      (fun _ _ _ hs => ⟨hkey, nulFree_getString hs⟩) hstep
  have hsize (key : String) (hkey : key ∈ sizeKeys) (data data' : LoggerConfig)
      (hdata : AllStorable data) (hstep : emplaceSize logger data key = some data') :
      AllStorable data' :=
    hdata.ifMemberOf Json.getUint .size
      (fun _ _ hint hn => ⟨hkey, getUint_le hint hn⟩) hstep
  obtain ⟨data₁, h₁, h⟩ := Option.bind_eq_some_iff.mp h
  obtain ⟨data₂, h₂, h⟩ := Option.bind_eq_some_iff.mp h
  obtain ⟨data₃, h₃, h⟩ := Option.bind_eq_some_iff.mp h
  have hempty : AllStorable ∅ := fun _ _ hentry => by simp at hentry
  have hdata₁ : AllStorable data₁ := foldlM_keeps (fun key hkey => hbool key hkey) hempty h₁
  have hdata₂ : AllStorable data₂ :=
    foldlM_keeps (fun key hkey => hstring key (by revert key; decide)) hdata₁ h₂
  have hdata₃ : AllStorable data₃ := foldlM_keeps (fun key hkey => hsize key hkey) hdata₂ h₃
  exact foldlM_keeps (fun key hkey => hstring key (by revert key; decide)) hdata₃ h

/-- **What the entries of a document are.** -/
theorem mem_entries_iff {p : String × ConfigValue} : p ∈ entries tree
    ↔ (∃ server, serverSection tree = some server ∧ p = (serverConfigStr, .server server))
      ∨ (∃ logger ∈ loggers tree, loggerEntry logger = some p)
      ∨ (∃ login, loginSection tree = some login ∧ (p = (loginConfigStr, .login login)
        ∨ ∃ services, servicesSection tree = some services
          ∧ p = (servicesConfigStr, .services services))) := by
  rw [entries, firstEntries, List.mem_append, List.mem_append, or_assoc, List.mem_filterMap]
  refine or_congr ?_ (or_congr Iff.rfl ?_)
  · simp [eq_comm]
  · rw [lastEntries]
    rcases loginSection tree with _ | login
    · simp
    · simp [eq_comm]

theorem logConfigStr_append_ne {name : String} (h : key ∈ sectionKeys) :
    logConfigStr ++ name ≠ key := fun heq =>
  logConfigStr_append_notMem_sectionKeys (heq ▸ h)

/-- Of the loggers, nothing is stored under the key of a section. -/
theorem mem_entries_section_iff (h : key ∈ sectionKeys) {value : ConfigValue} :
    (key, value) ∈ entries tree
      ↔ (∃ server, serverSection tree = some server
          ∧ (key, value) = (serverConfigStr, .server server))
        ∨ (∃ login, loginSection tree = some login ∧ ((key, value) = (loginConfigStr, .login login)
          ∨ ∃ services, servicesSection tree = some services
            ∧ (key, value) = (servicesConfigStr, .services services))) := by
  rw [mem_entries_iff]
  refine or_congr Iff.rfl (or_iff_right ?_)
  rintro ⟨logger, -, hentry⟩
  obtain ⟨name, -, hentry⟩ := Option.bind_eq_some_iff.mp hentry
  obtain ⟨data, -, hentry⟩ := Option.bind_eq_some_iff.mp hentry
  exact logConfigStr_append_ne h (congrArg Prod.fst (Option.some.inj hentry))

theorem storable_of_mem_entries {p : String × ConfigValue} (h : p ∈ entries tree) :
    StoredUnder p.1 p.2 ∧ NulFree p.1 ∧ Storable p.2 := by
  refine ⟨storedUnder_of_mem_entries h, ?_⟩
  have hlog : NulFree logConfigStr := by simp [NulFree, logConfigStr]
  rcases mem_entries_iff.mp h with ⟨server, hserver, rfl⟩ | ⟨logger, -, hentry⟩ | ⟨login, hlogin, h⟩
  · exact ⟨by simp [NulFree, serverConfigStr], storable_of_serverSection hserver⟩
  · obtain ⟨name, hname, hentry⟩ := Option.bind_eq_some_iff.mp hentry
    obtain ⟨data, hdata, hentry⟩ := Option.bind_eq_some_iff.mp hentry
    obtain rfl := Option.some.inj hentry
    obtain ⟨hbind, -⟩ := Option.filter_eq_some_iff.mp hname
    obtain ⟨value, -, hname⟩ := Option.bind_eq_some_iff.mp hbind
    exact ⟨nulFree_append.mpr ⟨hlog, nulFree_getString hname⟩, allStorable_loggerData hdata⟩
  · rcases h with rfl | ⟨services, hservices, rfl⟩
    · exact ⟨by simp [NulFree, loginConfigStr], storable_of_loginSection hlogin⟩
    · exact ⟨by simp [NulFree, servicesConfigStr], storable_of_servicesSection hservices⟩

/-- The services are come to past the login section. -/
theorem loginSection_of_services (h : servicesConfigStr ∈ given tree) :
    loginConfigStr ∈ given tree := by
  rw [given, Std.ExtTreeMap.mem_ofList, List.contains_iff_mem, List.mem_map] at h ⊢
  obtain ⟨⟨key, value⟩, hp, rfl⟩ := h
  rcases (mem_entries_section_iff (by decide)).mp hp with ⟨server, -, heq⟩ | ⟨login, hlogin, -⟩
  · exact absurd (congrArg Prod.fst heq) (show servicesConfigStr ≠ serverConfigStr by decide)
  · exact ⟨_, mem_entries_iff.mpr (Or.inr (Or.inr ⟨login, hlogin, Or.inl rfl⟩)), rfl⟩

/-- A section that is there is one that is found. -/
theorem WellTyped.isSome_services_iff (h : g.WellTyped) :
    g.gameServiceConfigs.isSome ↔ servicesConfigStr ∈ g.config := by
  rw [Std.ExtTreeMap.mem_iff_isSome_getElem?, h.lookupsSound.services, Option.isSome_map]

theorem WellTyped.isSome_login_iff (h : g.WellTyped) :
    g.loginEntityConfig.isSome ↔ loginConfigStr ∈ g.config := by
  rw [Std.ExtTreeMap.mem_iff_isSome_getElem?, h.lookupsSound.login, Option.isSome_map]

theorem Loadable.wellTyped (h : g.Loadable) : g.WellTyped := fun key value hvalue =>
  (h.stored key value hvalue).1

/-- **A load leaves what is loadable loadable.** -/
theorem Loadable.loadConfig (h : g.Loadable) {doc : Option Json}
    (hload : g.loadConfig doc = some g') : g'.Loadable := by
  have htyped : g'.WellTyped := h.wellTyped.loadConfig hload
  cases doc with
  | none => exact Option.some.inj hload ▸ h
  | some tree =>
    obtain rfl := loadConfig_eq hload
    refine ⟨forall_insertMany h.stored fun p hp => storable_of_mem_entries hp, ?_⟩
    rw [htyped.isSome_services_iff, htyped.isSome_login_iff, store,
      Std.ExtTreeMap.mem_iff_isSome_getElem?, Std.ExtTreeMap.mem_iff_isSome_getElem?,
      getElem?_insertMany, getElem?_insertMany, Option.isSome_or, Option.isSome_or,
      Bool.or_eq_true, Bool.or_eq_true]
    rintro (hgiven | hold)
    · exact Or.inl (Std.ExtTreeMap.mem_iff_isSome_getElem?.mp (loginSection_of_services
        (Std.ExtTreeMap.mem_iff_isSome_getElem?.mpr hgiven)))
    · refine Or.inr (Std.ExtTreeMap.mem_iff_isSome_getElem?.mp ?_)
      rw [← h.wellTyped.isSome_login_iff]
      exact h.services (h.wellTyped.isSome_services_iff.mpr
        (Std.ExtTreeMap.mem_iff_isSome_getElem?.mpr hold))

theorem loadable_new : Loadable {} where
  stored _ _ h := by simp at h
  services h := by simp [gameServiceConfigs, get] at h

/-! ## What one load leaves -/

/-- A section is looked up where it was loaded, and nowhere else. -/
theorem get_of_mem_entries_iff {α : Type} {cast : ConfigValue → Option α} (make : α → ConfigValue)
    {given : Option α} (hcast : ∀ a, cast (make a) = some a)
    (hgiven : ∀ value, (key, value) ∈ entries tree ↔ given.map make = some value) :
    (({} : GameConfig).store (entries tree)).get key cast = given := by
  rw [get, store, ← Std.ExtTreeMap.ofList_eq_insertMany_empty, getElem?_ofList_of_mem_iff hgiven]
  rcases given with _ | a
  · rfl
  · exact hcast a

theorem getServerIpPort_entries :
    (({} : GameConfig).store (entries tree)).getServerIpPort = serverSection tree := by
  refine get_of_mem_entries_iff .server (fun _ => rfl) fun value => ?_
  rw [mem_entries_section_iff (by decide)]
  simp [serverConfigStr, loginConfigStr, servicesConfigStr, eq_comm]

theorem loginEntityConfig_entries :
    (({} : GameConfig).store (entries tree)).loginEntityConfig = loginSection tree := by
  refine get_of_mem_entries_iff .login (fun _ => rfl) fun value => ?_
  rw [mem_entries_section_iff (by decide)]
  simp [serverConfigStr, loginConfigStr, servicesConfigStr, eq_comm]

/-- …and the services past the login section. -/
theorem gameServiceConfigs_entries :
    (({} : GameConfig).store (entries tree)).gameServiceConfigs
      = (loginSection tree).bind fun _ => servicesSection tree := by
  refine get_of_mem_entries_iff .services (fun _ => rfl) fun value => ?_
  rw [mem_entries_section_iff (by decide)]
  rcases loginSection tree with _ | login <;>
    simp [serverConfigStr, loginConfigStr, servicesConfigStr, eq_comm]

/-! ## What is written of a configuration -/

/-- A setting of a logger, as it is read. -/
def settingJson : LoggerValue → Json
  | .int n => .int n
  | .bool b => .bool b
  | .size n => .int n
  | .string s => .string s

/-- A logger, with its settings. -/
def loggerJson (name : String) (data : LoggerConfig) : Json :=
  .object (("name", .string name) :: data.toList.map fun p => (p.1, settingJson p.2))

/-- The name in the key of a logger. -/
def nameOf (key : String) : String :=
  String.ofList (key.toList.drop logConfigStr.toList.length)

/-- What is written of an entry, if it is of a logger. -/
def loggerOf (p : String × ConfigValue) : Option Json :=
  match p.2 with
  | .logger data => some (loggerJson (nameOf p.1) data)
  | _ => none

/-- The server section, -/
def serverJson (config : AsioServerConfig) : Json :=
  .object [("ip", .string config.ip), ("port", .int config.port),
    ("concurrency", .int config.concurrency)]

/-- …the login section, -/
def loginJson (config : LoginEntityConfig) : Json :=
  .object [("entity", .string config.entityClassName), ("entity_type", .string config.entityType),
    ("components", .array (config.entityComponents.map .string))]

/-- …a service, -/
def serviceJson (config : GameServiceConfig) : Json :=
  .object [("name", .string config.serviceName),
    ("components", .array (config.serviceComponents.map .string))]

/-- …and all there is. -/
def toJson (g : GameConfig) : Json :=
  .object (g.getServerIpPort.toList.map (fun config => (serverConfigStr, serverJson config))
    ++ [(logConfigStr, .array (g.config.toList.filterMap loggerOf))]
    ++ g.loginEntityConfig.toList.map (fun config => (loginConfigStr, loginJson config))
    ++ g.gameServiceConfigs.toList.map fun configs =>
      (servicesConfigStr, .array (configs.map serviceJson)))

/-- **A section is written where it is there**, and the loggers in any case. -/
theorem findMember_toJson :
    g.toJson.findMember serverConfigStr = g.getServerIpPort.map serverJson
      ∧ g.toJson.findMember logConfigStr = some (.array (g.config.toList.filterMap loggerOf))
      ∧ g.toJson.findMember loginConfigStr = g.loginEntityConfig.map loginJson
      ∧ g.toJson.findMember servicesConfigStr
        = g.gameServiceConfigs.map fun configs => .array (configs.map serviceJson) := by
  rcases hserver : g.getServerIpPort with _ | server <;>
    rcases hlogin : g.loginEntityConfig with _ | login <;>
    rcases hservices : g.gameServiceConfigs with _ | services <;>
    simp [toJson, Json.findMember, hserver, hlogin, hservices, serverConfigStr, logConfigStr,
      loginConfigStr, servicesConfigStr]

/-! ## What is written is read -/

theorem getString_string {s : String} (h : NulFree s) : (Json.string s).getString = some s :=
  congrArg some (cString_eq_self_iff.mpr h)

theorem getInt_int {n : ℤ} (h : IsInt32 n) : (Json.int n).getInt = some n :=
  if_pos (decide_eq_true h)

theorem mapM_getString {l : List String} (h : ∀ s ∈ l, NulFree s) :
    (l.map Json.string).mapM Json.getString = some l :=
  mapM_map_eq_some fun s hs => getString_string (h s hs)

theorem serverSection_toJson (h : ∀ config ∈ g.getServerIpPort, Storable (.server config)) :
    serverSection g.toJson = g.getServerIpPort := by
  rw [serverSection, findMember_toJson.1]
  rcases hserver : g.getServerIpPort with _ | config
  · rfl
  obtain ⟨hip, hport, hconcurrency⟩ := h config hserver
  simp [serverJson, Json.findMember, Option.filter, Json.isString, Json.isNumber,
    getString_string hip, getInt_int hport, getInt_int hconcurrency]

theorem loginSection_toJson (h : ∀ config ∈ g.loginEntityConfig, Storable (.login config)) :
    loginSection g.toJson = g.loginEntityConfig := by
  rw [loginSection, findMember_toJson.2.2.1]
  rcases hlogin : g.loginEntityConfig with _ | config
  · rfl
  obtain ⟨hclass, htype, hcomponents⟩ := h config hlogin
  simp [loginJson, Json.findMember, Option.filter, Json.isString, loginComponents,
    Json.hasMemberOf, Json.hasMember, Json.isObject, Json.member, Json.isArray, Json.getArray,
    getString_string hclass, getString_string htype, mapM_getString hcomponents]

theorem loadService_serviceJson {config : GameServiceConfig} (hname : NulFree config.serviceName)
    (hcomponents : ∀ s ∈ config.serviceComponents, NulFree s) :
    loadService (serviceJson config) = some config := by
  simp [loadService, serviceJson, Json.member, Json.findMember, Json.getArray,
    getString_string hname, mapM_getString hcomponents]

theorem servicesSection_toJson
    (h : ∀ configs ∈ g.gameServiceConfigs, Storable (.services configs)) :
    servicesSection g.toJson = g.gameServiceConfigs := by
  rw [servicesSection, findMember_toJson.2.2.2]
  rcases hservices : g.gameServiceConfigs with _ | configs
  · rfl
  have hread : (configs.map serviceJson).mapM loadService = some configs :=
    mapM_map_eq_some fun config hconfig =>
      loadService_serviceJson (h configs hservices config hconfig).1
        (h configs hservices config hconfig).2
  simp [Option.filter, Json.isArray, Json.getArray, hread]

/-! ## …and so are the loggers -/

theorem nameOf_append (name : String) : nameOf (logConfigStr ++ name) = name := by
  rw [nameOf, String.toList_append, List.drop_left, String.ofList_toList]

theorem findMember_name_loggerJson :
    (loggerJson name data).findMember "name" = some (.string name) := rfl

/-- **A setting is found under its key.** -/
theorem findMember_loggerJson (hkey : key ≠ "name") :
    (loggerJson name data).findMember key = data[key]?.map settingJson := by
  have hfind : (data.toList.map fun p => (p.1, settingJson p.2)).find? (fun m => m.1 = key)
      = (data.toList.find? fun p => p.1 = key).map fun p => (p.1, settingJson p.2) := by
    rw [List.find?_map]
    rfl
  rw [loggerJson, Json.findMember, List.find?_cons_of_neg (by simpa using hkey.symm), hfind,
    ← find?_toList data key, Option.map_map, Option.map_map]
  rfl

theorem ne_name_of_mem (h : key ∈ boolKeys ∨ key ∈ stringKeys ∨ key ∈ sizeKeys) :
    key ≠ "name" := by
  rintro rfl
  revert h
  decide

/-- Under a key that is no setting's, nothing is written. -/
theorem lookup_settings_eq_none (hbool : key ∉ boolKeys) (hstring : key ∉ stringKeys)
    (hsize : key ∉ sizeKeys) : (settings logger).lookup key = none := by
  simp only [boolKeys, stringKeys, sizeKeys, List.mem_cons, List.not_mem_nil, or_false,
    not_or] at hbool hstring hsize
  simp [settings, List.lookup_append, lookup_entriesOf, boolKeys, sizeKeys, hbool, hstring, hsize]

theorem handsOver_loggerJson (hname : NulFree name) (h : AllStorable data) :
    HandsOver (loggerJson name data) where
  nulFree key hkey s hs := by
    rcases List.mem_cons.mp hkey with rfl | hkey
    · obtain rfl : name = s := by simpa [findMember_name_loggerJson] using hs
      exact hname
    · rw [findMember_loggerJson (ne_name_of_mem (Or.inr (Or.inl hkey)))] at hs
      obtain ⟨value, hvalue, hs⟩ := Option.map_eq_some_iff.mp hs
      cases value with
      | string text =>
        obtain rfl := Json.string.inj hs
        exact (h key _ hvalue).2
      | _ => cases hs
  nonneg key hkey n hn _ _ := by
    rw [findMember_loggerJson (ne_name_of_mem (Or.inr (Or.inr hkey)))] at hn
    obtain ⟨value, hvalue, hn⟩ := Option.map_eq_some_iff.mp hn
    cases value with
    | size m =>
      obtain rfl := Json.int.inj hn
      exact Int.natCast_nonneg m
    | int m => exact (h key _ hvalue).elim
    | _ => cases hn

/-- **The settings that are written are those there were.** -/
theorem written_loggerJson (h : AllStorable data) : written (loggerJson name data) = data := by
  refine Std.ExtTreeMap.ext_getElem? fun {key} => ?_
  rw [getElem?_written]
  have hfind (hkey : key ∈ boolKeys ∨ key ∈ stringKeys ∨ key ∈ sizeKeys) :
      (loggerJson name data).findMember key = data[key]?.map settingJson :=
    findMember_loggerJson (ne_name_of_mem hkey)
  rcases hvalue : data[key]? with _ | value
  -- what is not there is not written, whatever it would be
  · rw [hvalue] at hfind
    by_cases hbool : key ∈ boolKeys
    · rw [lookup_settings_bool hbool, boolMember, hfind (Or.inl hbool)]
      rfl
    by_cases hstring : key ∈ stringKeys
    · rw [lookup_settings_string hstring, stringMember, hfind (Or.inr (Or.inl hstring))]
      rfl
    by_cases hsize : key ∈ sizeKeys
    · rw [lookup_settings_size hsize, sizeMember, hfind (Or.inr (Or.inr hsize))]
      rfl
    · exact lookup_settings_eq_none hbool hstring hsize
  have hstorable : LoggerStorable key value := h key value hvalue
  rw [hvalue] at hfind
  cases value with
  | int n => exact hstorable.elim
  | bool b =>
    rw [lookup_settings_bool hstorable, boolMember, hfind (Or.inl hstorable)]
    rfl
  | string s =>
    rw [lookup_settings_string hstorable.1, stringMember, hfind (Or.inr (Or.inl hstorable.1))]
    rfl
  | size n =>
    have hint : -0x80000000 ≤ (n : ℤ) ∧ (n : ℤ) ≤ 0x7fffffff := by
      have hle := hstorable.2
      omega
    rw [lookup_settings_size hstorable.1, sizeMember, hfind (Or.inr (Or.inr hstorable.1))]
    simp [settingJson, hint]

/-- **A logger is read as what it was written of.** -/
theorem loggerEntry_loggerJson (hname : NulFree name) (hne : name ≠ "") (h : AllStorable data) :
    loggerEntry (loggerJson name data) = some (logConfigStr ++ name, .logger data) := by
  have hdata : loggerData (loggerJson name data) = some data := by
    rw [loggerData_eq rfl (handsOver_loggerJson hname h), written_loggerJson h]
  have hgiven : loggerName (loggerJson name data) = some name := by
    simp [loggerName, findMember_name_loggerJson, Option.filter, Json.isString,
      getString_string hname, hne]
  rw [loggerEntry, hgiven, hdata]
  rfl

theorem loggers_toJson : loggers g.toJson = g.config.toList.filterMap loggerOf := by
  rw [loggers, findMember_toJson.2.1]
  rfl

/-- What a written logger was written of. -/
theorem exists_of_mem_loggers (h : g.Loadable) (hlogger : logger ∈ loggers g.toJson) :
    ∃ name data, logger = loggerJson name data ∧ name ≠ "" ∧ NulFree name ∧ AllStorable data
      ∧ g.config[logConfigStr ++ name]? = some (.logger data) := by
  rw [loggers_toJson, List.mem_filterMap] at hlogger
  obtain ⟨⟨key, value⟩, hentry, hlogger⟩ := hlogger
  have hvalue : g.config[key]? = some value :=
    Std.ExtTreeMap.mem_toList_iff_getElem?_eq_some.mp hentry
  obtain ⟨hunder, hnul, hstorable⟩ := h.stored key value hvalue
  cases value with
  | logger data =>
    obtain ⟨name, hne, rfl⟩ := hunder
    refine ⟨name, data, ?_, hne, (nulFree_append.mp hnul).2, hstorable, hvalue⟩
    rw [← nameOf_append name]
    exact (Option.some.inj hlogger).symm
  | _ => cases hlogger

/-- …and that each of them is written. -/
theorem loggerJson_mem_loggers (hvalue : g.config[logConfigStr ++ name]? = some (.logger data)) :
    loggerJson name data ∈ loggers g.toJson := by
  rw [loggers_toJson, List.mem_filterMap]
  refine ⟨(logConfigStr ++ name, .logger data),
    Std.ExtTreeMap.mem_toList_iff_getElem?_eq_some.mpr hvalue, ?_⟩
  rw [loggerOf, nameOf_append]

/-! ## All of it -/

theorem Loadable.server (h : g.Loadable) : ∀ config ∈ g.getServerIpPort,
    Storable (.server config) := fun config hconfig => by
  have hstored := h.wellTyped.lookupsSound.server
  rw [show g.getServerIpPort = some config from hconfig] at hstored
  exact (h.stored _ _ hstored).2.2

theorem Loadable.login (h : g.Loadable) : ∀ config ∈ g.loginEntityConfig,
    Storable (.login config) := fun config hconfig => by
  have hstored := h.wellTyped.lookupsSound.login
  rw [show g.loginEntityConfig = some config from hconfig] at hstored
  exact (h.stored _ _ hstored).2.2

theorem Loadable.serviceConfigs (h : g.Loadable) : ∀ configs ∈ g.gameServiceConfigs,
    Storable (.services configs) := fun configs hconfigs => by
  have hstored := h.wellTyped.lookupsSound.services
  rw [show g.gameServiceConfigs = some configs from hconfigs] at hstored
  exact (h.stored _ _ hstored).2.2

/-- **No assertion stops a document that was written.** -/
theorem Loadable.readable (h : g.Loadable) : Readable g.toJson where
  root := rfl
  server := by
    intro server hserver ip _ _ port hport _
    rw [findMember_toJson.1] at hserver
    obtain ⟨config, hconfig, rfl⟩ := Option.map_eq_some_iff.mp hserver
    obtain ⟨-, hportRange, hcountRange⟩ := h.server config hconfig
    obtain rfl : Json.int config.port = port := Option.some.inj hport
    refine ⟨decide_eq_true hportRange, fun concurrency hconcurrency => ?_⟩
    obtain rfl : Json.int config.concurrency = concurrency := Option.some.inj hconcurrency
    exact decide_eq_true hcountRange
  loggers := by
    intro value hvalue
    rw [findMember_toJson.2.1] at hvalue
    obtain rfl := Option.some.inj hvalue
    refine ⟨rfl, fun logger hlogger => ?_⟩
    have hmem : logger ∈ loggers g.toJson := by
      rw [loggers_toJson]
      exact hlogger
    obtain ⟨name, data, rfl, hne, hname, hstorable, -⟩ := exists_of_mem_loggers h hmem
    have hread : (({} : GameConfig).loadSingleLoggerConfig (loggerJson name data)).isSome := by
      rw [loadSingleLoggerConfig_eq_written findMember_name_loggerJson hne
        (handsOver_loggerJson hname hstorable)]
      rfl
    exact isSome_loadSingleLoggerConfig.mp hread
  login := by
    intro login hlogin
    rw [findMember_toJson.2.2.1] at hlogin
    obtain ⟨config, -, rfl⟩ := Option.map_eq_some_iff.mp hlogin
    refine ⟨rfl, fun entity _ _ type htype => ?_⟩
    obtain rfl : Json.string config.entityType = type := Option.some.inj htype
    refine ⟨rfl, fun components hcomponents _ component hcomponent => ?_⟩
    obtain rfl : Json.array (config.entityComponents.map .string) = components :=
      Option.some.inj hcomponents
    obtain ⟨s, -, rfl⟩ := List.mem_map.mp hcomponent
    rfl
  services := by
    intro _ services hservices _ service hservice
    rw [findMember_toJson.2.2.2] at hservices
    obtain ⟨configs, hconfigs, rfl⟩ := Option.map_eq_some_iff.mp hservices
    obtain ⟨config, hconfig, rfl⟩ := List.mem_map.mp hservice
    obtain ⟨hname, hcomponents⟩ := h.serviceConfigs configs hconfigs config hconfig
    exact isSome_loadService.mp (by rw [loadService_serviceJson hname hcomponents]; rfl)

/-- **What is written are the entries there are.** -/
theorem Loadable.mem_entries_toJson_iff (h : g.Loadable) (key : String) (value : ConfigValue) :
    (key, value) ∈ entries g.toJson ↔ g.config[key]? = some value := by
  have hsound := h.wellTyped.lookupsSound
  rw [mem_entries_iff, serverSection_toJson h.server, loginSection_toJson h.login,
    servicesSection_toJson h.serviceConfigs]
  constructor
  · rintro (⟨server, hserver, heq⟩ | ⟨logger, hlogger, hentry⟩ | ⟨login, hlogin, heq
      | ⟨services, hservices, heq⟩⟩)
    · obtain ⟨rfl, rfl⟩ := Prod.mk.inj heq
      rw [hsound.server, hserver, Option.map_some]
    · obtain ⟨name, data, rfl, hne, hname, hstorable, hvalue⟩ := exists_of_mem_loggers h hlogger
      rw [loggerEntry_loggerJson hname hne hstorable] at hentry
      obtain ⟨rfl, rfl⟩ := Prod.mk.inj (Option.some.inj hentry)
      exact hvalue
    · obtain ⟨rfl, rfl⟩ := Prod.mk.inj heq
      rw [hsound.login, hlogin, Option.map_some]
    · obtain ⟨rfl, rfl⟩ := Prod.mk.inj heq
      rw [hsound.services, hservices, Option.map_some]
  · intro hvalue
    obtain ⟨hunder, hnul, hstorable⟩ := h.stored key value hvalue
    cases value with
    | server config =>
      obtain rfl : key = serverConfigStr := hunder
      refine Or.inl ⟨config, ?_, rfl⟩
      rw [getServerIpPort, get, hvalue]
      rfl
    | logger data =>
      obtain ⟨name, hne, rfl⟩ := hunder
      exact Or.inr (Or.inl ⟨_, loggerJson_mem_loggers hvalue,
        loggerEntry_loggerJson (nulFree_append.mp hnul).2 hne hstorable⟩)
    | login config =>
      obtain rfl : key = loginConfigStr := hunder
      refine Or.inr (Or.inr ⟨config, ?_, Or.inl rfl⟩)
      rw [loginEntityConfig, get, hvalue]
      rfl
    | services configs =>
      obtain rfl : key = servicesConfigStr := hunder
      have hservices : g.gameServiceConfigs = some configs := by
        rw [gameServiceConfigs, get, hvalue]
        rfl
      obtain ⟨login, hlogin⟩ := Option.isSome_iff_exists.mp (h.services (by rw [hservices]; rfl))
      exact Or.inr (Or.inr ⟨login, hlogin, Or.inr ⟨configs, hservices, rfl⟩⟩)

end GameConfig

open GameConfig

/-- **What is written of a loadable configuration is loaded again**, whole and without an error. -/
theorem loadConfig_toJson {g : GameConfig} (h : g.Loadable) :
    ({} : GameConfig).loadConfig (some g.toJson) = some g := by
  rw [h.readable.loadConfig, store, ← Std.ExtTreeMap.ofList_eq_insertMany_empty,
    ofList_eq_of_mem_iff h.mem_entries_toJson_iff]

/-- **What any number of loads can leave** is what is loadable, and what is written of it is one
document that leaves it. -/
theorem exists_exec_iff_loadable (g : GameConfig) :
    ((∃ docs, GameConfig.machine.exec {} docs = some g) ↔ g.Loadable)
      ∧ (g.Loadable → ({} : GameConfig).loadConfig (some g.toJson) = some g) := by
  refine ⟨⟨?_, fun h => ⟨[some g.toJson], ?_⟩⟩, loadConfig_toJson⟩
  · rintro ⟨docs, hex⟩
    exact (Machine.always_of_step Loadable (fun _ _ _ h hload => h.loadConfig hload)
      loadable_new).last hex
  · rw [Machine.exec_cons, show GameConfig.machine.step {} (some g.toJson) = some g from
      loadConfig_toJson h]
    rfl

end MultiplayerServer
