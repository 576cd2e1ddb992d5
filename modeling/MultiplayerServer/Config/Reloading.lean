import MultiplayerServer.Config.Sections
import MultiplayerServer.Machinery.Runs

/-!
# Config/Reloading — one document after another

A load stores into what the loads before it have left, and takes nothing out.

* `lookups_sound` — what is stored under a key is of the type it is read as, after any loads.
* `reload_eq_fresh_iff` — a load leaves what a first one would exactly when no logger has gone.
* `refused_eq_self_iff` — a document that is refused leaves no trace exactly when it says nothing
  new before the section it is refused for.
-/

namespace MultiplayerServer

open Machinery

namespace GameConfig

/-- The runs of a configuration; a failed assertion ends the process. -/
def machine : Machine GameConfig (Option Json) := ⟨loadConfig⟩

/-- The keys of the sections that are stored whole. -/
def sectionKeys : List String := [serverConfigStr, loginConfigStr, servicesConfigStr]

/-- What a value may be stored under. -/
def StoredUnder (key : String) : ConfigValue → Prop
  | .server _ => key = serverConfigStr
  | .login _ => key = loginConfigStr
  | .services _ => key = servicesConfigStr
  | .logger _ => ∃ name, name ≠ "" ∧ key = logConfigStr ++ name

/-- **Every value is stored under a key of its type.** -/
def WellTyped (g : GameConfig) : Prop :=
  ∀ (key : String) (value : ConfigValue), g.config[key]? = some value → StoredUnder key value

/-- **What is stored is what its readers cast it to**: a cast of one of the three sections gives
all that is stored, and every other key is that of a logger that has a name. -/
structure LookupsSound (g : GameConfig) : Prop where
  server : g.config[serverConfigStr]? = g.getServerIpPort.map .server
  login : g.config[loginConfigStr]? = g.loginEntityConfig.map .login
  services : g.config[servicesConfigStr]? = g.gameServiceConfigs.map .services
  loggers : ∀ key ∉ sectionKeys, ∀ value, g.config[key]? = some value →
    ∃ name data, name ≠ "" ∧ key = logConfigStr ++ name ∧ value = .logger data

variable {g g' : GameConfig} {tree logger : Json} {key name : String}

/-! ## Keys -/

theorem logConfigStr_append_injective : Function.Injective (logConfigStr ++ ·) := by
  intro name name' h
  have hlist : logConfigStr.toList ++ name.toList = logConfigStr.toList ++ name'.toList := by
    simpa using congrArg String.toList h
  exact String.toList_inj.mp (List.append_cancel_left hlist)

/-- A logger's key begins as no other key does. -/
theorem logConfigStr_append_notMem_sectionKeys : logConfigStr ++ name ∉ sectionKeys := by
  have hprefix : ∀ key ∈ sectionKeys, ¬ logConfigStr.toList <+: key.toList := by decide
  intro h
  refine hprefix _ h ⟨name.toList, ?_⟩
  rw [String.toList_append]

/-! ## What is stored is what it is read as -/

/-- A logger is stored under a name that is not empty. -/
theorem ne_empty_of_loggerName (h : loggerName logger = some name) : name ≠ "" := by
  obtain ⟨-, hempty⟩ := Option.filter_eq_some_iff.mp h
  exact of_decide_eq_true hempty

theorem storedUnder_of_mem_entries {p : String × ConfigValue} (h : p ∈ entries tree) :
    StoredUnder p.1 p.2 := by
  refine forall_mem_entries (fun server _ => ?_) (fun logger name data hname _ => ?_)
    (fun login => ?_) (fun services => ?_) p h
  · exact rfl
  · exact ⟨name, ne_empty_of_loggerName hname, rfl⟩
  · exact rfl
  · exact rfl

/-- **One load** stores nothing under a key of another type. -/
theorem WellTyped.loadConfig (hg : g.WellTyped) {doc : Option Json}
    (hload : g.loadConfig doc = some g') : g'.WellTyped := by
  cases doc with
  | none => exact Option.some.inj hload ▸ hg
  | some tree =>
    rw [loadConfig_eq hload]
    exact forall_insertMany hg fun p hp => storedUnder_of_mem_entries hp

theorem wellTyped_new : WellTyped {} := fun _ _ h => by
  simp at h

/-- **Any number of loads.** -/
theorem always_wellTyped (docs : List (Option Json)) : machine.Always WellTyped {} docs :=
  Machine.always_of_step WellTyped (fun _ _ _ hg hload => hg.loadConfig hload) wellTyped_new

/-- Nothing but a section is stored under the key of one. -/
theorem StoredUnder.section_eq {value : ConfigValue} (h : StoredUnder key value)
    (hkey : key ∈ sectionKeys) : (∃ config, value = .server config ∧ key = serverConfigStr)
      ∨ (∃ config, value = .login config ∧ key = loginConfigStr)
      ∨ ∃ configs, value = .services configs ∧ key = servicesConfigStr := by
  cases value with
  | server config => exact Or.inl ⟨config, rfl, h⟩
  | login config => exact Or.inr (Or.inl ⟨config, rfl, h⟩)
  | services configs => exact Or.inr (Or.inr ⟨configs, rfl, h⟩)
  | logger data =>
    obtain ⟨name, -, rfl⟩ := h
    exact absurd hkey logConfigStr_append_notMem_sectionKeys

/-- **A reader whose cast fits** gives all that is stored. -/
theorem getElem?_eq_map_get {α : Type} {cast : ConfigValue → Option α} {make : α → ConfigValue}
    (hcast : ∀ a, cast (make a) = some a)
    (hmade : ∀ value, g.config[key]? = some value → ∃ a, value = make a) :
    g.config[key]? = (g.get key cast).map make := by
  rw [get]
  rcases hvalue : g.config[key]? with _ | value
  · rfl
  · obtain ⟨a, rfl⟩ := hmade value hvalue
    rw [Option.bind_some, hcast, Option.map_some]

theorem WellTyped.lookupsSound (hg : g.WellTyped) : g.LookupsSound where
  server := getElem?_eq_map_get (fun _ => rfl) fun value hvalue => by
    obtain ⟨config, rfl, -⟩ | ⟨_, -, hkey⟩ | ⟨_, -, hkey⟩ := (hg _ _ hvalue).section_eq (by decide)
    · exact ⟨config, rfl⟩
    · exact absurd hkey (by decide)
    · exact absurd hkey (by decide)
  login := getElem?_eq_map_get (fun _ => rfl) fun value hvalue => by
    obtain ⟨_, -, hkey⟩ | ⟨config, rfl, -⟩ | ⟨_, -, hkey⟩ := (hg _ _ hvalue).section_eq (by decide)
    · exact absurd hkey (by decide)
    · exact ⟨config, rfl⟩
    · exact absurd hkey (by decide)
  services := getElem?_eq_map_get (fun _ => rfl) fun value hvalue => by
    obtain ⟨_, -, hkey⟩ | ⟨_, -, hkey⟩ | ⟨configs, rfl, -⟩ := (hg _ _ hvalue).section_eq (by decide)
    · exact absurd hkey (by decide)
    · exact absurd hkey (by decide)
    · exact ⟨configs, rfl⟩
  loggers := by
    intro key hkey value hvalue
    have hstored := hg key value hvalue
    cases value with
    | logger data =>
      obtain ⟨name, hname, rfl⟩ := hstored
      exact ⟨name, data, hname, rfl, rfl⟩
    | server config => exact absurd (hstored ▸ by decide) hkey
    | login config => exact absurd (hstored ▸ by decide) hkey
    | services configs => exact absurd (hstored ▸ by decide) hkey

/-! ## A reload -/

/-- Nothing is missing from a document that is loaded. -/
structure Complete (tree : Json) : Prop extends Readable tree where
  serverGiven : (serverSection tree).isSome
  loggersGiven : (tree.findMember logConfigStr).isSome
  loginGiven : (loginSection tree).isSome
  servicesGiven : (servicesSection tree).isSome

/-- A logger that has a name is stored, under it. -/
theorem map_fst_loggerEntry (h : LoggerReadable logger) :
    (loggerEntry logger).map Prod.fst = (loggerName logger).map (logConfigStr ++ ·) := by
  rw [loggerEntry]
  rcases hname : loggerName logger with _ | name
  · rfl
  obtain ⟨hbind, hempty⟩ := Option.filter_eq_some_iff.mp hname
  obtain ⟨value, hvalue, hstring⟩ := Option.bind_eq_some_iff.mp hbind
  obtain ⟨hmem, -⟩ := Option.filter_eq_some_iff.mp hvalue
  have hobject : logger.isObject := by
    by_contra hobject
    simp [Json.findMember_of_not hobject] at hmem
  have hdata : (loggerData logger).isSome :=
    (isSome_loggerData hobject).mpr (h value hmem name hstring (of_decide_eq_true hempty))
  obtain ⟨data, hdata⟩ := Option.isSome_iff_exists.mp hdata
  simp [hdata]

theorem map_fst_loggerEntries (h : LoggersReadable tree) :
    ((loggers tree).filterMap loggerEntry).map Prod.fst
      = (loggerNames tree).map (logConfigStr ++ ·) := by
  have hread : ∀ logger ∈ loggers tree, LoggerReadable logger := by
    intro logger hlogger
    rw [loggers] at hlogger
    rcases hsection : tree.findMember logConfigStr with _ | value
    · simp [hsection] at hlogger
    · rw [hsection, Option.elim_some] at hlogger
      exact (h value hsection).2 logger hlogger
  rw [loggerNames, List.map_filterMap, List.map_filterMap]
  exact List.filterMap_congr fun logger hlogger => map_fst_loggerEntry (hread logger hlogger)

/-- **The keys of a document from which nothing is missing.** -/
theorem Complete.mem_given_iff (h : Complete tree) : key ∈ given tree
    ↔ key ∈ sectionKeys ∨ ∃ name ∈ loggerNames tree, key = logConfigStr ++ name := by
  obtain ⟨server, hserver⟩ := Option.isSome_iff_exists.mp h.serverGiven
  obtain ⟨login, hlogin⟩ := Option.isSome_iff_exists.mp h.loginGiven
  obtain ⟨services, hservices⟩ := Option.isSome_iff_exists.mp h.servicesGiven
  have hkeys : (entries tree).map Prod.fst = serverConfigStr
      :: ((loggerNames tree).map (logConfigStr ++ ·) ++ [loginConfigStr, servicesConfigStr]) := by
    rw [entries, firstEntries, List.map_append, List.map_append, map_fst_loggerEntries h.loggers,
      lastEntries, hserver, hlogin, hservices]
    rfl
  rw [given, Std.ExtTreeMap.mem_ofList, hkeys, List.contains_iff_mem]
  simp only [sectionKeys, List.mem_cons, List.mem_append, List.mem_map, List.not_mem_nil, or_false]
  constructor
  · rintro (rfl | ⟨name, hname, rfl⟩ | rfl | rfl)
    · exact Or.inl (Or.inl rfl)
    · exact Or.inr ⟨name, hname, rfl⟩
    · exact Or.inl (Or.inr (Or.inl rfl))
    · exact Or.inl (Or.inr (Or.inr rfl))
  · rintro ((rfl | rfl | rfl) | ⟨name, hname, rfl⟩)
    · exact Or.inl rfl
    · exact Or.inr (Or.inr (Or.inl rfl))
    · exact Or.inr (Or.inr (Or.inr rfl))
    · exact Or.inr (Or.inl ⟨name, hname, rfl⟩)

/-- A document that is loaded is stored, on top of what there was. -/
theorem Readable.loadConfig (h : Readable tree) (g : GameConfig) :
    g.loadConfig (some tree) = some (g.store (entries tree)) := by
  have hload : (g.loadConfig (some tree)).isSome :=
    (isSome_loadConfig h.root).mpr ⟨h.server, h.loggers, h.login, h.services⟩
  obtain ⟨g', hg'⟩ := Option.isSome_iff_exists.mp hload
  rw [hg', loadConfig_eq hg']

/-- **A load leaves nothing older** exactly when the document has every key there was. -/
theorem Readable.loadConfig_eq_new_iff (h : Readable tree) (g : GameConfig) :
    g.loadConfig (some tree) = ({} : GameConfig).loadConfig (some tree)
      ↔ ∀ key ∈ g.config, key ∈ given tree := by
  have hnew : ({} : GameConfig).store (entries tree) = ⟨given tree⟩ :=
    congrArg GameConfig.mk Std.ExtTreeMap.ofList_eq_insertMany_empty.symm
  rw [h.loadConfig, h.loadConfig, hnew, Option.some.injEq, store, GameConfig.mk.injEq]
  exact insertMany_eq_ofList_iff

/-- A document from which nothing is missing, with a logger of each name. -/
def document (names : List String) : Json :=
  .object [("server", .object [("ip", .string "127.0.0.1"), ("port", .int 8080),
      ("concurrency", .int 2)]),
    ("logger", .array (names.map fun name => .object [("name", .string name)])),
    ("login", .object [("entity", .string "ServerEntity"),
      ("entity_type", .string "kPlayerEntity")]),
    ("services", .array [])]

theorem complete_document (names : List String) : Complete (document names) where
  root := rfl
  server := by simp [ServerReadable, document, Json.findMember, serverConfigStr, Json.isInt]
  loggers := by
    simp [LoggersReadable, LoggerReadable, document, Json.findMember, logConfigStr, Json.isArray,
      Json.elements]
  login := by simp [LoginReadable, document, Json.findMember, loginConfigStr, Json.isObject,
    Json.isString]
  services := by
    simp [ServicesReadable, document, Json.findMember, servicesConfigStr, Json.elements]
  serverGiven := rfl
  loggersGiven := rfl
  loginGiven := rfl
  servicesGiven := rfl

theorem WellTyped.mem_config (hg : g.WellTyped) (h : key ∈ g.config) :
    key ∈ sectionKeys ∨ ∃ name, key = logConfigStr ++ name := by
  obtain ⟨value, hvalue⟩ := Option.isSome_iff_exists.mp
    (Std.ExtTreeMap.mem_iff_isSome_getElem?.mp h)
  by_cases hkey : key ∈ sectionKeys
  · exact Or.inl hkey
  · obtain ⟨name, data, -, hname, -⟩ := hg.lookupsSound.loggers key hkey value hvalue
    exact Or.inr ⟨name, hname⟩

/-! ## A document that is refused -/

/-- A loader throws, for the login section or for the services. -/
def Throws (g : GameConfig) (tree : Json) : Prop :=
  ∃ g₁ g₂, g.loadServerConfig tree = some g₁ ∧ g₁.loadLoggerConfig tree = some g₂
    ∧ ((∃ e, g₂.loadLoginConfig tree = some (.error e))
      ∨ ∃ g₃ e, g₂.loadLoginConfig tree = some (.ok g₃)
        ∧ g₃.loadServicesConfig tree = some (.error e))

/-- What is stored before an exception stays. -/
theorem Throws.loadConfig (h : Throws g tree) :
    g.loadConfig (some tree) = some (g.store (entries tree)) := by
  have hload : (g.loadConfig (some tree)).isSome := by
    obtain ⟨g₁, g₂, hserver, hloggers, ⟨e, hlogin⟩ | ⟨g₃, e, hlogin, hservices⟩⟩ := h
    · simp [GameConfig.loadConfig, hserver, hloggers, hlogin]
    · simp [GameConfig.loadConfig, hserver, hloggers, hlogin, hservices]
  obtain ⟨g', hg'⟩ := Option.isSome_iff_exists.mp hload
  rw [hg', loadConfig_eq hg']

end GameConfig

open GameConfig

/-- **Every lookup is sound after any loads**, and no logger's key is that of a section or of
another logger. -/
theorem lookups_sound :
    (∀ docs : List (Option Json), GameConfig.machine.Always LookupsSound {} docs)
    ∧ Function.Injective (logConfigStr ++ ·) ∧ ∀ name, logConfigStr ++ name ∉ sectionKeys :=
  ⟨fun docs => (always_wellTyped docs).mono fun _ hg => hg.lookupsSound,
    logConfigStr_append_injective, fun _ => logConfigStr_append_notMem_sectionKeys⟩

/-- **A load leaves what a first one would** exactly when every logger that is stored is in the
document again. -/
theorem reload_eq_fresh_iff {docs : List (Option Json)} {g : GameConfig} {tree : Json}
    (hg : GameConfig.machine.exec {} docs = some g) (h : Complete tree) :
    g.loadConfig (some tree) = ({} : GameConfig).loadConfig (some tree)
      ↔ ∀ name, logConfigStr ++ name ∈ g.config → name ∈ loggerNames tree := by
  rw [h.toReadable.loadConfig_eq_new_iff]
  constructor
  · intro hkeys name hname
    obtain hkey | ⟨name', hname', heq⟩ := h.mem_given_iff.mp (hkeys _ hname)
    · exact absurd hkey logConfigStr_append_notMem_sectionKeys
    · exact logConfigStr_append_injective heq ▸ hname'
  · intro hnames key hkey
    obtain hsection | ⟨name, rfl⟩ := ((always_wellTyped docs).last hg).mem_config hkey
    · exact h.mem_given_iff.mpr (Or.inl hsection)
    · exact h.mem_given_iff.mpr (Or.inr ⟨name, hnames name hkey, rfl⟩)

/-- One logger in the place of another. -/
theorem reload_eq_fresh_iff_renamed :
    (({} : GameConfig).store (entries (document ["main"]))).loadConfig (some (document ["game"]))
        = ({} : GameConfig).loadConfig (some (document ["game"]))
      ↔ ∀ name,
        logConfigStr ++ name ∈ (({} : GameConfig).store (entries (document ["main"]))).config →
          name ∈ loggerNames (document ["game"]) := by
  have hg : GameConfig.machine.exec {} [some (document ["main"])]
      = some (({} : GameConfig).store (entries (document ["main"]))) := by decide
  exact reload_eq_fresh_iff hg (complete_document _)

/-- The first logger is still there. -/
theorem not_reload_eq_fresh_of_renamed : Complete (document ["game"])
    ∧ GameConfig.machine.exec {} [some (document ["main"]), some (document ["game"])]
      ≠ ({} : GameConfig).loadConfig (some (document ["game"])) :=
  ⟨complete_document _, by decide⟩

/-- **A document that is refused leaves no trace** exactly when what it says before the section it
is refused for is stored already. -/
theorem refused_eq_self_iff {g : GameConfig} {tree : Json} (h : Throws g tree) :
    g.loadConfig (some tree) = some g
      ↔ ∀ (key : String) (value : ConfigValue),
        (given tree)[key]? = some value → g.config[key]? = some value := by
  rw [h.loadConfig, Option.some.injEq]
  -- equal configurations are equal maps
  refine Iff.trans ?_ insertMany_eq_self_iff
  rw [store]
  exact ⟨congrArg config, congrArg GameConfig.mk⟩

/-- A document without a login section, on a configuration that nothing is stored in. -/
theorem refused_eq_self_iff_server :
    ({} : GameConfig).loadConfig (some (.object [("server", .object [("ip", .string "127.0.0.1"),
        ("port", .int 8080), ("concurrency", .int 2)])])) = some {}
      ↔ ∀ (key : String) (value : ConfigValue),
        (given (.object [("server", .object [("ip", .string "127.0.0.1"),
          ("port", .int 8080), ("concurrency", .int 2)])]))[key]? = some value
        → ({} : GameConfig).config[key]? = some value :=
  refused_eq_self_iff ⟨_, _, rfl, rfl, Or.inl ⟨_, rfl⟩⟩

/-- Its server section is stored. -/
theorem not_refused_eq_self_of_server :
    Throws {} (.object [("server", .object [("ip", .string "127.0.0.1"), ("port", .int 8080),
        ("concurrency", .int 2)])])
      ∧ ({} : GameConfig).loadConfig (some (.object [("server", .object [("ip",
        .string "127.0.0.1"), ("port", .int 8080), ("concurrency", .int 2)])])) ≠ some {} :=
  ⟨⟨_, _, rfl, rfl, Or.inl ⟨_, rfl⟩⟩, by decide⟩

end MultiplayerServer
