import MultiplayerServer.Config.Document
import MultiplayerServer.Log.LoggerSettings

/-!
# Config/BackEnds — one document, loaded by either build

The two builds read a document differently in two places only: a string and a size (`Reading`).  On
a document of the types that are expected, each of them stores what its reading makes of it.

* `GameConfig.loadRapid_eq`, `GameConfig.loadBoost_eq` — the loaders of either build refine its
  reading.
-/

namespace MultiplayerServer

open Machinery GameConfig

/-! ## Documents of the types that are expected -/

namespace Document

variable (w : ℕ) (doc server logger : Document)

/-- The members of a logger that are read beside its name. -/
def memberKeys : List String := boolKeys ++ stringKeys ++ sizeKeys

/-- The name a logger is given. -/
def name : Option String := (logger.findMember "name").bind asString

/-- The loggers. -/
def loggers : List Document := (doc.findMember logConfigStr).elim [] elements

/-- The last logger of a name. -/
def lastNamed (name : String) : Option Document :=
  doc.loggers.reverse.find? fun logger => logger.name = some name

/-- **A server section of the types that are expected.** -/
structure TypedServer : Prop where
  ip : ∃ s, server.findMember "ip" = some (.string s)
  port : ∃ minus n, server.findMember "port" = some (.integer minus n) ∧ IsInt32 (signed minus n)
  concurrency : ∃ minus n, server.findMember "concurrency" = some (.integer minus n)
    ∧ IsInt32 (signed minus n)

/-- **A logger of the types that are expected**, in the members it has. -/
structure TypedLogger : Prop where
  object : ∃ members, logger = .object members
  name : ∀ value ∈ logger.findMember "name", ∃ s, value = .string s
  bools : ∀ key ∈ boolKeys, ∀ value ∈ logger.findMember key, ∃ b, value = .bool b
  strings : ∀ key ∈ stringKeys, ∀ value ∈ logger.findMember key, ∃ s, value = .string s
  sizes : ∀ key ∈ sizeKeys, ∀ value ∈ logger.findMember key,
    ∃ minus n, value = .integer minus n ∧ 0 ≤ signed minus n ∧ signed minus n < 2 ^ w

/-- **A document of the types that are expected**, where a `size_t` has `w` bits: with a server
section, and with loggers. -/
structure WellTyped : Prop where
  server : ∃ server, doc.findMember serverConfigStr = some server ∧ server.TypedServer
  loggers : ∃ elements, doc.findMember logConfigStr = some (.array elements)
    ∧ ∀ logger ∈ elements, logger.TypedLogger w

variable {w doc logger}

theorem loggers_of_findMember {elements : List Document}
    (h : doc.findMember logConfigStr = some (.array elements)) : doc.loggers = elements := by
  rw [loggers, h]
  rfl

theorem WellTyped.typedLogger (h : doc.WellTyped w) (hlogger : logger ∈ doc.loggers) :
    logger.TypedLogger w := by
  obtain ⟨elements, hfind, htyped⟩ := h.loggers
  rw [loggers_of_findMember hfind] at hlogger
  exact htyped logger hlogger

end Document

/-! ## What a back end makes of a document -/

/-- How a back end reads a string, and a size. -/
structure Reading where
  string : String → String
  size : ℕ → Option ℕ

namespace Reading

/-- With RapidJSON a string ends at its first NUL, and a size that is no `int` is none. -/
def rapid : Reading := ⟨Json.cString, fun n => if n ≤ 0x7fffffff then some n else none⟩

/-- With the property tree a string is all of it, and every size is one. -/
def boost : Reading := ⟨id, some⟩

variable (r : Reading) (doc logger : Document)

/-- What is stored of a member of a logger. -/
def value : Document → Option LoggerValue
  | .bool b => some (.bool b)
  | .integer minus n => (r.size (signed minus n).toNat).map .size
  | .string s => some (.string (r.string s))
  | _ => none

/-- What is stored of a logger, -/
def loggerConfig : LoggerConfig :=
  emplaceMany ∅ (entriesOf (fun key => (logger.findMember key).bind r.value)
    Document.memberKeys)

/-- …and its key, where it has a name. -/
def loggerKey : Option String :=
  ((logger.name.map r.string).filter (· ≠ "")).map (logConfigStr ++ ·)

/-- What is stored of the server section. -/
def serverConfig : Option AsioServerConfig := do
  let server ← doc.findMember serverConfigStr
  let ip ← (← server.findMember "ip").asString
  let port ← (← server.findMember "port").asInteger
  let concurrency ← (← server.findMember "concurrency").asInteger
  return ⟨r.string ip, port, concurrency⟩

/-- The entries of the loggers. -/
def loggerEntries (loggers : List Document) : List (String × ConfigValue) :=
  loggers.filterMap fun logger => (r.loggerKey logger).map (·, .logger (r.loggerConfig logger))

/-- **What a back end makes of a document**, in the order it is stored. -/
def entries : List (String × ConfigValue) :=
  (r.serverConfig doc).toList.map (fun server => (serverConfigStr, .server server))
    ++ r.loggerEntries doc.loggers

end Reading

/-! ## Each back end stores what it makes of a document -/

namespace Reading

variable {w : ℕ} {r : Reading} {doc logger : Document} {g : GameConfig} {key name : String}

/-- **The loops over a logger's members** make the same map in either order of the strings. -/
theorem loggerLoops_eq {f : String → Option LoggerValue}
    {ofBool ofString ofSize : LoggerConfig → String → Option LoggerConfig}
    {first last : List String}
    (hbool : ∀ key ∈ boolKeys, ∀ data,
      ofBool data key = some ((f key).elim data (data.insertIfNew key)))
    (hstring : ∀ key ∈ stringKeys, ∀ data,
      ofString data key = some ((f key).elim data (data.insertIfNew key)))
    (hsize : ∀ key ∈ sizeKeys, ∀ data,
      ofSize data key = some ((f key).elim data (data.insertIfNew key)))
    (hkeys : (first ++ last).Perm stringKeys) :
    (do
      let data ← boolKeys.foldlM ofBool ∅
      let data ← first.foldlM ofString data
      let data ← sizeKeys.foldlM ofSize data
      last.foldlM ofString data)
        = some (emplaceMany ∅ (entriesOf f Document.memberKeys)) := by
  have hmem (key : String) :
      key ∈ Document.memberKeys ↔ key ∈ boolKeys ++ first ++ sizeKeys ++ last := by
    simp only [Document.memberKeys, List.mem_append, ← hkeys.mem_iff]
    tauto
  rw [(emplaceMany_entriesOf_eq_iff hmem).mpr fun _ _ => rfl, entriesOf_append, entriesOf_append,
    entriesOf_append]
  exact loops_eq hbool hstring hsize
    (fun key hkey => hkeys.subset (List.mem_append_left last hkey))
    (fun key hkey => hkeys.subset (List.mem_append_right first hkey))

/-- The server section, by its members. -/
theorem serverConfig_eq {server : Document} {s : String} {minus minus' : Bool} {n n' : ℕ}
    (hserver : doc.findMember serverConfigStr = some server)
    (hip : server.findMember "ip" = some (.string s))
    (hport : server.findMember "port" = some (.integer minus n))
    (hconcurrency : server.findMember "concurrency" = some (.integer minus' n')) :
    r.serverConfig doc = some ⟨r.string s, signed minus n, signed minus' n'⟩ := by
  simp only [serverConfig, hserver, hip, hport, hconcurrency, Option.bind_eq_bind,
    Option.bind_some, Document.asString, Document.asInteger, Option.pure_def]

/-- Loggers that are each stored, one after the other. -/
theorem foldlM_store {m : Type → Type} [Monad m] [LawfulMonad m]
    {step : GameConfig → Document → m GameConfig}
    {entry : Document → Option (String × ConfigValue)} {loggers : List Document}
    (hstep : ∀ logger ∈ loggers, ∀ g, step g logger = pure (g.store (entry logger).toList)) :
    loggers.foldlM step g = pure (g.store (loggers.filterMap entry)) := by
  induction loggers generalizing g with
  | nil => rw [List.foldlM_nil, List.filterMap_nil, store_nil]
  | cons logger loggers ih =>
    obtain ⟨hlogger, hloggers⟩ := List.forall_mem_cons.mp hstep
    rw [List.foldlM_cons, hlogger g, pure_bind, ih hloggers, ← store_append]
    rcases hentry : entry logger with _ | p
    · simp [hentry]
    · simp [hentry]

/-! ### RapidJSON -/

theorem emplace_rapid {kind : Json → Bool} {f : Json → Option LoggerConfig} {data : LoggerConfig}
    (hobject : (rapidJson.parse logger).isObject)
    (h : ∀ value ∈ logger.findMember key,
      ((some (rapidJson.parse value)).filter kind).elim (some data) f
        = some ((rapid.value value).elim data (data.insertIfNew key))) :
    (((rapidJson.parse logger).hasMemberOf key kind).bind fun has =>
      if has = true then ((rapidJson.parse logger).member key).bind f else some data)
      = some (((logger.findMember key).bind rapid.value).elim data (data.insertIfNew key)) := by
  rw [Json.ifMemberOf_eq hobject, findMember_parse]
  rcases hmember : logger.findMember key with _ | value
  · rfl
  · exact h value hmember

/-- A size is asked whether it is an `int`, and is then an `unsigned`. -/
theorem size_rapid {minus : Bool} {n : ℕ} (h : 0 ≤ signed minus n) (data : LoggerConfig)
    (key : String) :
    ((some (rapidJson.parse (.integer minus n))).filter Json.isInt).elim (some data)
        (fun size => do return data.insertIfNew key (.size (← size.getUint)))
      = some ((rapid.value (.integer minus n)).elim data (data.insertIfNew key)) := by
  rw [rapidJson_integer, Option.filter_some, value, rapid]
  by_cases hint : signed minus n ≤ 0x7fffffff
  · have hisInt : (Json.int (signed minus n)).isInt := decide_eq_true ⟨by omega, hint⟩
    have huint : (Json.int (signed minus n)).isUint := decide_eq_true ⟨h, by omega⟩
    have hsize : (signed minus n).toNat ≤ 0x7fffffff := by omega
    simp [hisInt, hsize, Json.getUint, huint]
  · have hisInt : ¬ (Json.int (signed minus n)).isInt := fun h => hint (of_decide_eq_true h).2
    have hsize : ¬ (signed minus n).toNat ≤ 0x7fffffff := by omega
    simp [hisInt, hsize]

theorem loggerData_rapid (h : logger.TypedLogger w) :
    loggerData (rapidJson.parse logger) = some (rapid.loggerConfig logger) := by
  obtain ⟨members, rfl⟩ := h.object
  refine loggerLoops_eq (fun key hkey data => emplace_rapid rfl fun value hvalue => ?_)
    (fun key hkey data => emplace_rapid rfl fun value hvalue => ?_)
    (fun key hkey data => emplace_rapid rfl fun value hvalue => ?_) (by decide)
  · obtain ⟨b, rfl⟩ := h.bools key hkey value hvalue
    rfl
  · obtain ⟨s, rfl⟩ := h.strings key hkey value hvalue
    rfl
  · obtain ⟨minus, n, rfl, hnonneg, -⟩ := h.sizes key hkey value hvalue
    exact size_rapid hnonneg data key

theorem loadSingleLoggerConfig_rapid (h : logger.TypedLogger w) (g : GameConfig) :
    g.loadSingleLoggerConfig (rapidJson.parse logger)
      = some (g.store ((rapid.loggerKey logger).map
        (·, .logger (rapid.loggerConfig logger))).toList) := by
  have hobject : (rapidJson.parse logger).isObject := by
    obtain ⟨members, rfl⟩ := h.object
    rfl
  rw [loadSingleLoggerConfig, if_pos hobject, loggerKey, Document.name]
  refine (Json.ifMemberOf_eq hobject).trans ?_
  rw [findMember_parse]
  rcases hmember : logger.findMember "name" with _ | value
  · exact congrArg some store_nil.symm
  obtain ⟨s, rfl⟩ := h.name value hmember
  have hkind : (some (Json.string s)).filter Json.isString = some (.string s) := rfl
  have hgiven : (Json.string s).getString = some (rapid.string s) := rfl
  rw [Option.map_some, rapidJson_string, hkind, Option.elim_some, hgiven, Option.bind_eq_bind,
    Option.bind_some, Option.bind_some, Document.asString, Option.map_some, Option.filter_some,
    loggerData_rapid h]
  by_cases hempty : rapid.string s = ""
  · simp [hempty]
  · simp [hempty]

theorem loadServerConfig_rapid (h : doc.WellTyped w) (g : GameConfig) :
    g.loadServerConfig (rapidJson.parse doc)
      = some (g.store ((rapid.serverConfig doc).toList.map fun server =>
        (serverConfigStr, .server server))) := by
  obtain ⟨server, hserver, htyped⟩ := h.server
  obtain ⟨s, hip⟩ := htyped.ip
  obtain ⟨minus, n, hport, hint⟩ := htyped.port
  obtain ⟨minus', n', hconcurrency, hint'⟩ := htyped.concurrency
  have hobject := isObject_of_findMember hip
  have hstring : (some (Json.string s)).filter Json.isString = some (.string s) := rfl
  have hnumber : (some (Json.int (signed minus n))).filter Json.isNumber
      = some (.int (signed minus n)) := rfl
  have hgetInt : (Json.int (signed minus n)).getInt = some (signed minus n) :=
    if_pos (decide_eq_true hint)
  have hgetInt' : (Json.int (signed minus' n')).getInt = some (signed minus' n') :=
    if_pos (decide_eq_true hint')
  rw [serverConfig_eq hserver hip hport hconcurrency, Option.toList_some, List.map_singleton,
    store_singleton]
  refine (Json.ifMember_eq (isObject_of_findMember hserver)).trans ?_
  rw [findMember_of_findMember hserver, Option.elim_some, if_pos hobject]
  refine (Json.ifMemberOf_eq hobject).trans ?_
  rw [findMember_of_findMember hip, rapidJson_string, hstring]
  refine (Json.ifMemberOf_eq hobject).trans ?_
  rw [findMember_of_findMember hport, rapidJson_integer, hnumber, Option.elim_some, hgetInt]
  refine (Json.ifMember_eq hobject).trans ?_
  rw [findMember_of_findMember hconcurrency, rapidJson_integer, Option.elim_some, hgetInt']
  rfl

theorem loadLoggerConfig_rapid (h : doc.WellTyped w) (g : GameConfig) :
    g.loadLoggerConfig (rapidJson.parse doc)
      = some (g.store (rapid.loggerEntries doc.loggers)) := by
  obtain ⟨elements, hfind, htyped⟩ := h.loggers
  refine (Json.ifMember_eq (isObject_of_findMember hfind)).trans ?_
  rw [findMember_parse, hfind, Option.map_some, Option.elim_some, elements_parse,
    Option.bind_eq_bind, Option.bind_some, List.foldlM_map,
    Document.loggers_of_findMember hfind]
  exact foldlM_store fun logger hlogger g => loadSingleLoggerConfig_rapid (htyped logger hlogger) g

/-! ### The property tree -/

theorem emplace_boost {read : String → Option LoggerValue}
    (hobject : ∃ members, logger = .object members)
    (h : ∀ value ∈ logger.findMember key, ∃ stored, boost.value value = some stored
      ∧ read (propertyTree.parse value).data = some stored) (data : LoggerConfig) :
    Boost.emplace read (propertyTree.parse logger) data key
      = some (((logger.findMember key).bind boost.value).elim data (data.insertIfNew key)) := by
  obtain ⟨members, rfl⟩ := hobject
  rcases hmember : (Document.object members).findMember key with _ | value
  · exact Boost.emplace_of_not (find_parse.trans (congrArg _ hmember))
  · obtain ⟨stored, hstored, hread⟩ := h value hmember
    rw [Option.bind_some, hstored]
    exact Boost.emplace_of_find (find_of_findMember hmember) hread

theorem loggerData_boost (h : logger.TypedLogger w) :
    Boost.loggerData w (propertyTree.parse logger) = some (boost.loggerConfig logger) := by
  refine loggerLoops_eq (fun key hkey => emplace_boost h.object fun value hvalue => ?_)
    (fun key hkey => emplace_boost h.object fun value hvalue => ?_)
    (fun key hkey => emplace_boost h.object fun value hvalue => ?_) (by decide)
  · obtain ⟨b, rfl⟩ := h.bools key hkey value hvalue
    exact ⟨.bool b, rfl, congrArg (Option.map _) (asBool_data b)⟩
  · obtain ⟨s, rfl⟩ := h.strings key hkey value hvalue
    exact ⟨.string s, rfl, rfl⟩
  · obtain ⟨minus, n, rfl, hnonneg, hlt⟩ := h.sizes key hkey value hvalue
    exact ⟨.size (signed minus n).toNat, rfl, congrArg (Option.map _) (asSize_data hnonneg hlt)⟩

theorem loadSingleLoggerConfig_boost (h : logger.TypedLogger w) (g : GameConfig) :
    Boost.loadSingleLoggerConfig w g (propertyTree.parse logger)
      = .ok (g.store ((boost.loggerKey logger).map
        (·, .logger (boost.loggerConfig logger))).toList) := by
  have hdata := loggerData_boost h
  obtain ⟨members, rfl⟩ := h.object
  rw [loggerKey, Document.name]
  refine Boost.ifRead_eq.trans ?_
  rw [find_parse]
  rcases hmember : (Document.object members).findMember "name" with _ | value
  · exact congrArg Except.ok store_nil.symm
  obtain ⟨s, rfl⟩ := h.name value hmember
  have hstring : boost.string s = s := rfl
  rw [Option.bind_some, Document.asString, hdata, Option.map_some, Option.map_some, hstring,
    Option.elim_some, Option.filter_some]
  by_cases hempty : s = ""
  · subst hempty
    exact congrArg Except.ok store_nil.symm
  · rw [if_pos (decide_eq_true hempty), Option.map_some, Option.map_some, Option.toList_some,
      store_singleton]
    exact if_neg hempty

theorem loadServerConfig_boost (h : doc.WellTyped w) (g : GameConfig) :
    Boost.loadServerConfig g (propertyTree.parse doc)
      = .ok (g.store ((boost.serverConfig doc).toList.map fun server =>
        (serverConfigStr, .server server))) := by
  obtain ⟨server, hserver, htyped⟩ := h.server
  obtain ⟨s, hip⟩ := htyped.ip
  obtain ⟨minus, n, hport, hint⟩ := htyped.port
  obtain ⟨minus', n', hconcurrency, hint'⟩ := htyped.concurrency
  rw [serverConfig_eq hserver hip hport hconcurrency]
  exact Boost.loadServerConfig_eq (find_of_findMember hserver) (find_of_findMember hip)
    (find_of_findMember hport) (find_of_findMember hconcurrency) rfl (asInt_data hint)
    (asInt_data hint')

theorem loadLoggerConfig_boost (h : doc.WellTyped w) (g : GameConfig) :
    Boost.loadLoggerConfig w g (propertyTree.parse doc)
      = .ok (g.store (boost.loggerEntries doc.loggers)) := by
  obtain ⟨elements, hfind, htyped⟩ := h.loggers
  refine Boost.ifFound_eq.trans ?_
  rw [find_of_findMember hfind, Option.elim_some, children_parse, List.foldlM_map,
    Document.loggers_of_findMember hfind]
  exact foldlM_store fun logger hlogger g => loadSingleLoggerConfig_boost (htyped logger hlogger) g

end Reading

namespace GameConfig

variable {w : ℕ} (g : GameConfig) {doc : Document}

/-- The server section and the loggers, as `load_config` loads them with RapidJSON, -/
def loadRapid (doc : Document) : Option GameConfig := do
  let g ← g.loadServerConfig (rapidJson.parse doc)
  g.loadLoggerConfig (rapidJson.parse doc)

/-- …and with the property tree. -/
def loadBoost (w : ℕ) (doc : Document) : Except GameConfig GameConfig := do
  let g ← Boost.loadServerConfig g (propertyTree.parse doc)
  Boost.loadLoggerConfig w g (propertyTree.parse doc)

theorem loadRapid_eq (h : doc.WellTyped w) :
    g.loadRapid doc = some (g.store (Reading.rapid.entries doc)) := by
  rw [loadRapid, Reading.loadServerConfig_rapid h, Option.bind_eq_bind, Option.bind_some,
    Reading.loadLoggerConfig_rapid h, ← store_append]
  rfl

theorem loadBoost_eq (h : doc.WellTyped w) :
    g.loadBoost w doc = .ok (g.store (Reading.boost.entries doc)) := by
  rw [loadBoost, Reading.loadServerConfig_boost h, Reading.entries, store_append]
  exact Reading.loadLoggerConfig_boost h _

end GameConfig

end MultiplayerServer
