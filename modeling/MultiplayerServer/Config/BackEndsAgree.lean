import Mathlib.Data.List.Find
import MultiplayerServer.Config.BackEnds
import MultiplayerServer.Config.Reloading

/-!
# Config/BackEndsAgree — where either build stores the same

What is found of a document once it is stored as either build reads it, and when that is the same.

* `backEndsAgree_iff` — the two builds store the same of a document exactly when no string in it
  that counts has a NUL, and no size that counts is greater than an `int`.
-/

namespace MultiplayerServer

open Machinery GameConfig

/-! ## What is found of a document that is stored -/

namespace Reading

variable {r : Reading} {doc logger : Document} {g : GameConfig} {name : String}

/-- A logger's key is no section's. -/
theorem loggerKey_ne (h : name ∈ sectionKeys) : r.loggerKey logger ≠ some name := by
  intro hkey
  obtain ⟨s, -, rfl⟩ := Option.map_eq_some_iff.mp hkey
  exact logConfigStr_append_notMem_sectionKeys h

theorem loggerKey_eq_some_iff : r.loggerKey logger = some (logConfigStr ++ name)
    ↔ logger.name.map r.string = some name ∧ name ≠ "" := by
  have hkey (n : String) : logConfigStr ++ n = logConfigStr ++ name ↔ n = name :=
    logConfigStr_append_injective.eq_iff
  rw [loggerKey, Option.map_eq_some_iff]
  simp only [hkey, exists_eq_right, Option.filter_eq_some_iff, decide_eq_true_eq]

/-- **The server section is found**, whatever the loggers are called. -/
theorem getServerIpPort_store {server : AsioServerConfig} (h : r.serverConfig doc = some server) :
    (g.store (r.entries doc)).getServerIpPort = some server := by
  have hnone : (doc.loggers.reverse.find? fun logger => r.loggerKey logger == some serverConfigStr)
      = none :=
    List.find?_eq_none.mpr fun logger _ hkey => loggerKey_ne (by decide) (beq_iff_eq.mp hkey)
  rw [entries, store_append, h, getServerIpPort, GameConfig.get, store, loggerEntries,
    getElem?_insertMany_filterMap, hnone]
  simp [ConfigValue.asServer]

/-- **A logger is found** under its key, the last that has it. -/
theorem getElem?_store : (g.store (r.entries doc)).config[logConfigStr ++ name]?
    = ((doc.loggers.reverse.find? fun logger =>
        r.loggerKey logger == some (logConfigStr ++ name)).map fun logger =>
          .logger (r.loggerConfig logger)).or g.config[logConfigStr ++ name]? := by
  have hkey : logConfigStr ++ name ∉ sectionKeys := logConfigStr_append_notMem_sectionKeys
  have hne : serverConfigStr ≠ logConfigStr ++ name := fun h => hkey (h ▸ by decide)
  rw [entries, store_append, store, loggerEntries, getElem?_insertMany_filterMap]
  rcases r.serverConfig doc with _ | server
  · simp
  · simp [Std.ExtTreeMap.getElem?_insert, hne]

/-- Nothing is stored of a logger whose name is empty. -/
theorem getElem?_store_empty : (g.store (r.entries doc)).config[logConfigStr ++ ""]?
    = g.config[logConfigStr ++ ""]? := by
  have hnone : (doc.loggers.reverse.find? fun logger =>
      r.loggerKey logger == some (logConfigStr ++ "")) = none :=
    List.find?_eq_none.mpr fun logger _ hkey =>
      (loggerKey_eq_some_iff.mp (beq_iff_eq.mp hkey)).2 rfl
  rw [getElem?_store, hnone, Option.map_none, Option.none_or]

/-- The names of the loggers are read whole. -/
def ReadsNames (r : Reading) (doc : Document) : Prop :=
  ∀ logger ∈ doc.loggers, logger.name.map r.string = logger.name

theorem readsNames_boost : boost.ReadsNames doc := fun _ _ => Option.map_id'

/-- **Where names are read whole**, the last logger of a name is found. -/
theorem ReadsNames.getElem?_store (h : r.ReadsNames doc) (hne : name ≠ "") :
    (g.store (r.entries doc)).config[logConfigStr ++ name]?
      = ((doc.lastNamed name).map fun logger => .logger (r.loggerConfig logger)).or
        g.config[logConfigStr ++ name]? := by
  have hlast : (doc.loggers.reverse.find? fun logger =>
      r.loggerKey logger == some (logConfigStr ++ name)) = doc.lastNamed name := by
    refine List.find?_congr fun logger hlogger => ?_
    rw [Bool.eq_iff_iff, beq_iff_eq, loggerKey_eq_some_iff, h logger (List.mem_reverse.mp hlogger),
      and_iff_left hne, decide_eq_true_iff]
  rw [Reading.getElem?_store, hlast]

/-- **With RapidJSON no logger is stored** under a name with a NUL in it. -/
theorem nul_notMem_of_rapid
    (h : (({} : GameConfig).store (rapid.entries doc)).config[logConfigStr ++ name]?.isSome) :
    Char.ofNat 0 ∉ name.toList := by
  rw [getElem?_store, Std.ExtTreeMap.getElem?_empty, Option.or_none, Option.isSome_map] at h
  obtain ⟨logger, hlogger⟩ := Option.isSome_iff_exists.mp h
  have hkey := List.find?_some hlogger
  obtain ⟨hname, -⟩ := loggerKey_eq_some_iff.mp (beq_iff_eq.mp hkey)
  obtain ⟨s, -, rfl⟩ := Option.map_eq_some_iff.mp hname
  exact nul_notMem_cString

/-- **With the property tree every logger is stored** that has a name. -/
theorem isSome_boost (hlogger : logger ∈ doc.loggers) (hname : logger.name = some name)
    (hne : name ≠ "") :
    (({} : GameConfig).store (boost.entries doc)).config[logConfigStr ++ name]?.isSome := by
  rw [readsNames_boost.getElem?_store hne, Std.ExtTreeMap.getElem?_empty, Option.or_none,
    Option.isSome_map, Document.lastNamed, List.find?_isSome]
  exact ⟨logger, List.mem_reverse.mpr hlogger, decide_eq_true hname⟩

end Reading

/-! ## Where the two agree -/

namespace Document

/-- A string without a NUL, and an integer that is no greater than an `int`. -/
def ReadAlike : Document → Prop
  | .integer minus n => signed minus n ≤ 0x7fffffff
  | .string s => Char.ofNat 0 ∉ s.toList
  | _ => True

/-- **A document that says the same to both**: in its address, in the names of its loggers, and in
the last logger of each name. -/
structure Plain (doc : Document) : Prop where
  ip : ∀ server ∈ doc.findMember serverConfigStr, ∀ ip ∈ server.findMember "ip", ip.ReadAlike
  names : ∀ logger ∈ doc.loggers, ∀ name ∈ logger.findMember "name", name.ReadAlike
  kept : ∀ name ≠ "", ∀ logger ∈ doc.lastNamed name, ∀ key ∈ memberKeys,
    ∀ value ∈ logger.findMember key, value.ReadAlike

/-- **Both builds store the same** of a document, whatever has been loaded before: the same server
section, and the same map for every logger. -/
def BackEndsAgree (w : ℕ) (doc : Document) : Prop :=
  ∀ g : GameConfig, ∃ g₁ g₂, g.loadRapid doc = some g₁ ∧ g.loadBoost w doc = .ok g₂
    ∧ g₁.getServerIpPort = g₂.getServerIpPort
    ∧ ∀ name, g₁.config[logConfigStr ++ name]? = g₂.config[logConfigStr ++ name]?

variable {w : ℕ} {doc logger : Document} {name : String}

theorem value_eq_iff : Reading.rapid.value doc = Reading.boost.value doc ↔ doc.ReadAlike := by
  cases doc with
  | integer minus n =>
    have hsize : (signed minus n).toNat ≤ 0x7fffffff ↔ signed minus n ≤ 0x7fffffff := by omega
    simp [Reading.value, Reading.rapid, Reading.boost, ReadAlike, hsize]
  | string s => simp [Reading.value, Reading.rapid, Reading.boost, ReadAlike, cString_eq_self_iff]
  | _ => exact iff_of_true rfl trivial

/-- **One logger** is stored alike where its members are read alike. -/
theorem loggerConfig_eq_iff :
    Reading.rapid.loggerConfig logger = Reading.boost.loggerConfig logger
      ↔ ∀ key ∈ memberKeys, ∀ value ∈ logger.findMember key, value.ReadAlike := by
  refine (emplaceMany_entriesOf_eq_iff fun _ => Iff.rfl).trans (forall₂_congr fun key _ => ?_)
  rcases logger.findMember key with _ | value
  · simp
  · simp [value_eq_iff]

/-- A logger that is named is one of the loggers. -/
theorem mem_loggers_of_lastNamed (h : doc.lastNamed name = some logger) : logger ∈ doc.loggers :=
  List.mem_reverse.mp (List.mem_of_find?_eq_some h)

/-- **The server section** is given, and is read alike where its address is. -/
theorem WellTyped.serverConfig (h : doc.WellTyped w) : ∃ (address : String) (port concurrency : ℤ),
    (∀ r : Reading, r.serverConfig doc = some ⟨r.string address, port, concurrency⟩)
      ∧ ((∀ server ∈ doc.findMember serverConfigStr, ∀ ip ∈ server.findMember "ip", ip.ReadAlike)
        ↔ Reading.rapid.string address = Reading.boost.string address) := by
  obtain ⟨server, hserver, htyped⟩ := h.server
  obtain ⟨s, hip⟩ := htyped.ip
  obtain ⟨minus, n, hport, -⟩ := htyped.port
  obtain ⟨minus', n', hconcurrency, -⟩ := htyped.concurrency
  refine ⟨s, signed minus n, signed minus' n',
    fun r => Reading.serverConfig_eq hserver hip hport hconcurrency, ?_⟩
  simp [hserver, hip, ReadAlike, Reading.rapid, Reading.boost, cString_eq_self_iff]

/-- A name is read alike where it is read whole. -/
theorem TypedLogger.name_iff (h : logger.TypedLogger w) :
    (∀ name ∈ logger.findMember "name", name.ReadAlike)
      ↔ logger.name.map Reading.rapid.string = logger.name := by
  rw [Document.name]
  rcases hmember : logger.findMember "name" with _ | value
  · simp
  · obtain ⟨s, rfl⟩ := h.name value hmember
    simp [asString, ReadAlike, Reading.rapid, cString_eq_self_iff]

theorem WellTyped.readsNames_iff (h : doc.WellTyped w) : Reading.rapid.ReadsNames doc
    ↔ ∀ logger ∈ doc.loggers, ∀ name ∈ logger.findMember "name", name.ReadAlike :=
  forall₂_congr fun _ hlogger => (h.typedLogger hlogger).name_iff.symm

/-- **Names are read whole** where the same loggers are stored. -/
theorem WellTyped.readsNames (h : doc.WellTyped w)
    (hmaps : ∀ name,
      (({} : GameConfig).store (Reading.rapid.entries doc)).config[logConfigStr ++ name]?
        = (({} : GameConfig).store (Reading.boost.entries doc)).config[logConfigStr ++ name]?) :
    Reading.rapid.ReadsNames doc := by
  refine h.readsNames_iff.mpr fun logger hlogger value hvalue => ?_
  obtain ⟨s, rfl⟩ := (h.typedLogger hlogger).name value hvalue
  have hname : logger.name = some s := by rw [Document.name, hvalue]; rfl
  by_cases hempty : s = ""
  · exact hempty ▸ List.not_mem_nil
  · have hstored := Reading.isSome_boost hlogger hname hempty
    exact Reading.nul_notMem_of_rapid ((hmaps s).symm ▸ hstored)

/-- **Where names are read whole**, the maps are the same where the last loggers are. -/
theorem maps_eq_iff (h : Reading.rapid.ReadsNames doc) (g : GameConfig) :
    (∀ name, (g.store (Reading.rapid.entries doc)).config[logConfigStr ++ name]?
        = (g.store (Reading.boost.entries doc)).config[logConfigStr ++ name]?)
      ↔ ∀ name ≠ "", ∀ logger ∈ doc.lastNamed name,
        Reading.rapid.loggerConfig logger = Reading.boost.loggerConfig logger := by
  constructor
  · intro hmaps name hne logger hlogger
    have hmap := hmaps name
    rw [h.getElem?_store hne, Reading.readsNames_boost.getElem?_store hne, hlogger] at hmap
    simpa using hmap
  · intro hlast name
    by_cases hempty : name = ""
    · rw [hempty, Reading.getElem?_store_empty, Reading.getElem?_store_empty]
    rw [h.getElem?_store hempty, Reading.readsNames_boost.getElem?_store hempty]
    rcases hlogger : doc.lastNamed name with _ | logger
    · rfl
    · rw [Option.map_some, Option.map_some, hlast name hempty logger hlogger]

end Document

/-- **The two back ends agree on a document** of the types that are expected exactly when it says
the same to both: no NUL in its address, or in the name of a logger, and in the last logger of each
name no NUL and no size that is greater than an `int`. -/
theorem backEndsAgree_iff {w : ℕ} {doc : Document} (h : doc.WellTyped w) :
    doc.BackEndsAgree w ↔ doc.Plain := by
  obtain ⟨address, port, concurrency, hserver, hip⟩ := h.serverConfig
  constructor
  · intro hagree
    obtain ⟨g₁, g₂, hrapid, hboost, hsection, hmaps⟩ := hagree {}
    obtain rfl := Option.some.inj ((loadRapid_eq {} h).symm.trans hrapid)
    obtain rfl := Except.ok.inj ((loadBoost_eq {} h).symm.trans hboost)
    have hnames := h.readsNames hmaps
    refine ⟨hip.mpr ?_, h.readsNames_iff.mp hnames, fun name hne logger hlogger => ?_⟩
    · rw [Reading.getServerIpPort_store (hserver _), Reading.getServerIpPort_store (hserver _)]
        at hsection
      exact congrArg AsioServerConfig.ip (Option.some.inj hsection)
    · have hlast := (Document.maps_eq_iff hnames {}).mp hmaps name hne logger hlogger
      exact Document.loggerConfig_eq_iff.mp hlast
  · intro hplain g
    have hnames := h.readsNames_iff.mpr hplain.names
    refine ⟨_, _, loadRapid_eq g h, loadBoost_eq g h, ?_, ?_⟩
    · rw [Reading.getServerIpPort_store (hserver _), Reading.getServerIpPort_store (hserver _),
        hip.mp hplain.ip]
    · refine (Document.maps_eq_iff hnames g).mpr fun name hne logger hlogger => ?_
      exact Document.loggerConfig_eq_iff.mpr (hplain.kept name hne logger hlogger)

/-- A document with one logger, whose files are to be no larger than a size. -/
def sizeDocument (size : ℕ) : Document :=
  .object [("server", .object [("ip", .string "127.0.0.1"), ("port", .integer false 8080),
      ("concurrency", .integer false 4)]),
    ("logger", .array [.object [("name", .string "main"), ("log_line", .bool true),
      ("log_file_max_size", .integer false size)]])]

theorem wellTyped_sizeDocument {w size : ℕ} (h : size < 2 ^ w) :
    (sizeDocument size).WellTyped w where
  server := ⟨_, rfl, ⟨_, rfl⟩, ⟨false, 8080, rfl, by decide⟩, ⟨false, 4, rfl, by decide⟩⟩
  loggers := by
    refine ⟨_, rfl, fun logger hlogger => ?_⟩
    obtain rfl := List.mem_singleton.mp hlogger
    have hlt : (size : ℤ) < 2 ^ w := by exact_mod_cast h
    constructor
    · exact ⟨_, rfl⟩
    · simp [Document.findMember]
    · simp [Document.findMember, boolKeys]
    · simp [Document.findMember, stringKeys]
    · simp [Document.findMember, sizeKeys, signed, hlt]

/-- The greatest size that is an `int`. -/
theorem backEndsAgree_of_intSize : (sizeDocument 0x7fffffff).BackEndsAgree 64 := by
  refine (backEndsAgree_iff (wellTyped_sizeDocument (by decide))).mpr ?_
  constructor
  · simp [sizeDocument, Document.findMember, serverConfigStr, Document.ReadAlike]
  · simp [sizeDocument, Document.loggers, Document.findMember, logConfigStr, Document.elements,
      Document.ReadAlike]
  · intro name hne logger hlogger
    obtain rfl := List.mem_singleton.mp (Document.mem_loggers_of_lastNamed hlogger)
    simp [Document.memberKeys, boolKeys, stringKeys, sizeKeys, Document.findMember,
      Document.ReadAlike, signed]

/-- A size that is an `unsigned`, and no `int`, is not stored with RapidJSON. -/
theorem not_backEndsAgree_of_size : (sizeDocument 3000000000).WellTyped 64
    ∧ ¬ (sizeDocument 3000000000).BackEndsAgree 64 := by
  refine ⟨wellTyped_sizeDocument (by decide), fun h => ?_⟩
  obtain ⟨g₁, g₂, hrapid, hboost, -, hmaps⟩ := h {}
  have hdiffer : (({} : GameConfig).loadRapid (sizeDocument 3000000000)).map
        (·.config["loggermain"]?)
      ≠ (({} : GameConfig).loadBoost 64 (sizeDocument 3000000000)).toOption.map
        (·.config["loggermain"]?) := by
    decide
  rw [hrapid, hboost] at hdiffer
  exact hdiffer (congrArg some (hmaps "main"))

end MultiplayerServer
