import Mathlib.Data.List.TakeWhile
import MultiplayerServer.Config.Sections
import MultiplayerServer.Log.SpdlogLogger

/-!
# Log/LoggerSettings — a logger's settings, from the document to the logger

`load_single_logger_config` writes the map that `read_config` reads; the two have the keys and the
types of the entries in common, and nothing else.

* `settings_survive` — a logger takes from the map what the document says of it.
-/

namespace MultiplayerServer

open Machinery GameConfig

namespace GameConfig

variable (logger : Json)

/-! ## What a document says of a logger -/

/-- A flag, where it is given as one, -/
def boolMember (key : String) : Option Bool := (logger.findMember key).bind Json.getBool

/-- …a string, with all that is in it, -/
def stringMember (key : String) : Option String :=
  match logger.findMember key with
  | some (.string s) => some s
  | _ => none

/-- …and a size, which is an `int`. -/
def sizeMember (key : String) : Option ℕ :=
  match logger.findMember key with
  | some (.int n) => if -0x80000000 ≤ n ∧ n ≤ 0x7fffffff then some n.toNat else none
  | _ => none

/-- The settings of a logger, in the order they are read. -/
def settings : List (String × LoggerValue) :=
  entriesOf (fun key => (boolMember logger key).map .bool) boolKeys
    ++ entriesOf (fun key => (stringMember logger key).map .string) ["level", "log_tag_name"]
    ++ entriesOf (fun key => (sizeMember logger key).map .size) sizeKeys
    ++ entriesOf (fun key => (stringMember logger key).map .string)
      ["log_file_name", "log_file_dir", "log_file_extension"]

/-- …and the map they make. -/
def written : LoggerConfig := emplaceMany ∅ (settings logger)

/-- **A logger that can be handed over**: no string of it ends before its end, and no size of it is
negative. -/
structure HandsOver : Prop where
  nulFree : ∀ key ∈ "name" :: stringKeys, ∀ s, logger.findMember key = some (.string s) →
    Char.ofNat 0 ∉ s.toList
  nonneg : ∀ key ∈ sizeKeys, ∀ n, logger.findMember key = some (.int n) →
    -0x80000000 ≤ n → n ≤ 0x7fffffff → 0 ≤ n

variable {logger} {data : LoggerConfig} {key : String}

/-! ## What is written -/

theorem nul_notMem_cString {s : String} : Char.ofNat 0 ∉ (Json.cString s).toList := by
  rw [Json.cString, String.toList_ofList]
  intro hmem
  have hne := List.mem_takeWhile_imp hmem
  exact of_decide_eq_true hne rfl

/-- A string is handed out whole exactly when there is no NUL in it. -/
theorem cString_eq_self_iff {s : String} : Json.cString s = s ↔ Char.ofNat 0 ∉ s.toList := by
  constructor
  · intro h
    exact h ▸ nul_notMem_cString
  · intro h
    have htake : s.toList.takeWhile (· ≠ Char.ofNat 0) = s.toList :=
      List.takeWhile_eq_self_iff.mpr fun c hc => decide_eq_true (ne_of_mem_of_not_mem hc h)
    rw [Json.cString, htake, String.ofList_toList]

theorem emplaceBool_eq (h : logger.isObject) : emplaceBool logger data key
    = some (((boolMember logger key).map .bool).elim data (data.insertIfNew key)) := by
  rw [boolMember]
  refine (Json.ifMemberOf_eq h).trans ?_
  rcases logger.findMember key with _ | (_ | _ | _ | _ | _ | _ | _) <;> rfl

theorem emplaceString_eq (h : logger.isObject)
    (hnul : ∀ s, logger.findMember key = some (.string s) → Char.ofNat 0 ∉ s.toList) :
    emplaceString logger data key
      = some (((stringMember logger key).map .string).elim data (data.insertIfNew key)) := by
  rw [stringMember]
  refine (Json.ifMemberOf_eq h).trans ?_
  rcases hmember : logger.findMember key with _ | (_ | _ | _ | _ | s | _ | _)
  case some.string =>
    exact congrArg (fun s => some (data.insertIfNew key (.string s)))
      (cString_eq_self_iff.mpr (hnul s hmember))
  all_goals rfl

theorem emplaceSize_eq (h : logger.isObject)
    (hnonneg : ∀ n, logger.findMember key = some (.int n) →
      -0x80000000 ≤ n → n ≤ 0x7fffffff → 0 ≤ n) :
    emplaceSize logger data key
      = some (((sizeMember logger key).map .size).elim data (data.insertIfNew key)) := by
  rw [sizeMember]
  refine (Json.ifMemberOf_eq h).trans ?_
  rcases hmember : logger.findMember key with _ | (_ | _ | n | _ | _ | _ | _)
  case some.int =>
    by_cases hint : -0x80000000 ≤ n ∧ n ≤ 0x7fffffff
    · have hn : 0 ≤ n := hnonneg n hmember hint.1 hint.2
      have huint : (Json.int n).isUint := decide_eq_true ⟨hn, by omega⟩
      simp [Option.filter, Json.isInt, hint, Json.getUint, huint]
    · simp [Option.filter, Json.isInt, hint]
  all_goals rfl

/-- **The loops over a logger's members**, each of which emplaces what it is given. -/
theorem loops_eq {ofBool ofString ofSize : LoggerConfig → String → Option LoggerConfig}
    {bools strings sizes : String → Option LoggerValue} {first last : List String}
    (hbool : ∀ key ∈ boolKeys, ∀ data,
      ofBool data key = some ((bools key).elim data (data.insertIfNew key)))
    (hstring : ∀ key ∈ stringKeys, ∀ data,
      ofString data key = some ((strings key).elim data (data.insertIfNew key)))
    (hsize : ∀ key ∈ sizeKeys, ∀ data,
      ofSize data key = some ((sizes key).elim data (data.insertIfNew key)))
    (hfirst : ∀ key ∈ first, key ∈ stringKeys) (hlast : ∀ key ∈ last, key ∈ stringKeys) :
    (do
      let data ← boolKeys.foldlM ofBool ∅
      let data ← first.foldlM ofString data
      let data ← sizeKeys.foldlM ofSize data
      last.foldlM ofString data)
        = some (emplaceMany ∅ (entriesOf bools boolKeys ++ entriesOf strings first
          ++ entriesOf sizes sizeKeys ++ entriesOf strings last)) := by
  rw [emplaceMany_append, emplaceMany_append, emplaceMany_append, foldlM_emplace hbool,
    Option.bind_eq_bind, Option.bind_some,
    foldlM_emplace fun key hkey => hstring key (hfirst key hkey), Option.bind_some,
    foldlM_emplace hsize, Option.bind_some]
  exact foldlM_emplace fun key hkey => hstring key (hlast key hkey)

/-- **The map that is written** has the settings in it. -/
theorem loggerData_eq (h : logger.isObject) (hhands : HandsOver logger) :
    loggerData logger = some (written logger) := by
  refine loops_eq (fun key _ data => emplaceBool_eq h) (fun key hkey data => ?_)
    (fun key hkey data => emplaceSize_eq h (hhands.nonneg key hkey)) (by decide) (by decide)
  exact emplaceString_eq h (hhands.nulFree key (List.mem_cons_of_mem _ hkey))

/-- **A setting is found under its key**: a flag, -/
theorem lookup_settings_bool (hkey : key ∈ boolKeys) :
    (settings logger).lookup key = (boolMember logger key).map .bool := by
  revert key
  simp [settings, List.lookup_append, lookup_entriesOf, boolKeys, sizeKeys]

/-- …a string, -/
theorem lookup_settings_string (hkey : key ∈ stringKeys) :
    (settings logger).lookup key = (stringMember logger key).map .string := by
  revert key
  simp [settings, List.lookup_append, lookup_entriesOf, boolKeys, stringKeys, sizeKeys]

/-- …and a size. -/
theorem lookup_settings_size (hkey : key ∈ sizeKeys) :
    (settings logger).lookup key = (sizeMember logger key).map .size := by
  revert key
  simp [settings, List.lookup_append, lookup_entriesOf, boolKeys, sizeKeys]

/-! ## What is read -/

theorem getElem?_written : (written logger)[key]? = (settings logger).lookup key :=
  (getElem?_emplaceMany key).trans (by simp)

/-- **What is written as what it is read as** is read, and of its type. -/
theorem entry_written {α : Type} (get : LoggerValue → Option α) {wrap : α → LoggerValue}
    {given : Option α} (h : (settings logger).lookup key = given.map wrap)
    (hget : ∀ x, get (wrap x) = some x) :
    (∀ value ∈ (written logger)[key]?, (get value).isSome)
      ∧ (written logger)[key]?.bind get = given := by
  rw [getElem?_written, h]
  rcases given with _ | x
  · exact ⟨fun _ hvalue => absurd hvalue (Option.not_mem_none _), rfl⟩
  · refine ⟨fun value hvalue => ?_, hget x⟩
    obtain rfl := Option.mem_some.mp hvalue
    rw [hget x]
    rfl

theorem wellTyped_written : WellTyped (written logger) where
  bools _ h := (entry_written LoggerValue.asBool (lookup_settings_bool h) fun _ => rfl).1
  strings _ h := (entry_written LoggerValue.asString (lookup_settings_string h) fun _ => rfl).1
  sizes _ h := (entry_written LoggerValue.asSize (lookup_settings_size h) fun _ => rfl).1

/-- **What is written is what the document says**: for a flag, -/
theorem boolEntry_written (hkey : key ∈ boolKeys) :
    boolEntry (written logger) key = boolMember logger key :=
  (entry_written LoggerValue.asBool (lookup_settings_bool hkey) fun _ => rfl).2

/-- …as a string, -/
theorem stringEntry_written (hkey : key ∈ stringKeys) :
    stringEntry (written logger) key = stringMember logger key :=
  (entry_written LoggerValue.asString (lookup_settings_string hkey) fun _ => rfl).2

/-- …and for a size. -/
theorem sizeEntry_written (hkey : key ∈ sizeKeys) :
    sizeEntry (written logger) key = sizeMember logger key :=
  (entry_written LoggerValue.asSize (lookup_settings_size hkey) fun _ => rfl).2

/-- A logger that has a name is stored under it. -/
theorem loadSingleLoggerConfig_eq_written {g : GameConfig} {name : String}
    (hname : logger.findMember "name" = some (.string name)) (hne : name ≠ "")
    (hhands : HandsOver logger) : g.loadSingleLoggerConfig logger
      = some ⟨g.config.insert (logConfigStr ++ name) (.logger (written logger))⟩ := by
  have hobject : logger.isObject := by
    by_contra h
    rw [Json.findMember_of_not h] at hname
    exact nomatch hname
  have hfilter : (some (Json.string name)).filter Json.isString = some (.string name) := rfl
  have hgiven : Json.getString (.string name) = some name :=
    congrArg some (cString_eq_self_iff.mpr (hhands.nulFree "name" (by decide) name hname))
  rw [loadSingleLoggerConfig, if_pos hobject]
  refine (Json.ifMemberOf_eq hobject).trans ?_
  rw [hname, hfilter, Option.elim_some, hgiven, Option.bind_eq_bind, Option.bind_some, if_neg hne,
    loggerData_eq hobject hhands]
  rfl

end GameConfig

/-- **What a logger has taken is what the document says of it**, and where that is nothing of the
type asked for, what the logger had before; it has a file exactly when it is handed the name of
one. -/
structure Survives (logger : Json) (data : LoggerConfig) (l l' : SpdlogLoggerImp) : Prop where
  time : l'.needLogTime = (boolMember logger "log_time").getD l.needLogTime
  thread : l'.needLogThread = (boolMember logger "log_thread").getD l.needLogThread
  levelFlag : l'.needLogLevel = (boolMember logger "log_level").getD l.needLogLevel
  source : l'.needLogSource = (boolMember logger "log_source").getD l.needLogSource
  line : l'.needLogLine = (boolMember logger "log_line").getD l.needLogLine
  funcname : l'.needLogFuncname = (boolMember logger "log_funcname").getD l.needLogFuncname
  tag : l'.tagName = (stringMember logger "log_tag_name").getD l.tagName
  size : l'.logFileSize = (sizeMember logger "log_file_max_size").getD l.logFileSize
  count : l'.logFileCnt = (sizeMember logger "log_file_max_number").getD l.logFileCnt
  level : l'.level = ((stringMember logger "level").bind (List.lookup · levelMap)).getD l.level
  fileName : data["log_file_name"]? = (stringMember logger "log_file_name").map .string
  path : l'.filePath = "" ↔ data["log_file_name"]? = none
    ∨ data["log_file_name"]? = some (.string "")

theorem survives_configured {logger : Json} {l : SpdlogLoggerImp} :
    Survives logger (written logger) l (l.configured (written logger)) where
  time := congrArg (Option.getD · _) (boolEntry_written (by decide))
  thread := congrArg (Option.getD · _) (boolEntry_written (by decide))
  levelFlag := congrArg (Option.getD · _) (boolEntry_written (by decide))
  source := congrArg (Option.getD · _) (boolEntry_written (by decide))
  line := congrArg (Option.getD · _) (boolEntry_written (by decide))
  funcname := congrArg (Option.getD · _) (boolEntry_written (by decide))
  tag := congrArg (Option.getD · _) (stringEntry_written (by decide))
  size := congrArg (Option.getD · _) (sizeEntry_written (by decide))
  count := congrArg (Option.getD · _) (sizeEntry_written (by decide))
  level := congrArg (fun name => (Option.bind name (List.lookup · levelMap)).getD l.level)
    (stringEntry_written (by decide))
  fileName := getElem?_written.trans (lookup_settings_string (by decide))
  path := by
    rw [SpdlogLoggerImp.filePath_configured, stringEntry_written (by decide), getElem?_written,
      lookup_settings_string (by decide)]
    rcases stringMember logger "log_file_name" with _ | s <;> simp

/-- **Logger settings survive the hand-over**: the map that is stored for a logger is taken by any
logger it is given to. -/
theorem settings_survive (g : GameConfig) (logger : Json) (name : String)
    (hname : logger.findMember "name" = some (.string name)) (hne : name ≠ "")
    (hhands : HandsOver logger) :
    ∃ data, g.loadSingleLoggerConfig logger
        = some ⟨g.config.insert (logConfigStr ++ name) (.logger data)⟩
      ∧ ∀ l : SpdlogLoggerImp, l.config = some data →
        ∃ l', l.readConfig = some (true, l') ∧ Survives logger data l l' :=
  ⟨written logger, loadSingleLoggerConfig_eq_written hname hne hhands, fun l h =>
    ⟨l.configured (written logger), SpdlogLoggerImp.readConfig_eq h wellTyped_written,
      survives_configured⟩⟩

/-- A logger with a line flag, a level, a size and a file, and a thread flag that is none. -/
def commonLogger : Json :=
  .object [("name", .string "common"), ("log_line", .bool true), ("log_thread", .int 1),
    ("level", .string "warn"), ("log_file_max_size", .int 1048576),
    ("log_file_name", .string "major")]

theorem handsOver_commonLogger : HandsOver commonLogger := by
  constructor
  · simp [commonLogger, Json.findMember, stringKeys]
  · simp [commonLogger, Json.findMember, sizeKeys]

theorem settings_survive_common :
    ∃ data, GameConfig.loadSingleLoggerConfig {} commonLogger
        = some ⟨(∅ : Std.ExtTreeMap String ConfigValue).insert "loggercommon" (.logger data)⟩
      ∧ ∀ l : SpdlogLoggerImp, l.config = some data →
        ∃ l', l.readConfig = some (true, l') ∧ l'.needLogLine = true
          ∧ l'.needLogThread = l.needLogThread ∧ l'.level = .warn ∧ l'.logFileSize = 1048576
          ∧ l'.filePath ≠ "" := by
  obtain ⟨data, hload, hread⟩ :=
    settings_survive {} commonLogger "common" rfl (by decide) handsOver_commonLogger
  refine ⟨data, hload, fun l h => ?_⟩
  obtain ⟨l', hl', hsurvives⟩ := hread l h
  exact ⟨l', hl', hsurvives.line, hsurvives.thread, hsurvives.level, hsurvives.size,
    fun hpath => absurd (hsurvives.fileName ▸ hsurvives.path.mp hpath) (by decide)⟩

end MultiplayerServer
