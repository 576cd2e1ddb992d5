import MultiplayerServer.Config.GameConfig
import MultiplayerServer.Machinery.Asserts

/-!
# Log/SpdlogLogger — a logger, and what it takes from its configuration

`SpdlogLoggerImp`, over the `spdlog::logger` it makes.  Of spdlog only what the logger hands it is
kept: a name, a sink, a level to filter at and one to flush at, and a pattern.

* `isSome_readConfig_iff` — `read_config` throws exactly when an entry it asks for is of a type that
  it does not ask for.
-/

namespace MultiplayerServer

open Machinery

/-- `LoggerLevel` -/
inductive LoggerLevel
  | debug
  | info
  | warn
  | error
  | critical
  deriving DecidableEq

/-- `spdlog::level::level_enum` -/
inductive SpdlogLevel
  | trace
  | debug
  | info
  | warn
  | err
  | critical
  | off
  deriving DecidableEq

/-- A sink of spdlog, by what it is made of. -/
inductive SpdlogSink
  | stdout
  | rotatingFile (path : String) (maxSize maxFiles : ℕ) (rotateOnOpen : Bool)
  | basicFile (path : String) (truncate : Bool)
  deriving DecidableEq

/-- `spdlog::logger`, as it is made. -/
structure SpdlogLogger where
  name : String
  sink : SpdlogSink
  level : SpdlogLevel := .info
  flushLevel : SpdlogLevel := .off
  pattern : String := "%+"
  deriving DecidableEq

/-- `SpdlogLoggerImp`, with what it has of `LoggerImp`. -/
structure SpdlogLoggerImp where
  tagName : String := "major"
  level : LoggerLevel := .debug
  filePath : String := ""
  config : Option LoggerConfig := none
  needLogTime : Bool := true
  needLogThread : Bool := true
  needLogLevel : Bool := true
  needLogSource : Bool := false
  needLogLine : Bool := false
  needLogFuncname : Bool := false
  logFileSize : ℕ := 0
  logFileCnt : ℕ := 0
  logger : Option SpdlogLogger := none
  deriving DecidableEq

namespace LoggerValue

/-- `std::get<bool>` -/
def asBool : LoggerValue → Option Bool
  | bool b => some b
  | _ => none

/-- `std::get<std::string>` -/
def asString : LoggerValue → Option String
  | string s => some s
  | _ => none

/-- `std::get<size_t>` -/
def asSize : LoggerValue → Option ℕ
  | size n => some n
  | _ => none

end LoggerValue

/-! ## What is read of a configuration -/

/-- `level_map` of `read_config` -/
def levelMap : List (String × LoggerLevel) :=
  [("debug", .debug), ("info", .info), ("warn", .warn), ("error", .error), ("critical", .critical)]

/-- `level_map` of `set_level`, in which every level is. -/
def spdlogLevel : LoggerLevel → SpdlogLevel
  | .debug => .debug
  | .info => .info
  | .warn => .warn
  | .error => .err
  | .critical => .critical

/-- `config_->find(key)`, and `std::get` of what is found, which throws for another type. -/
def readEntry {α : Type} (config : LoggerConfig) (key : String) (get : LoggerValue → Option α) :
    Option (Option α) := config[key]?.elim (some none) fun value => (get value).map some

namespace SpdlogLoggerImp

variable (opens : SpdlogSink → Bool) (l : SpdlogLoggerImp)

/-- `read_config`; nothing is left of a logger that it throws for. -/
def readConfig : Option (Bool × SpdlogLoggerImp) :=
  match l.config with
  | none => some (false, l)
  | some config => do
    let logTime ← readEntry config "log_time" LoggerValue.asBool
    let logThread ← readEntry config "log_thread" LoggerValue.asBool
    let logLevel ← readEntry config "log_level" LoggerValue.asBool
    let logSource ← readEntry config "log_source" LoggerValue.asBool
    let logLine ← readEntry config "log_line" LoggerValue.asBool
    let logFuncname ← readEntry config "log_funcname" LoggerValue.asBool
    let level ← readEntry config "level" LoggerValue.asString
    let logTagName ← readEntry config "log_tag_name" LoggerValue.asString
    let logFileMaxSize ← readEntry config "log_file_max_size" LoggerValue.asSize
    let logFileMaxNumber ← readEntry config "log_file_max_number" LoggerValue.asSize
    let logFileName ← readEntry config "log_file_name" LoggerValue.asString
    let logFileDir ← readEntry config "log_file_dir" LoggerValue.asString
    let logFileExtension ← readEntry config "log_file_extension" LoggerValue.asString
    return (true, { l with
      needLogTime := logTime.getD l.needLogTime
      needLogThread := logThread.getD l.needLogThread
      needLogLevel := logLevel.getD l.needLogLevel
      needLogSource := logSource.getD l.needLogSource
      needLogLine := logLine.getD l.needLogLine
      needLogFuncname := logFuncname.getD l.needLogFuncname
      level := (level.bind (List.lookup · levelMap)).getD l.level
      tagName := logTagName.getD l.tagName
      logFileSize := logFileMaxSize.getD l.logFileSize
      logFileCnt := logFileMaxNumber.getD l.logFileCnt
      filePath := if logFileName.getD "" = "" then "" else
        logFileDir.getD "" ++ "/" ++ logFileName.getD "" ++ "." ++ logFileExtension.getD "" })

/-- The pattern that `init` puts together. -/
def pattern : String :=
  (if l.needLogTime then "[%Y-%m-%d %H:%M:%S.%e] " else "")
    ++ (if l.tagName = "" then "" else "[%n] ")
    ++ (if l.needLogThread then "[%t] " else "")
    ++ (if l.needLogLevel then "[%l] " else "")
    ++ (if l.needLogSource then "[%s] " else "")
    ++ (if l.needLogFuncname then "[%#] " else "")
    ++ (if l.needLogLine then "[%!] " else "")
    ++ "%v"

/-- The sink that `init` makes. -/
def sink : SpdlogSink :=
  if l.filePath = "" then .stdout
  else if 0 < l.logFileSize then .rotatingFile l.filePath l.logFileSize l.logFileCnt true
  else .basicFile l.filePath false

/-- `set_level` -/
def setLevel (level : LoggerLevel) : SpdlogLoggerImp :=
  { l with
    level
    logger := l.logger.map fun logger =>
      { logger with level := spdlogLevel level, flushLevel := spdlogLevel level } }

/-- `init`, which throws where the file of a sink does not open. -/
def init : Option SpdlogLoggerImp := do
  let (_, l) ← l.readConfig
  if l.sink = .stdout ∨ opens l.sink then
    let l := { l with logger := some { name := l.tagName, sink := l.sink } }
    let l := l.setLevel l.level
    return { l with logger := l.logger.map fun logger => { logger with pattern := l.pattern } }
  else none

/-- The constructor. -/
def construct (tagName logPath : String) (config : Option LoggerConfig) : Option SpdlogLoggerImp :=
  init opens { tagName, filePath := logPath, config }

end SpdlogLoggerImp

/-! ## Configurations of the types that are asked for -/

/-- The entries read as a `bool`, -/
def boolKeys : List String :=
  ["log_time", "log_thread", "log_level", "log_source", "log_line", "log_funcname"]

/-- …as a string, -/
def stringKeys : List String :=
  ["level", "log_tag_name", "log_file_name", "log_file_dir", "log_file_extension"]

/-- …and as a size. -/
def sizeKeys : List String := ["log_file_max_size", "log_file_max_number"]

/-- **The entries are of the types they are read as**, those that are there. -/
structure WellTyped (config : LoggerConfig) : Prop where
  bools : ∀ key ∈ boolKeys, ∀ value ∈ config[key]?, value.asBool.isSome
  strings : ∀ key ∈ stringKeys, ∀ value ∈ config[key]?, value.asString.isSome
  sizes : ∀ key ∈ sizeKeys, ∀ value ∈ config[key]?, value.asSize.isSome

/-- What a configuration says for a flag, -/
def boolEntry (config : LoggerConfig) (key : String) : Option Bool :=
  config[key]?.bind LoggerValue.asBool

/-- …as a string, -/
def stringEntry (config : LoggerConfig) (key : String) : Option String :=
  config[key]?.bind LoggerValue.asString

/-- …and for a size. -/
def sizeEntry (config : LoggerConfig) (key : String) : Option ℕ :=
  config[key]?.bind LoggerValue.asSize

/-- The level that is named. -/
def namedLevel (config : LoggerConfig) : Option LoggerLevel :=
  (stringEntry config "level").bind (List.lookup · levelMap)

variable {config : LoggerConfig} {key : String}

theorem isSome_readEntry {α : Type} {get : LoggerValue → Option α} :
    (readEntry config key get).isSome ↔ ∀ value ∈ config[key]?, (get value).isSome := by
  rw [readEntry]
  rcases config[key]? with _ | value <;> simp

/-- An entry that is of its type is what is read. -/
theorem readEntry_eq {α : Type} {get : LoggerValue → Option α}
    (h : ∀ value ∈ config[key]?, (get value).isSome) :
    readEntry config key get = some (config[key]?.bind get) := by
  rw [readEntry]
  rcases hentry : config[key]? with _ | value
  · rfl
  · obtain ⟨x, hx⟩ := Option.isSome_iff_exists.mp (h value hentry)
    simp [hx]

theorem isSome_readEntry_bind {α β : Type} {get : LoggerValue → Option α}
    {f : Option α → Option β} {p : Prop} (hf : ∀ x, (f x).isSome ↔ p) :
    ((readEntry config key get).bind f).isSome
      ↔ (∀ value ∈ config[key]?, (get value).isSome) ∧ p :=
  (isSome_bind_iff_and hf).trans (and_congr_left' isSome_readEntry)

namespace SpdlogLoggerImp

variable {l : SpdlogLoggerImp}

/-- A logger that has taken a configuration. -/
def configured (config : LoggerConfig) (l : SpdlogLoggerImp) : SpdlogLoggerImp :=
  { l with
    needLogTime := (boolEntry config "log_time").getD l.needLogTime
    needLogThread := (boolEntry config "log_thread").getD l.needLogThread
    needLogLevel := (boolEntry config "log_level").getD l.needLogLevel
    needLogSource := (boolEntry config "log_source").getD l.needLogSource
    needLogLine := (boolEntry config "log_line").getD l.needLogLine
    needLogFuncname := (boolEntry config "log_funcname").getD l.needLogFuncname
    level := (namedLevel config).getD l.level
    tagName := (stringEntry config "log_tag_name").getD l.tagName
    logFileSize := (sizeEntry config "log_file_max_size").getD l.logFileSize
    logFileCnt := (sizeEntry config "log_file_max_number").getD l.logFileCnt
    filePath := if (stringEntry config "log_file_name").getD "" = "" then "" else
      (stringEntry config "log_file_dir").getD "" ++ "/"
        ++ (stringEntry config "log_file_name").getD "" ++ "."
        ++ (stringEntry config "log_file_extension").getD "" }

/-- **There is a file exactly when a name is given for one**, whatever its directory. -/
theorem filePath_configured : (l.configured config).filePath = ""
    ↔ (stringEntry config "log_file_name").getD "" = "" := by
  rw [configured]
  split_ifs with hname
  · exact iff_of_true rfl hname
  · refine iff_of_false (fun h => ?_) hname
    have hlength := congrArg String.length h
    simp at hlength

/-- **A configuration of the types that are asked for** is taken. -/
theorem readConfig_eq (h : l.config = some config) (ht : WellTyped config) :
    l.readConfig = some (true, l.configured config) := by
  have hbool (key : String) (hkey : key ∈ boolKeys) := readEntry_eq (ht.bools key hkey)
  have hstring (key : String) (hkey : key ∈ stringKeys) := readEntry_eq (ht.strings key hkey)
  have hsize (key : String) (hkey : key ∈ sizeKeys) := readEntry_eq (ht.sizes key hkey)
  rw [readConfig, h]
  simp only [hbool "log_time" (by decide), hbool "log_thread" (by decide),
    hbool "log_level" (by decide), hbool "log_source" (by decide), hbool "log_line" (by decide),
    hbool "log_funcname" (by decide), hstring "level" (by decide),
    hstring "log_tag_name" (by decide), hsize "log_file_max_size" (by decide),
    hsize "log_file_max_number" (by decide), hstring "log_file_name" (by decide),
    hstring "log_file_dir" (by decide), hstring "log_file_extension" (by decide)]
  rw [configured, h]
  rfl

/-- The spdlog logger that `init` makes. -/
def opened (l : SpdlogLoggerImp) : SpdlogLogger :=
  { name := l.tagName, sink := l.sink, level := spdlogLevel l.level
    flushLevel := spdlogLevel l.level, pattern := l.pattern }

/-- **What `init` does**, where it does not throw. -/
theorem init_eq_some {opens : SpdlogSink → Bool} {l' : SpdlogLoggerImp}
    (h : l.init opens = some l') :
    ∃ b c, l.readConfig = some (b, c) ∧ l' = { c with logger := some c.opened } := by
  obtain ⟨⟨b, c⟩, hread, h⟩ := Option.bind_eq_some_iff.mp h
  dsimp only at h
  split_ifs at h
  exact ⟨b, c, hread, (Option.some.inj h).symm⟩

/-- **A logger is at a level**: it has it, and filters at it. -/
def AtLevel (l : SpdlogLoggerImp) (level : LoggerLevel) : Prop :=
  l.level = level ∧ l.logger.map SpdlogLogger.level = some (spdlogLevel level)

instance (l : SpdlogLoggerImp) (level : LoggerLevel) : Decidable (l.AtLevel level) :=
  inferInstanceAs (Decidable (_ ∧ _))

theorem AtLevel.unique {level level' : LoggerLevel} (h : l.AtLevel level) (h' : l.AtLevel level') :
    level = level' := h.1.symm.trans h'.1

/-- A level that is set is the one the logger is at, if there is a logger. -/
theorem AtLevel.setLevel {level : LoggerLevel} (h : l.AtLevel level) (level' : LoggerLevel) :
    (l.setLevel level').AtLevel level' := by
  obtain ⟨logger, hlogger, -⟩ := Option.map_eq_some_iff.mp h.2
  refine ⟨rfl, ?_⟩
  rw [SpdlogLoggerImp.setLevel, hlogger]
  rfl

theorem atLevel_opened : { l with logger := some l.opened }.AtLevel l.level := ⟨rfl, rfl⟩

/-- The level that is set last is all that is left of them. -/
@[simp] theorem setLevel_setLevel {level level' : LoggerLevel} :
    (l.setLevel level).setLevel level' = l.setLevel level' := by
  rcases hlogger : l.logger with _ | logger <;> simp [SpdlogLoggerImp.setLevel, hlogger]

/-- A level that is set is the one that is filtered at. -/
theorem logger_setLevel {logger : SpdlogLogger} {level : LoggerLevel} (h : l.logger = some logger) :
    (l.setLevel level).logger
      = some { logger with level := spdlogLevel level, flushLevel := spdlogLevel level } := by
  rw [setLevel, h]
  rfl

end SpdlogLoggerImp

/-- **`read_config` throws** exactly when an entry is not of the type it is read as. -/
theorem isSome_readConfig_iff {l : SpdlogLoggerImp} :
    l.readConfig.isSome ↔ ∀ config ∈ l.config, WellTyped config := by
  rw [SpdlogLoggerImp.readConfig]
  rcases l.config with _ | config
  · simp
  refine Iff.trans (isSome_readEntry_bind fun _ => isSome_readEntry_bind fun _ =>
    isSome_readEntry_bind fun _ => isSome_readEntry_bind fun _ => isSome_readEntry_bind fun _ =>
    isSome_readEntry_bind fun _ => isSome_readEntry_bind fun _ => isSome_readEntry_bind fun _ =>
    isSome_readEntry_bind fun _ => isSome_readEntry_bind fun _ => isSome_readEntry_bind fun _ =>
    isSome_readEntry_bind fun _ => isSome_readEntry_bind fun _ => iff_true_intro rfl) ?_
  constructor
  · rintro ⟨htime, hthread, hlevel, hsource, hline, hfuncname, hnamed, htag, hsize, hnumber, hname,
      hdir, hextension, -⟩ _ ⟨⟩
    refine ⟨?_, ?_, ?_⟩
    · simpa [boolKeys] using ⟨htime, hthread, hlevel, hsource, hline, hfuncname⟩
    · simpa [stringKeys] using ⟨hnamed, htag, hname, hdir, hextension⟩
    · simpa [sizeKeys] using ⟨hsize, hnumber⟩
  · intro h
    obtain ⟨hbools, hstrings, hsizes⟩ := h config rfl
    exact ⟨hbools _ (by decide), hbools _ (by decide), hbools _ (by decide), hbools _ (by decide),
      hbools _ (by decide), hbools _ (by decide), hstrings _ (by decide), hstrings _ (by decide),
      hsizes _ (by decide), hsizes _ (by decide), hstrings _ (by decide), hstrings _ (by decide),
      hstrings _ (by decide), trivial⟩

end MultiplayerServer
