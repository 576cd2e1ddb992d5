import MultiplayerServer.Log.LoggerManager

/-!
# Log/LoggerPattern — what a configured logger filters at, and what it prints

A pattern is read as spdlog reads it: what is printed of a message is told by the character after
each `%`.

* `behaves_iff` — a logger that is created behaves as it is configured exactly when the level it is
  created with is the one it is configured with, and its line and its function are both printed or
  both left out.
-/

namespace MultiplayerServer

/-- The flags of a pattern: the character after each `%`. -/
def flags : List Char → List Char
  | '%' :: flag :: rest => flag :: flags rest
  | _ :: rest => flags rest
  | [] => []

/-- What is printed of a message. -/
def SpdlogLogger.shown (logger : SpdlogLogger) : List Char := flags logger.pattern.toList

/-- The flags of the time. -/
def timeFlags : List Char := ['Y', 'm', 'd', 'H', 'M', 'S', 'e']

/-! ## The pattern that is put together -/

/-- Text in which no flag is left open. -/
def Unbroken (text : String) : Prop :=
  ∀ rest, flags (text.toList ++ rest) = flags text.toList ++ flags rest

theorem flags_ite {p : Prop} [Decidable p] {s t : String} (hs : Unbroken s) (ht : Unbroken t)
    (rest : List Char) : flags ((if p then s else t).toList ++ rest)
      = (if p then flags s.toList else flags t.toList) ++ flags rest := by
  split_ifs
  · exact hs rest
  · exact ht rest

namespace SpdlogLoggerImp

variable {l : SpdlogLoggerImp} {flag : Char}

/-- **What a pattern prints** is what its parts print. -/
theorem flags_pattern : flags l.pattern.toList
    = (if l.needLogTime then timeFlags else [])
      ++ ((if l.tagName = "" then [] else ['n'])
      ++ ((if l.needLogThread then ['t'] else [])
      ++ ((if l.needLogLevel then ['l'] else [])
      ++ ((if l.needLogSource then ['s'] else [])
      ++ ((if l.needLogFuncname then ['#'] else [])
      ++ ((if l.needLogLine then ['!'] else []) ++ ['v'])))))) := by
  have hempty : Unbroken "" := fun _ => rfl
  simp only [pattern, String.toList_append, List.append_assoc]
  rw [flags_ite (fun _ => rfl) hempty, flags_ite hempty (fun _ => rfl),
    flags_ite (fun _ => rfl) hempty, flags_ite (fun _ => rfl) hempty,
    flags_ite (fun _ => rfl) hempty, flags_ite (fun _ => rfl) hempty,
    flags_ite (fun _ => rfl) hempty]
  rfl

/-- The time is printed whole, or not at all. -/
theorem time_mem_pattern (h : flag ∈ timeFlags) :
    flag ∈ flags l.pattern.toList ↔ l.needLogTime := by
  revert flag
  simp [timeFlags, flags_pattern]

theorem tag_mem_pattern : 'n' ∈ flags l.pattern.toList ↔ l.tagName ≠ "" := by
  simp [timeFlags, flags_pattern]

theorem thread_mem_pattern : 't' ∈ flags l.pattern.toList ↔ l.needLogThread := by
  simp [timeFlags, flags_pattern]

theorem level_mem_pattern : 'l' ∈ flags l.pattern.toList ↔ l.needLogLevel := by
  simp [timeFlags, flags_pattern]

theorem source_mem_pattern : 's' ∈ flags l.pattern.toList ↔ l.needLogSource := by
  simp [timeFlags, flags_pattern]

/-- **The line is printed for the flag of the function**, -/
theorem line_mem_pattern : '#' ∈ flags l.pattern.toList ↔ l.needLogFuncname := by
  simp [timeFlags, flags_pattern]

/-- …and the function for that of the line. -/
theorem funcname_mem_pattern : '!' ∈ flags l.pattern.toList ↔ l.needLogLine := by
  simp [timeFlags, flags_pattern]

end SpdlogLoggerImp

/-! ## What a configuration asks for -/

/-- The tag that a configuration gives, or else the name. -/
def configuredTag (name : String) (config : LoggerConfig) : String :=
  (stringEntry config "log_tag_name").getD name

/-- **A logger behaves as it is configured**: it filters at the level that is named, and prints what
is set, and no more; a flag that is not there is set as the logger has it by default. -/
structure Behaves (name : String) (config : LoggerConfig) (logger : SpdlogLogger) : Prop where
  filters : ∀ level ∈ namedLevel config, logger.level = spdlogLevel level
  time : ∀ flag ∈ timeFlags, flag ∈ logger.shown ↔ (boolEntry config "log_time").getD true
  tag : 'n' ∈ logger.shown ↔ configuredTag name config ≠ ""
  tagName : logger.name = configuredTag name config
  thread : 't' ∈ logger.shown ↔ (boolEntry config "log_thread").getD true
  levelFlag : 'l' ∈ logger.shown ↔ (boolEntry config "log_level").getD true
  source : 's' ∈ logger.shown ↔ (boolEntry config "log_source").getD false
  line : '#' ∈ logger.shown ↔ (boolEntry config "log_line").getD false
  funcname : '!' ∈ logger.shown ↔ (boolEntry config "log_funcname").getD false

theorem spdlogLevel_injective : Function.Injective spdlogLevel := by
  rintro (_ | _ | _ | _ | _) (_ | _ | _ | _ | _) h <;> first | rfl | exact nomatch h

/-- **A logger that has taken a configuration**, and is then given a level. -/
theorem behaves_configured {name path : String} {config : LoggerConfig} {level : LoggerLevel}
    {c : SpdlogLoggerImp} (hc : c = SpdlogLoggerImp.configured config
      { tagName := name, filePath := path, config := some config }) :
    Behaves name config
        { c.opened with level := spdlogLevel level, flushLevel := spdlogLevel level }
      ↔ (∀ named ∈ namedLevel config, named = level)
        ∧ (boolEntry config "log_line").getD false
          = (boolEntry config "log_funcname").getD false := by
  subst hc
  constructor
  · intro h
    refine ⟨fun named hnamed => (spdlogLevel_injective (h.filters named hnamed)).symm, ?_⟩
    have hline := h.line.symm.trans SpdlogLoggerImp.line_mem_pattern
    exact Bool.eq_iff_iff.mpr hline
  · rintro ⟨hlevel, hline⟩
    refine ⟨fun named hnamed => congrArg spdlogLevel (hlevel named hnamed).symm,
      fun flag hflag => SpdlogLoggerImp.time_mem_pattern hflag, SpdlogLoggerImp.tag_mem_pattern,
      rfl, SpdlogLoggerImp.thread_mem_pattern, SpdlogLoggerImp.level_mem_pattern,
      SpdlogLoggerImp.source_mem_pattern, ?_, ?_⟩
    · rw [hline]
      exact SpdlogLoggerImp.line_mem_pattern
    · rw [← hline]
      exact SpdlogLoggerImp.funcname_mem_pattern

/-- **A logger that is created behaves as it is configured** exactly when it is created with the
level that is named, if there is one, and its line and its function are set alike. -/
theorem behaves_iff {opens : SpdlogSink → Bool} {m m' : LoggerManager} {name path : String}
    {level : LoggerLevel} {config : LoggerConfig} {r : ℕ} (hfresh : m.loggers[name]? = none)
    (ht : WellTyped config)
    (hcreate : m.createLogger opens name level path (some config) = some (r, m')) :
    (∃ l logger, m'.made[r]? = some l ∧ l.logger = some logger ∧ Behaves name config logger)
      ↔ (∀ named ∈ namedLevel config, named = level)
        ∧ (boolEntry config "log_line").getD false
          = (boolEntry config "log_funcname").getD false := by
  obtain ⟨b, c, hread, rfl, rfl⟩ := LoggerManager.createLogger_eq_some hfresh hcreate
  rw [SpdlogLoggerImp.readConfig_eq rfl ht] at hread
  obtain ⟨-, hc⟩ := Prod.mk.inj (Option.some.inj hread)
  rw [← behaves_configured hc.symm, List.getElem?_concat_length]
  constructor
  · rintro ⟨l, logger, hl, hlogger, h⟩
    obtain rfl := Option.some.inj hl
    rw [SpdlogLoggerImp.logger_setLevel rfl] at hlogger
    exact Option.some.inj hlogger ▸ h
  · exact fun h => ⟨_, _, rfl, SpdlogLoggerImp.logger_setLevel rfl, h⟩

/-- A level, and a line and a function that are both set. -/
def traceConfig : LoggerConfig :=
  ((∅ : LoggerConfig).insert "level" (.string "error")).insert "log_line" (.bool true)
    |>.insert "log_funcname" (.bool true)

theorem wellTyped_traceConfig : WellTyped traceConfig := ⟨by decide, by decide, by decide⟩

/-- The manager's first logger but the default one. -/
theorem behaves_iff_trace : ∃ m', LoggerManager.initial.createLogger (fun _ => false) "common"
      .error "" (some traceConfig) = some (1, m')
    ∧ ∃ l logger, m'.made[1]? = some l ∧ l.logger = some logger
      ∧ Behaves "common" traceConfig logger := by
  have hcreate : ∃ m', LoggerManager.initial.createLogger (fun _ => false) "common" .error
      "" (some traceConfig) = some (1, m') := ⟨_, rfl⟩
  obtain ⟨m', hcreate⟩ := hcreate
  exact ⟨m', hcreate,
    (behaves_iff rfl wellTyped_traceConfig hcreate).mpr ⟨by decide, by decide⟩⟩

/-- The line is set alone, and the function is printed for it. -/
theorem not_behaves_of_line : ∃ m', LoggerManager.initial.createLogger (fun _ => false) "common"
      .debug "" (some ((∅ : LoggerConfig).insert "log_line" (.bool true))) = some (1, m')
    ∧ ¬ ∃ l logger, m'.made[1]? = some l ∧ l.logger = some logger
      ∧ Behaves "common" ((∅ : LoggerConfig).insert "log_line" (.bool true)) logger := by
  refine ⟨_, rfl, ?_⟩
  rintro ⟨l, logger, hl, hlogger, h⟩
  obtain rfl := Option.some.inj hl
  obtain rfl := Option.some.inj hlogger
  have hline := h.line
  revert hline
  decide

end MultiplayerServer
