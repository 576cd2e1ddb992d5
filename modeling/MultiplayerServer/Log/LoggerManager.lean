import MultiplayerServer.Log.SpdlogLogger

/-!
# Log/LoggerManager — the loggers by name

`LoggerManager`: a logger for each name that was asked for, and one beside them that has no name.
A `shared_ptr` is a place in `made`, where the loggers stay that have been made.

* `createLogger_eq_some` — what `create_logger` does for a name there is no logger of.
* `Lacks.createLogger_cases` — it throws exactly where the file it is given does not open.
* `made_setLoggerLevel`, `made_setLoggerLevel_of_not` — which loggers `set_logger_level` reaches.
-/

namespace MultiplayerServer

/-- `LoggerManager` -/
structure LoggerManager where
  made : List SpdlogLoggerImp
  defaultLogger : ℕ
  loggers : Std.ExtTreeMap String ℕ := ∅
  defaultLoggerLevel : LoggerLevel := .debug
  deriving DecidableEq

namespace LoggerManager

variable (opens : SpdlogSink → Bool) (m : LoggerManager) (loggerName : String) (level : LoggerLevel)

/-- The constructor. -/
def construct : Option LoggerManager := do
  let logger ← SpdlogLoggerImp.construct opens "major" "" none
  return { made := [logger], defaultLogger := 0 }

/-- `create_logger`, with the logger it returns; there is none where its constructor throws. -/
def createLogger (logFilePath : String) (config : Option LoggerConfig) :
    Option (ℕ × LoggerManager) :=
  match m.loggers[loggerName]? with
  | some r => some (r, m)
  | none => do
    let logger ← SpdlogLoggerImp.construct opens loggerName logFilePath config
    return (m.made.length,
      { m with
        made := m.made ++ [logger.setLevel level]
        loggers := m.loggers.insert loggerName m.made.length })

/-- `get_logger` -/
def getLogger : Option ℕ := m.loggers[loggerName]?

/-- `get_default_logger` -/
def getDefaultLogger : ℕ := m.defaultLogger

/-- `set_logger_level` -/
def setLoggerLevel : LoggerManager :=
  if loggerName = "" then
    { m with
      defaultLoggerLevel := level
      made := m.loggers.toList.foldl (fun made p => made.modify p.2 (·.setLevel level)) m.made }
  else
    match m.loggers[loggerName]? with
    | some r => { m with made := m.made.modify r (·.setLevel level) }
    | none => m

variable {opens m loggerName level} {m' : LoggerManager} {r : ℕ} {logFilePath : String}
  {config : Option LoggerConfig}

/-- A manager that has been constructed. -/
def initial : LoggerManager :=
  { made := [{ logger := some (SpdlogLoggerImp.opened {}) }], defaultLogger := 0 }

/-- **The constructor does not throw**: the default logger has no file. -/
theorem construct_eq : construct opens = some initial := rfl

/-- **What `create_logger` does** for a name there is no logger of, where it does not throw. -/
theorem createLogger_eq_some (hfresh : m.loggers[loggerName]? = none)
    (h : m.createLogger opens loggerName level logFilePath config = some (r, m')) :
    ∃ b c, SpdlogLoggerImp.readConfig { tagName := loggerName, filePath := logFilePath, config }
        = some (b, c)
      ∧ r = m.made.length
      ∧ m' = { m with
          made := m.made ++ [{ c with logger := some c.opened }.setLevel level]
          loggers := m.loggers.insert loggerName m.made.length } := by
  rw [createLogger, hfresh] at h
  obtain ⟨logger, hlogger, h⟩ := Option.bind_eq_some_iff.mp h
  obtain ⟨b, c, hread, rfl⟩ := SpdlogLoggerImp.init_eq_some hlogger
  obtain ⟨rfl, rfl⟩ := Prod.mk.inj (Option.some.inj h)
  exact ⟨b, c, hread, rfl, rfl⟩

/-- A new logger is registered under its name, beside what there was. -/
theorem getElem?_loggers_createLogger (hfresh : m.loggers[loggerName]? = none)
    (h : m.createLogger opens loggerName level logFilePath config = some (r, m')) (name : String) :
    m'.loggers[name]? = if loggerName = name then some r else m.loggers[name]? := by
  obtain ⟨b, c, -, rfl, rfl⟩ := createLogger_eq_some hfresh h
  simp [Std.ExtTreeMap.getElem?_insert]

/-- There is no logger of any of these names yet. -/
def Lacks (m : LoggerManager) (names : List String) : Prop :=
  ∀ name ∈ names, m.loggers[name]? = none

variable (opens level) in
/-- **A logger of a new name**, without a configuration, is made exactly where its file opens, and
the names that are still to come stay new. -/
theorem Lacks.createLogger_cases {names : List String} (h : m.Lacks (loggerName :: names))
    (hnew : loggerName ∉ names) (hfile : logFilePath ≠ "") :
    opens (.basicFile logFilePath false) = true
        ∧ (∃ r m', m.createLogger opens loggerName level logFilePath none = some (r, m')
          ∧ m'.Lacks names)
      ∨ opens (.basicFile logFilePath false) = false
        ∧ m.createLogger opens loggerName level logFilePath none = none := by
  obtain ⟨hfresh, hrest⟩ := List.forall_mem_cons.mp h
  have hcreate : m.createLogger opens loggerName level logFilePath none
      = (SpdlogLoggerImp.construct opens loggerName logFilePath none).bind fun logger =>
        some (m.made.length, { m with
          made := m.made ++ [logger.setLevel level]
          loggers := m.loggers.insert loggerName m.made.length }) := by
    rw [createLogger, hfresh]
    rfl
  have hsink : ({ tagName := loggerName, filePath := logFilePath, config := none }
      : SpdlogLoggerImp).sink = .basicFile logFilePath false := by
    rw [SpdlogLoggerImp.sink, if_neg hfile]
    rfl
  rw [SpdlogLoggerImp.construct, SpdlogLoggerImp.init, SpdlogLoggerImp.readConfig] at hcreate
  simp only [Option.bind_eq_bind, Option.bind_some, hsink, reduceCtorEq, false_or] at hcreate
  cases hopens : opens (.basicFile logFilePath false)
  · rw [hopens] at hcreate
    exact Or.inr ⟨rfl, hcreate⟩
  · rw [hopens] at hcreate
    refine Or.inl ⟨rfl, _, _, hcreate, fun name hname => ?_⟩
    have hne : loggerName ≠ name := by
      rintro rfl
      exact hnew hname
    rw [getElem?_loggers_createLogger hfresh hcreate, if_neg hne]
    exact hrest name hname

/-! ## What `set_logger_level` reaches -/

/-- Changing some places of a list, where to change one twice is to change it once. -/
theorem getElem?_foldl_modify {α β : Type*} {f : α → α} (hf : ∀ a, f (f a) = f a) {place : β → ℕ}
    {bs : List β} {l : List α} {i : ℕ} : (bs.foldl (fun l b => l.modify (place b) f) l)[i]?
      = if i ∈ bs.map place then l[i]?.map f else l[i]? := by
  induction bs generalizing l with
  | nil => rfl
  | cons b bs ih =>
    have htwice (x : Option α) : (x.map f).map f = x.map f := by
      rw [Option.map_map]
      exact congrArg (Option.map · x) (funext hf)
    rw [List.foldl_cons, ih, List.getElem?_modify]
    by_cases hb : place b = i
    · rw [if_pos (List.mem_map.mpr ⟨b, List.mem_cons_self, hb⟩)]
      simp only [hb, if_true, Option.map_eq_map]
      split_ifs
      · exact htwice _
      · rfl
    · simp [hb, Ne.symm hb]

/-- A logger that a call with a name is about: the one of that name, or any that has a name. -/
def Reaches (m : LoggerManager) (loggerName : String) (r : ℕ) : Prop :=
  ∃ name, m.loggers[name]? = some r ∧ (loggerName = "" ∨ loggerName = name)

@[simp] theorem loggers_setLoggerLevel :
    (m.setLoggerLevel loggerName level).loggers = m.loggers := by
  rw [setLoggerLevel]
  split_ifs
  · rfl
  · rcases m.loggers[loggerName]? with _ | r <;> rfl

@[simp] theorem defaultLogger_setLoggerLevel :
    (m.setLoggerLevel loggerName level).defaultLogger = m.defaultLogger := by
  rw [setLoggerLevel]
  split_ifs
  · rfl
  · rcases m.loggers[loggerName]? with _ | r <;> rfl

/-- **A level is set for what is reached**, -/
theorem made_setLoggerLevel (h : m.Reaches loggerName r) :
    (m.setLoggerLevel loggerName level).made[r]? = m.made[r]?.map (·.setLevel level) := by
  obtain ⟨name, hname, h⟩ := h
  rw [setLoggerLevel]
  by_cases hempty : loggerName = ""
  · rw [if_pos hempty]
    have hmem : r ∈ m.loggers.toList.map Prod.snd :=
      List.mem_map.mpr ⟨(name, r), Std.ExtTreeMap.mem_toList_iff_getElem?_eq_some.mpr hname, rfl⟩
    exact (getElem?_foldl_modify fun _ => SpdlogLoggerImp.setLevel_setLevel).trans (if_pos hmem)
  · obtain rfl := h.resolve_left hempty
    rw [if_neg hempty, hname]
    exact (List.getElem?_modify _ _ _ _).trans (by simp)

/-- …and for nothing else. -/
theorem made_setLoggerLevel_of_not (h : ¬ m.Reaches loggerName r) :
    (m.setLoggerLevel loggerName level).made[r]? = m.made[r]? := by
  rw [setLoggerLevel]
  by_cases hempty : loggerName = ""
  · rw [if_pos hempty]
    have hmem : r ∉ m.loggers.toList.map Prod.snd := by
      rintro hmem
      obtain ⟨⟨name, _⟩, hname, rfl⟩ := List.mem_map.mp hmem
      exact h ⟨name, Std.ExtTreeMap.mem_toList_iff_getElem?_eq_some.mp hname, Or.inl hempty⟩
    exact (getElem?_foldl_modify fun _ => SpdlogLoggerImp.setLevel_setLevel).trans (if_neg hmem)
  · rw [if_neg hempty]
    rcases hname : m.loggers[loggerName]? with _ | r'
    · rfl
    · have hne : r' ≠ r := fun heq => h ⟨loggerName, heq ▸ hname, Or.inr rfl⟩
      exact (List.getElem?_modify _ _ _ _).trans (by simp [hne])

end LoggerManager

end MultiplayerServer
