import MultiplayerServer.Log.LoggerManager
import MultiplayerServer.Machinery.Runs

/-!
# Log/LoggerLevels — the levels of the loggers, over the runs of a manager

Beside the manager its past is kept, the latest call first; the level a logger ought to be at is
read off it (`latestLevel`, `latestDefaultLevel`).

* `levels_iff` — every logger is at the level that was set last exactly in the runs where all that
  is set for the default logger is the level it is constructed with.
-/

namespace MultiplayerServer

open Machinery

/-- The calls that create a logger, with the files that open at the time, or set a level. -/
inductive LoggerCall
  | createLogger (loggerName : String) (level : LoggerLevel) (logFilePath : String)
    (config : Option LoggerConfig) (opens : SpdlogSink → Bool)
  | setLoggerLevel (loggerName : String) (level : LoggerLevel)

/-- A manager, and the calls that have been made of it. -/
structure LoggerRun where
  manager : LoggerManager := .initial
  past : List LoggerCall := []

namespace LoggerRun

/-- One call; it is no call of the past where it throws. -/
def call (s : LoggerRun) : LoggerCall → LoggerRun
  | .createLogger loggerName level logFilePath config opens =>
    match s.manager.createLogger opens loggerName level logFilePath config with
    | some (_, m) => ⟨m, .createLogger loggerName level logFilePath config opens :: s.past⟩
    | none => s
  | .setLoggerLevel loggerName level =>
    ⟨s.manager.setLoggerLevel loggerName level, .setLoggerLevel loggerName level :: s.past⟩

/-- The runs of a manager, in which every call is made. -/
def machine : Machine LoggerRun LoggerCall := ⟨fun s e => some (s.call e)⟩

/-! ## The level that was set last -/

/-- The level of a named logger: that of its first creation, or what has been set since for its name
or for all. -/
def latestLevel (name : String) : List LoggerCall → Option LoggerLevel
  | [] => none
  | .createLogger loggerName level _ _ _ :: past =>
    if loggerName = name then some ((latestLevel name past).getD level) else latestLevel name past
  | .setLoggerLevel loggerName level :: past =>
    if loggerName = "" ∨ loggerName = name then (latestLevel name past).map fun _ => level
    else latestLevel name past

/-- A name that the default logger answers to: the empty one, and its own if it is taken to have
one. -/
def NamesDefault (own : Option String) (loggerName : String) : Prop :=
  loggerName = "" ∨ own = some loggerName

instance (own : Option String) (loggerName : String) : Decidable (NamesDefault own loggerName) :=
  inferInstanceAs (Decidable (_ ∨ _))

/-- The level of the default logger, which is constructed at `Debug`. -/
def latestDefaultLevel (own : Option String) : List LoggerCall → LoggerLevel
  | [] => .debug
  | .createLogger .. :: past => latestDefaultLevel own past
  | .setLoggerLevel loggerName level :: past =>
    if NamesDefault own loggerName then level else latestDefaultLevel own past

/-- The logger at a place is at a level. -/
def LevelAt (m : LoggerManager) (r : ℕ) (level : LoggerLevel) : Prop :=
  ∃ l, m.made[r]? = some l ∧ l.AtLevel level

/-- **The loggers that are handed out are at the levels that were set last.** -/
structure LevelsRight (own : Option String) (s : LoggerRun) : Prop where
  named : ∀ name r, s.manager.getLogger name = some r →
    ∃ level, latestLevel name s.past = some level ∧ LevelAt s.manager r level
  default : LevelAt s.manager s.manager.getDefaultLogger (latestDefaultLevel own s.past)

/-- **A call that creates a logger** where there is one of its name returns that one, and nothing
has changed; and what it returns is the logger of its name from there on. -/
def CreatesOnce (s : LoggerRun) : LoggerCall → Prop
  | .createLogger loggerName level logFilePath config opens =>
    (∀ r, s.manager.getLogger loggerName = some r →
        s.manager.createLogger opens loggerName level logFilePath config = some (r, s.manager))
      ∧ ∀ r m, s.manager.createLogger opens loggerName level logFilePath config = some (r, m) →
        m.getLogger loggerName = some r
  | .setLoggerLevel .. => True

/-- What is set for the default logger is the level it is constructed with. -/
def KeepsDefault (own : Option String) : LoggerCall → Prop
  | .createLogger .. => True
  | .setLoggerLevel loggerName level => NamesDefault own loggerName → level = .debug

/-- What holds in every run, whatever is set: the places are told apart, and the default logger is
where it was. -/
structure Sound (s : LoggerRun) : Prop where
  named : ∀ (name : String) (r : ℕ), s.manager.loggers[name]? = some r →
    ∃ level, latestLevel name s.past = some level ∧ LevelAt s.manager r level
  unnamed : ∀ name : String, s.manager.loggers[name]? = none → latestLevel name s.past = none
  distinct : ∀ (name name' : String) (r : ℕ), s.manager.loggers[name]? = some r →
    s.manager.loggers[name']? = some r → name = name'
  apart : ∀ name : String, s.manager.loggers[name]? ≠ some s.manager.defaultLogger
  default : LevelAt s.manager s.manager.defaultLogger .debug

variable {opens : SpdlogSink → Bool} {own : Option String} {s : LoggerRun} {m : LoggerManager}
  {name loggerName logFilePath : String} {level level' : LoggerLevel} {r : ℕ}
  {config : Option LoggerConfig}

/-! ## What a call does to the levels -/

theorem LevelAt.lt (h : LevelAt m r level) : r < m.made.length := by
  obtain ⟨l, hl, -⟩ := h
  exact (List.getElem?_eq_some_iff.mp hl).choose

theorem LevelAt.unique (h : LevelAt m r level) (h' : LevelAt m r level') : level = level' := by
  obtain ⟨l, hl, hlevel⟩ := h
  obtain ⟨l', hl', hlevel'⟩ := h'
  obtain rfl : l = l' := Option.some.inj (hl.symm.trans hl')
  exact hlevel.unique hlevel'

/-- A logger stays at its level while others are made. -/
theorem LevelAt.of_prefix {m' : LoggerManager} {made : List SpdlogLoggerImp}
    (h : LevelAt m r level) (hmade : m'.made = m.made ++ made) : LevelAt m' r level := by
  have hr := h.lt
  obtain ⟨l, hl, hlevel⟩ := h
  exact ⟨l, by rw [hmade, List.getElem?_append_left hr, hl], hlevel⟩

/-- **A level is set** for what a call reaches, -/
theorem LevelAt.setLoggerLevel (h : LevelAt m r level) (hreach : m.Reaches loggerName r)
    (level' : LoggerLevel) : LevelAt (m.setLoggerLevel loggerName level') r level' := by
  obtain ⟨l, hl, hlevel⟩ := h
  exact ⟨l.setLevel level', by rw [LoggerManager.made_setLoggerLevel hreach, hl, Option.map_some],
    hlevel.setLevel level'⟩

/-- …and for nothing else. -/
theorem LevelAt.setLoggerLevel_of_not (h : LevelAt m r level) (hreach : ¬ m.Reaches loggerName r) :
    LevelAt (m.setLoggerLevel loggerName level') r level := by
  obtain ⟨l, hl, hlevel⟩ := h
  exact ⟨l, by rw [LoggerManager.made_setLoggerLevel_of_not hreach, hl], hlevel⟩

/-- A new logger is at the level it is created with. -/
theorem levelAt_createLogger {m' : LoggerManager} (hfresh : m.loggers[loggerName]? = none)
    (h : m.createLogger opens loggerName level logFilePath config = some (r, m')) :
    LevelAt m' r level := by
  obtain ⟨b, c, -, rfl, rfl⟩ := LoggerManager.createLogger_eq_some hfresh h
  exact ⟨_, List.getElem?_concat_length, SpdlogLoggerImp.atLevel_opened.setLevel level⟩

/-! ## What every call keeps -/

/-- A creation is the first one of its name, or changes nothing in what the past says. -/
theorem latestLevel_createLogger (hname : latestLevel loggerName s.past = some level') :
    latestLevel name (.createLogger loggerName level logFilePath config opens :: s.past)
      = latestLevel name s.past := by
  rw [latestLevel]
  split_ifs with h
  · subst h
    rw [hname]
    rfl
  · rfl

/-- **The first creation of a name** registers a new place. -/
theorem Sound.createFresh {m' : LoggerManager} (h : Sound s)
    (hfresh : s.manager.loggers[loggerName]? = none)
    (hcreate : s.manager.createLogger opens loggerName level logFilePath config = some (r, m')) :
    Sound ⟨m', .createLogger loggerName level logFilePath config opens :: s.past⟩ := by
  have hnew : LevelAt m' r level := levelAt_createLogger hfresh hcreate
  have hlookup := LoggerManager.getElem?_loggers_createLogger hfresh hcreate
  have hlatest (name : String) :
      latestLevel name (.createLogger loggerName level logFilePath config opens :: s.past)
        = if loggerName = name then some level else latestLevel name s.past := by
    rw [latestLevel]
    split_ifs with hname
    · subst hname
      rw [h.unnamed loggerName hfresh]
      rfl
    · rfl
  have hold {name : String} {r : ℕ} (hr : s.manager.loggers[name]? = some r) :
      r < s.manager.made.length := (h.named name r hr).choose_spec.2.lt
  obtain ⟨b, c, -, rfl, rfl⟩ := LoggerManager.createLogger_eq_some hfresh hcreate
  constructor
  · intro name r hr
    rw [hlatest]
    rw [hlookup] at hr
    split_ifs at hr ⊢ with hname
    · obtain rfl := Option.some.inj hr
      exact ⟨level, rfl, hnew⟩
    · obtain ⟨level', hlevel', hat⟩ := h.named name r hr
      exact ⟨level', hlevel', hat.of_prefix rfl⟩
  · intro name hr
    rw [hlatest]
    rw [hlookup] at hr
    split_ifs at hr ⊢
    exact h.unnamed name hr
  · intro name name' r hr hr'
    rw [hlookup] at hr hr'
    split_ifs at hr hr' with hname hname'
    · exact hname.symm.trans hname'
    -- a place that there was is none that is new
    · obtain rfl := Option.some.inj hr
      exact absurd (hold hr') (Nat.lt_irrefl _)
    · obtain rfl := Option.some.inj hr'
      exact absurd (hold hr) (Nat.lt_irrefl _)
    · exact h.distinct name name' r hr hr'
  · intro name hr
    rw [hlookup] at hr
    split_ifs at hr
    · exact absurd h.default.lt (Option.some.inj hr ▸ Nat.lt_irrefl _)
    · exact h.apart name hr
  · exact h.default.of_prefix rfl

/-- …and a creation of a name there is changes nothing but the past, and nothing in what that
says. -/
theorem Sound.createLogger {m' : LoggerManager} (h : Sound s)
    (hcreate : s.manager.createLogger opens loggerName level logFilePath config = some (r, m')) :
    Sound ⟨m', .createLogger loggerName level logFilePath config opens :: s.past⟩ := by
  rcases hname : s.manager.loggers[loggerName]? with _ | r₀
  · exact h.createFresh hname hcreate
  · rw [LoggerManager.createLogger, hname] at hcreate
    obtain ⟨rfl, rfl⟩ := Prod.mk.inj (Option.some.inj hcreate)
    obtain ⟨level₀, hlevel₀, -⟩ := h.named loggerName _ hname
    refine ⟨fun name r hr => ?_, fun name hr => ?_, h.distinct, h.apart, h.default⟩
    · rw [latestLevel_createLogger hlevel₀]
      exact h.named name r hr
    · rw [latestLevel_createLogger hlevel₀]
      exact h.unnamed name hr

/-- **A level that is set** is the latest one of what is reached. -/
theorem Sound.setLoggerLevel (h : Sound s) :
    Sound ⟨s.manager.setLoggerLevel loggerName level,
      .setLoggerLevel loggerName level :: s.past⟩ := by
  have hdefault : ¬ s.manager.Reaches loggerName s.manager.defaultLogger :=
    fun ⟨name, hname, _⟩ => h.apart name hname
  constructor
  · intro name r hr
    rw [LoggerManager.loggers_setLoggerLevel] at hr
    obtain ⟨level₀, hlevel₀, hat⟩ := h.named name r hr
    rw [latestLevel, hlevel₀]
    split_ifs with hreach
    · exact ⟨level, rfl, hat.setLoggerLevel ⟨name, hr, hreach⟩ level⟩
    · refine ⟨level₀, rfl, hat.setLoggerLevel_of_not ?_⟩
      rintro ⟨name', hr', hreach'⟩
      obtain rfl := h.distinct name name' r hr hr'
      exact hreach hreach'
  · intro name hr
    rw [LoggerManager.loggers_setLoggerLevel] at hr
    rw [latestLevel, h.unnamed name hr]
    split_ifs <;> rfl
  · rw [LoggerManager.loggers_setLoggerLevel]
    exact h.distinct
  · rw [LoggerManager.loggers_setLoggerLevel, LoggerManager.defaultLogger_setLoggerLevel]
    exact h.apart
  · rw [LoggerManager.defaultLogger_setLoggerLevel]
    exact h.default.setLoggerLevel_of_not hdefault

theorem Sound.call (h : Sound s) (e : LoggerCall) : Sound (s.call e) := by
  cases e with
  | createLogger loggerName level logFilePath config opens =>
    rw [LoggerRun.call]
    split
    next r m hcreate => exact h.createLogger hcreate
    next => exact h
  | setLoggerLevel loggerName level => exact h.setLoggerLevel

theorem sound_initial : Sound {} where
  named _ _ hr := absurd hr (by simp [LoggerManager.initial])
  unnamed _ _ := rfl
  distinct _ _ _ hr _ := absurd hr (by simp [LoggerManager.initial])
  apart _ hr := absurd hr (by simp [LoggerManager.initial])
  default := ⟨_, rfl, by decide⟩

/-- **The loggers that have names are always at the levels that were set last**, and the default one
is where nothing else was set for it. -/
theorem Sound.levelsRight_iff (h : Sound s) :
    LevelsRight own s ↔ latestDefaultLevel own s.past = .debug :=
  ⟨fun hright => hright.default.unique h.default,
    fun hlatest => ⟨h.named, hlatest ▸ h.default⟩⟩

/-- What a call sets for the default logger. -/
theorem latestDefaultLevel_call (hlatest : latestDefaultLevel own s.past = .debug)
    (e : LoggerCall) :
    latestDefaultLevel own (s.call e).past = .debug ↔ KeepsDefault own e := by
  cases e with
  | createLogger loggerName level logFilePath config opens =>
    refine iff_of_true ?_ trivial
    rw [LoggerRun.call]
    split
    next => exact hlatest
    next => exact hlatest
  | setLoggerLevel loggerName level =>
    rw [LoggerRun.call, latestDefaultLevel, KeepsDefault]
    split_ifs with h
    · exact ⟨fun hlevel _ => hlevel, fun hkeeps => hkeeps h⟩
    · exact iff_of_true hlatest fun hnames => absurd hnames h

/-- **What is created is created once.** -/
theorem createsOnce (e : LoggerCall) : CreatesOnce s e := by
  cases e with
  | createLogger loggerName level logFilePath config opens =>
    constructor
    · intro r hr
      rw [LoggerManager.createLogger, show s.manager.loggers[loggerName]? = some r from hr]
    · intro r m hcreate
      rcases hname : s.manager.loggers[loggerName]? with _ | r₀
      · obtain ⟨b, c, -, rfl, rfl⟩ := LoggerManager.createLogger_eq_some hname hcreate
        exact Std.ExtTreeMap.getElem?_insert_self
      · rw [LoggerManager.createLogger, hname] at hcreate
        obtain ⟨rfl, rfl⟩ := Prod.mk.inj (Option.some.inj hcreate)
        exact hname
  | setLoggerLevel loggerName level => trivial

end LoggerRun

/-- **The levels are those that were set last, throughout a run**, exactly when every level that is
set for all, or for the default logger's own name, is `Debug`; and what is created is created once
in any run. -/
theorem levels_iff (own : Option String) (es : List LoggerCall) :
    (LoggerRun.machine.Always (LoggerRun.LevelsRight own) {} es
        ∧ LoggerRun.machine.Along (fun s e _ => LoggerRun.CreatesOnce s e) {} es)
      ↔ ∀ e ∈ es, LoggerRun.KeepsDefault own e := by
  have honce : LoggerRun.machine.Along
      (fun s e _ => LoggerRun.CreatesOnce s e) {} es :=
    Machine.along_of_forall fun e _ s _ _ => LoggerRun.createsOnce e
  have htotal (s : LoggerRun) (e : LoggerCall) :
      ∃ s', LoggerRun.machine.step s e = some s' := ⟨_, rfl⟩
  rw [and_iff_left honce, ← Machine.along_iff_forall_mem htotal]
  refine Machine.always_iff_along
    (fun s => LoggerRun.Sound s ∧ LoggerRun.latestDefaultLevel own s.past = .debug) ?_ ?_ ?_
    ⟨LoggerRun.sound_initial, rfl⟩
  · exact fun s h => h.1.levelsRight_iff.mpr h.2
  · rintro s e _ ⟨hsound, hlatest⟩ hstep hkeeps
    obtain rfl := Option.some.inj hstep
    exact ⟨hsound.call e, (LoggerRun.latestDefaultLevel_call hlatest e).mpr hkeeps⟩
  · rintro s e _ ⟨hsound, hlatest⟩ hstep hright
    obtain rfl := Option.some.inj hstep
    exact (LoggerRun.latestDefaultLevel_call hlatest e).mp
      ((hsound.call e).levelsRight_iff.mp hright)

/-- A level that is set for all the loggers does not reach the default one. -/
theorem not_levelsRight_of_setAll :
    ¬ LoggerRun.machine.Always (LoggerRun.LevelsRight none) {}
      [.setLoggerLevel "" .error] := by
  intro h
  have hright := (h.2 _ rfl).head
  obtain ⟨l, hl, hlevel⟩ := hright.default
  obtain rfl := Option.some.inj hl
  revert hlevel
  decide

end MultiplayerServer
