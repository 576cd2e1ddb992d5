import Mathlib.Logic.Function.Basic
import MultiplayerServer.Log.LoggerLevels

/-!
# Log/LoggerMessages — what the loggers write

A message is formatted and handed to spdlog, which drops it below the level of the logger, and holds
it until a line at the level to flush at comes.  `set_level` sets both levels to the same one.

* `messages_written` — in every run, what a logger has written are the messages passed to it at or
  above the level set last at the time, in order, and spdlog holds none of them back.
-/

namespace MultiplayerServer

open Machinery

namespace SpdlogLevel

/-- The value of the enumerator. -/
def toNat : SpdlogLevel → ℕ
  | trace => 0
  | debug => 1
  | info => 2
  | warn => 3
  | err => 4
  | critical => 5
  | off => 6

end SpdlogLevel

/-- The value of the enumerator. -/
def LoggerLevel.toNat : LoggerLevel → ℕ
  | debug => 0
  | info => 1
  | warn => 2
  | error => 3
  | critical => 4

theorem toNat_spdlogLevel (level : LoggerLevel) :
    (spdlogLevel level).toNat = level.toNat + 1 := by
  cases level <;> rfl

/-- A line, as it comes out at a sink. -/
structure LogLine where
  level : LoggerLevel
  message : String
  deriving DecidableEq

/-- A sink, as a file or a terminal sees it. -/
structure LogOutput where
  written : List LogLine := []
  /-- The lines that are not flushed yet. -/
  held : List LogLine := []
  deriving DecidableEq

/-- spdlog, as it is documented of a message that it does not format: below the level of the logger
it is dropped, and from the level to flush at on it is written, after what is held. -/
structure Spdlog where
  /-- `spdlog::logger::log` -/
  log : SpdlogLogger → LogLine → LogOutput → LogOutput
  log_of_lt (logger : SpdlogLogger) (line : LogLine) (out : LogOutput)
    (h : (spdlogLevel line.level).toNat < logger.level.toNat) : log logger line out = out
  log_of_le (logger : SpdlogLogger) (line : LogLine) (out : LogOutput)
    (h : logger.level.toNat ≤ (spdlogLevel line.level).toNat)
    (hflush : logger.flushLevel.toNat ≤ (spdlogLevel line.level).toNat) :
    log logger line out = { written := out.written ++ out.held ++ [line] }

/-- A spdlog that holds what is not flushed. -/
instance : Inhabited Spdlog where
  default := {
    log := fun logger line out =>
      if (spdlogLevel line.level).toNat < logger.level.toNat then out
      else if logger.flushLevel.toNat ≤ (spdlogLevel line.level).toNat then
        { written := out.written ++ out.held ++ [line] }
      else { out with held := out.held ++ [line] }
    log_of_lt := fun _ _ _ h => if_pos h
    log_of_le := fun _ _ _ h hflush => by rw [if_neg (Nat.not_lt.mpr h), if_pos hflush] }

namespace SpdlogLoggerImp

variable (spdlog : Spdlog) (l : SpdlogLoggerImp) (message : String) (out : LogOutput)

/-- The five functions of one message.  Where there is no logger, spdlog logs with one of its own.
-/
def logMessage (level : LoggerLevel) : LogOutput :=
  match l.logger with
  | some logger => spdlog.log logger ⟨level, message⟩ out
  | none => out

/-- `debug` -/
def debug : LogOutput := l.logMessage spdlog message out .debug

/-- `info` -/
def info : LogOutput := l.logMessage spdlog message out .info

/-- `warn` -/
def warn : LogOutput := l.logMessage spdlog message out .warn

/-- `error` -/
def error : LogOutput := l.logMessage spdlog message out .error

/-- `critical` -/
def critical : LogOutput := l.logMessage spdlog message out .critical

variable {α : Type} (format : α → Option String)

/-- `LoggerImp::log`, of a text and what is put into it; `none` is an exception of the formatting
library. -/
def log (level : LoggerLevel) (text : α) : Option LogOutput :=
  (format text).map fun message =>
    match level with
    | .debug => l.debug spdlog message out
    | .info => l.info spdlog message out
    | .warn => l.warn spdlog message out
    | .error => l.error spdlog message out
    | .critical => l.critical spdlog message out

variable {spdlog l out format}

theorem log_eq {level : LoggerLevel} {text : α} : l.log spdlog out format level text
    = (format text).map fun message => l.logMessage spdlog message out level := by
  cases level <;> rfl

/-- A logger that holds nothing back: it flushes at the level it filters at. -/
def Flushes (l : SpdlogLoggerImp) : Prop :=
  ∃ logger, l.logger = some logger ∧ logger.flushLevel = logger.level

theorem Flushes.setLevel (h : l.Flushes) (level : LoggerLevel) : (l.setLevel level).Flushes := by
  obtain ⟨logger, hlogger, -⟩ := h
  exact ⟨_, logger_setLevel hlogger, rfl⟩

/-- **What a logger writes of a message**, that holds nothing back. -/
theorem logMessage_eq {written : List LogLine} {level level' : LoggerLevel} (h : l.Flushes)
    (hat : l.AtLevel level) : l.logMessage spdlog message ⟨written, []⟩ level'
      = ⟨written ++ if level.toNat ≤ level'.toNat then [⟨level', message⟩] else [], []⟩ := by
  obtain ⟨logger, hlogger, hflush⟩ := h
  have hlevel : logger.level = spdlogLevel level := by
    have hmap := hat.2
    rw [hlogger] at hmap
    exact Option.some.inj hmap
  rw [logMessage, hlogger]
  dsimp only
  split_ifs with hle
  · have hreaches : logger.level.toNat ≤ (spdlogLevel level').toNat := by
      rw [hlevel, toNat_spdlogLevel, toNat_spdlogLevel]
      exact Nat.succ_le_succ hle
    rw [spdlog.log_of_le _ _ _ hreaches (hflush ▸ hreaches), List.append_nil]
  · have hbelow : (spdlogLevel level').toNat < logger.level.toNat := by
      rw [hlevel, toNat_spdlogLevel, toNat_spdlogLevel]
      exact Nat.succ_lt_succ (Nat.lt_of_not_le hle)
    rw [spdlog.log_of_lt _ _ _ hbelow, List.append_nil]

end SpdlogLoggerImp

/-! ## The runs of the loggers -/

/-- A message that was passed to a logger, by its name or to the default one, when these calls had
been made. -/
structure Logged (α : Type) where
  name : Option String
  level : LoggerLevel
  text : α
  calls : List LoggerCall

/-- The level a logger ought to be at; the default one stays at the one it is constructed with. -/
def levelBy (calls : List LoggerCall) : Option String → Option LoggerLevel
  | none => some .debug
  | some name => LoggerRun.latestLevel name calls

/-- What ought to be written of it. -/
def Logged.line {α : Type} (format : α → Option String) (m : Logged α) : Option LogLine :=
  if ∀ level ∈ levelBy m.calls m.name, level.toNat ≤ m.level.toNat then
    (format m.text).map (⟨m.level, ·⟩)
  else none

/-- What a logger ought to have written, of the messages that were logged. -/
def logLines {α : Type} (format : α → Option String) (logged : List (Logged α))
    (name : Option String) : List LogLine :=
  (logged.filter (·.name = name)).filterMap (Logged.line format)

/-- A message adds to the lines of its own logger. -/
theorem logLines_concat {α : Type} {format : α → Option String} {logged : List (Logged α)}
    {m : Logged α} {name : Option String} : logLines format (logged ++ [m]) name
      = logLines format logged name ++ if m.name = name then (m.line format).toList else [] := by
  rw [logLines, logLines, List.filter_append, List.filterMap_append]
  congr 1
  by_cases hname : m.name = name
  · cases hline : m.line format <;> simp [hname, hline]
  · simp [hname]

/-- The loggers with their sinks, and the messages that were passed to them. -/
structure LogRun (α : Type) where
  loggers : LoggerRun := {}
  outputs : ℕ → LogOutput := fun _ => {}
  logged : List (Logged α) := []

/-- A call of the manager, or of a logger. -/
inductive LogEvent (α : Type)
  | call (e : LoggerCall)
  /-- A message for the logger of a name, or the default one. -/
  | log (name : Option String) (level : LoggerLevel) (text : α)

namespace LogRun

variable {α : Type} (spdlog : Spdlog) (format : α → Option String) (s : LogRun α)

/-- The logger of a name, or the default one. -/
def target : Option String → Option ℕ
  | none => some s.loggers.manager.getDefaultLogger
  | some name => s.loggers.manager.getLogger name

/-- One event; a message for a logger that there is none of is none. -/
def step (s : LogRun α) : LogEvent α → Option (LogRun α)
  | .call e => some { s with loggers := s.loggers.call e }
  | .log name level text => do
    let r ← s.target name
    let l ← s.loggers.manager.made[r]?
    return { s with
      outputs := Function.update s.outputs r
        ((l.log spdlog (s.outputs r) format level text).getD (s.outputs r))
      logged := s.logged ++ [⟨name, level, text, s.loggers.past⟩] }

/-- The runs of the loggers. -/
def machine : Machine (LogRun α) (LogEvent α) := ⟨step spdlog format⟩

variable {spdlog format s}

/-- Every logger that has been made holds nothing back. -/
def AllFlush (m : LoggerManager) : Prop := ∀ l ∈ m.made, l.Flushes

/-! ## What a call of the manager does to the loggers -/

/-- **A call** finds the logger or throws, registers a new one, or sets a level. -/
theorem manager_call (loggers : LoggerRun) (e : LoggerCall) :
    (loggers.call e).manager = loggers.manager
      ∨ (∃ name l, loggers.manager.loggers[name]? = none ∧ l.Flushes
          ∧ (loggers.call e).manager = { loggers.manager with
              made := loggers.manager.made ++ [l]
              loggers := loggers.manager.loggers.insert name loggers.manager.made.length })
      ∨ ∃ name level, (loggers.call e).manager = loggers.manager.setLoggerLevel name level := by
  cases e with
  | createLogger loggerName level logFilePath config opens =>
    rw [LoggerRun.call]
    split
    next r m hcreate =>
      rcases hname : loggers.manager.loggers[loggerName]? with _ | r₀
      · obtain ⟨b, c, -, rfl, rfl⟩ := LoggerManager.createLogger_eq_some hname hcreate
        have hopened : { c with logger := some c.opened }.Flushes := ⟨c.opened, rfl, rfl⟩
        exact Or.inr (Or.inl ⟨loggerName, _, hname, hopened.setLevel level, rfl⟩)
      · rw [LoggerManager.createLogger, hname] at hcreate
        exact Or.inl (Prod.mk.inj (Option.some.inj hcreate)).2.symm
    next => exact Or.inl rfl
  | setLoggerLevel loggerName level => exact Or.inr (Or.inr ⟨loggerName, level, rfl⟩)

theorem AllFlush.call {loggers : LoggerRun} (h : AllFlush loggers.manager) (e : LoggerCall) :
    AllFlush (loggers.call e).manager := by
  obtain heq | ⟨name, l, -, hl, heq⟩ | ⟨name, level, heq⟩ := manager_call loggers e <;> rw [heq]
  · exact h
  · exact List.forall_mem_append.mpr ⟨h, List.forall_mem_singleton.mpr hl⟩
  · intro l hl
    obtain ⟨r, hr⟩ := List.mem_iff_getElem?.mp hl
    by_cases hreach : loggers.manager.Reaches name r
    · rw [LoggerManager.made_setLoggerLevel hreach] at hr
      obtain ⟨l₀, hl₀, rfl⟩ := Option.map_eq_some_iff.mp hr
      exact (h l₀ (List.mem_of_getElem? hl₀)).setLevel level
    · rw [LoggerManager.made_setLoggerLevel_of_not hreach] at hr
      exact h l (List.mem_of_getElem? hr)

/-- A place that is empty was empty. -/
theorem made_of_call {loggers : LoggerRun} {e : LoggerCall} {r : ℕ}
    (hr : (loggers.call e).manager.made[r]? = none) : loggers.manager.made[r]? = none := by
  obtain heq | ⟨name, l, -, -, heq⟩ | ⟨name, level, heq⟩ := manager_call loggers e
    <;> rw [heq] at hr
  · exact hr
  · rw [List.getElem?_eq_none_iff, List.length_append] at hr
    exact List.getElem?_eq_none_iff.mpr (Nat.le_trans (Nat.le_add_right _ _) hr)
  · by_cases hreach : loggers.manager.Reaches name r
    · rw [LoggerManager.made_setLoggerLevel hreach] at hr
      exact Option.map_eq_none_iff.mp hr
    · rwa [LoggerManager.made_setLoggerLevel_of_not hreach] at hr

/-- A logger that there is stays the one of its name, and one that there was none of is new. -/
theorem target_call (e : LoggerCall) (name : Option String) :
    { s with loggers := s.loggers.call e }.target name = s.target name
      ∨ s.target name = none ∧ { s with loggers := s.loggers.call e }.target name
          = some s.loggers.manager.made.length := by
  cases name with
  | none =>
    refine Or.inl (congrArg some ?_)
    obtain heq | ⟨name, l, -, -, heq⟩ | ⟨name, level, heq⟩ := manager_call s.loggers e
      <;> rw [LoggerManager.getDefaultLogger, heq]
    · rfl
    · rfl
    · exact LoggerManager.defaultLogger_setLoggerLevel
  | some name =>
    obtain heq | ⟨name', l, hfresh, -, heq⟩ | ⟨name', level, heq⟩ := manager_call s.loggers e
      <;> rw [target, target, LoggerManager.getLogger, LoggerManager.getLogger, heq]
    · exact Or.inl rfl
    · by_cases h : name' = name
      · subst h
        exact Or.inr ⟨hfresh, Std.ExtTreeMap.getElem?_insert_self⟩
      · exact Or.inl (by simp [Std.ExtTreeMap.getElem?_insert, h])
    · exact Or.inl (by rw [LoggerManager.loggers_setLoggerLevel])

/-! ## The run -/

/-- Two names are not of one logger. -/
theorem target_inj {name name' : Option String} {r : ℕ} (h : s.loggers.Sound)
    (hr : s.target name = some r) (hr' : s.target name' = some r) : name = name' := by
  cases name with
  | none =>
    obtain rfl := Option.some.inj hr
    cases name' with
    | none => rfl
    | some name' => exact absurd hr' (h.apart name')
  | some name =>
    cases name' with
    | none =>
      obtain rfl := Option.some.inj hr'
      exact absurd hr (h.apart name)
    | some name' => exact congrArg some (h.distinct name name' r hr hr')

/-- **What every event keeps**: a logger has written what it ought to, and what there is no logger
for is not written. -/
structure Written (spdlog : Spdlog) (format : α → Option String) (s : LogRun α) : Prop where
  sound : s.loggers.Sound
  flush : AllFlush s.loggers.manager
  outputs : ∀ name r, s.target name = some r → s.outputs r = ⟨logLines format s.logged name, []⟩
  unmade : ∀ r, s.loggers.manager.made[r]? = none → s.outputs r = {}
  silent : ∀ name, s.target name = none → logLines format s.logged name = []

theorem Written.call (h : Written spdlog format s) (e : LoggerCall) :
    Written spdlog format { s with loggers := s.loggers.call e } where
  sound := h.sound.call e
  flush := h.flush.call e
  outputs name r hr := by
    obtain heq | ⟨hnone, heq⟩ := s.target_call e name
    · exact h.outputs name r (heq ▸ hr)
    · obtain rfl := Option.some.inj (heq.symm.trans hr)
      have hsilent : logLines format s.logged name = [] := h.silent name hnone
      have hunmade := h.unmade _ (List.getElem?_eq_none_iff.mpr le_rfl)
      exact hunmade.trans (congrArg (LogOutput.mk · []) hsilent.symm)
  unmade r hr := h.unmade r (made_of_call hr)
  silent name hnone := by
    obtain heq | ⟨-, heq⟩ := s.target_call e name
    · exact h.silent name (heq ▸ hnone)
    · exact absurd (heq.symm.trans hnone) (Option.some_ne_none _)

/-- A logger is at the level that was set last. -/
theorem exists_levelBy {name : Option String} {r : ℕ} (h : s.loggers.Sound)
    (hr : s.target name = some r) : ∃ level, levelBy s.loggers.past name = some level
      ∧ LoggerRun.LevelAt s.loggers.manager r level := by
  cases name with
  | none =>
    obtain rfl := Option.some.inj hr
    exact ⟨.debug, rfl, h.default⟩
  | some name => exact h.named name r hr

theorem Written.log {name : Option String} {r : ℕ} {l : SpdlogLoggerImp}
    (h : Written spdlog format s) (hr : s.target name = some r)
    (hl : s.loggers.manager.made[r]? = some l) (level : LoggerLevel) (text : α) :
    Written spdlog format { s with
      outputs := Function.update s.outputs r
        ((l.log spdlog (s.outputs r) format level text).getD (s.outputs r))
      logged := s.logged ++ [⟨name, level, text, s.loggers.past⟩] } := by
  obtain ⟨level₀, hlevel₀, l', hl', hat⟩ := exists_levelBy h.sound hr
  obtain rfl : l = l' := Option.some.inj (hl.symm.trans hl')
  -- what is written of the message is what ought to be
  have hwritten : (l.log spdlog (s.outputs r) format level text).getD (s.outputs r)
      = ⟨logLines format s.logged name
          ++ ((⟨name, level, text, s.loggers.past⟩ : Logged α).line format).toList, []⟩ := by
    rw [h.outputs name r hr, SpdlogLoggerImp.log_eq, Logged.line, hlevel₀]
    rcases hformat : format text with _ | message
    · simp
    · have hflush : l.Flushes := h.flush l (List.mem_of_getElem? hl)
      rw [Option.map_some, Option.getD_some, SpdlogLoggerImp.logMessage_eq message hflush hat]
      by_cases hle : level₀.toNat ≤ level.toNat <;> simp [hle]
  refine ⟨h.sound, h.flush, fun name' r' hr' => ?_, fun r' hr' => ?_, fun name' hnone => ?_⟩
  · rw [logLines_concat]
    by_cases hname : name = name'
    · subst hname
      obtain rfl := Option.some.inj (hr.symm.trans hr')
      rw [if_pos rfl]
      exact (Function.update_self _ _ _).trans hwritten
    · have hne : r' ≠ r := fun heq => hname (target_inj h.sound hr (heq ▸ hr'))
      rw [if_neg hname, List.append_nil]
      exact (Function.update_of_ne hne _ _).trans (h.outputs name' r' hr')
  · have hne : r' ≠ r := fun heq => by rw [heq, hl] at hr'; cases hr'
    exact (Function.update_of_ne hne _ _).trans (h.unmade r' hr')
  · have hname : name ≠ name' := fun heq => by
      subst heq
      exact absurd (hr.symm.trans hnone) (Option.some_ne_none r)
    rw [logLines_concat, if_neg hname, List.append_nil]
    exact h.silent name' hnone

theorem Written.step {s' : LogRun α} {e : LogEvent α} (h : Written spdlog format s)
    (hstep : (machine spdlog format).step s e = some s') : Written spdlog format s' := by
  cases e with
  | call e =>
    obtain rfl := Option.some.inj hstep
    exact h.call e
  | log name level text =>
    obtain ⟨r, hr, hstep⟩ := Option.bind_eq_some_iff.mp hstep
    obtain ⟨l, hl, hstep⟩ := Option.bind_eq_some_iff.mp hstep
    obtain rfl := Option.some.inj hstep
    exact h.log hr hl level text

theorem written_initial : Written spdlog format {} where
  sound := LoggerRun.sound_initial
  flush := List.forall_mem_singleton.mpr ⟨_, rfl, rfl⟩
  outputs _ _ _ := rfl
  unmade _ _ := rfl
  silent _ _ := rfl

end LogRun

/-- **What the loggers have written**, in every run: what the logger of a name, or the default one,
has written are the messages that were passed to it at or above its level at the time, in order, and
none of them is held back. -/
theorem messages_written {α : Type} (spdlog : Spdlog) (format : α → Option String)
    (es : List (LogEvent α)) : (LogRun.machine spdlog format).Always
      (fun s => ∀ name r, s.target name = some r →
        s.outputs r = ⟨logLines format s.logged name, []⟩) {} es :=
  (Machine.always_of_step (LogRun.Written spdlog format) (fun _ _ _ h hstep => h.step hstep)
    LogRun.written_initial).mono fun _ h => h.outputs

end MultiplayerServer
