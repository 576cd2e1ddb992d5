import MultiplayerServer.Config.Reloading

/-!
# Config/LastGiven — what is read after any number of loads

A load stores what its document gives, and leaves the rest as it was: a section that a document does
not give is still the one of the last that did.

* `readers_exec` — what each reader gives is what the last document gave, of those that gave it.
-/

namespace MultiplayerServer

open Machinery

namespace GameConfig

/-- What the last document gave, of those that gave anything. -/
def lastGiven {α : Type} (given : Json → Option α) (docs : List (Option Json)) : Option α :=
  docs.reverse.findSome? fun doc => doc.bind given

/-- The services of a document: they are come to where the login section is given. -/
def servicesGiven (tree : Json) : Option (List GameServiceConfig) :=
  (loginSection tree).bind fun _ => servicesSection tree

/-- The logger of a name, the last one of those in a document. -/
def loggerGiven (name : String) (tree : Json) : Option LoggerConfig :=
  (loggers tree).reverse.findSome? fun logger =>
    if loggerName logger = some name then loggerData logger else none

variable {g g' : GameConfig} {tree : Json} {key name : String}

/-! ## What a document gives under each key -/

/-- No logger is stored under the key of a section. -/
theorem lastEntry_loggers (hkey : key ∈ sectionKeys) :
    lastEntry key ((loggers tree).filterMap loggerEntry) = none := by
  refine lastEntry_eq_none fun p hp heq => ?_
  obtain ⟨logger, -, hentry⟩ := List.mem_filterMap.mp hp
  obtain ⟨name, -, hentry⟩ := Option.bind_eq_some_iff.mp hentry
  obtain ⟨data, -, hentry⟩ := Option.bind_eq_some_iff.mp hentry
  obtain rfl := Option.some.inj hentry
  exact logConfigStr_append_notMem_sectionKeys (heq ▸ hkey)

theorem lastEntries_eq : lastEntries tree
    = (loginSection tree).toList.map (fun login => (loginConfigStr, .login login))
      ++ (servicesGiven tree).toList.map
        fun services => (servicesConfigStr, .services services) := by
  rw [lastEntries, servicesGiven]
  cases loginSection tree <;> rfl

/-- **Each key** is that of one section, or of the loggers. -/
theorem lastEntry_entries : lastEntry key (entries tree)
    = ((lastEntry key ((servicesGiven tree).toList.map fun services =>
        (servicesConfigStr, .services services))).or
      (lastEntry key ((loginSection tree).toList.map fun login =>
        (loginConfigStr, .login login)))).or
      ((lastEntry key ((loggers tree).filterMap loggerEntry)).or
        (lastEntry key ((serverSection tree).toList.map fun server =>
          (serverConfigStr, .server server)))) := by
  rw [entries, firstEntries, lastEntries_eq, lastEntry_append, lastEntry_append, lastEntry_append]

theorem lastEntry_server :
    lastEntry serverConfigStr (entries tree) = (serverSection tree).map .server := by
  rw [lastEntry_entries, lastEntry_toList_ne (by decide), lastEntry_toList_ne (by decide),
    lastEntry_loggers (by decide), lastEntry_toList]
  rfl

theorem lastEntry_login :
    lastEntry loginConfigStr (entries tree) = (loginSection tree).map .login := by
  rw [lastEntry_entries, lastEntry_toList_ne (by decide), lastEntry_toList,
    lastEntry_loggers (by decide), lastEntry_toList_ne (by decide), Option.none_or, Option.none_or,
    Option.or_none]

theorem lastEntry_services :
    lastEntry servicesConfigStr (entries tree) = (servicesGiven tree).map .services := by
  rw [lastEntry_entries, lastEntry_toList, lastEntry_toList_ne (by decide),
    lastEntry_loggers (by decide), lastEntry_toList_ne (by decide), Option.none_or, Option.or_none,
    Option.or_none]

/-- A logger, by its name. -/
theorem loggerEntry_bind {logger : Json} : ((loggerEntry logger).bind fun p =>
      if p.1 = logConfigStr ++ name then some p.2 else none)
    = (if loggerName logger = some name then loggerData logger else none).map .logger := by
  rw [loggerEntry]
  rcases loggerName logger with _ | name'
  · rfl
  by_cases heq : name' = name
  · cases loggerData logger <;> simp [heq]
  · have hkey : logConfigStr ++ name' ≠ logConfigStr ++ name :=
      fun h => heq (logConfigStr_append_injective h)
    cases loggerData logger <;> simp [heq, hkey]

theorem lastEntry_logger : lastEntry (logConfigStr ++ name) (entries tree)
    = (loggerGiven name tree).map .logger := by
  have hsection {key : String} (hkey : key ∈ sectionKeys) : key ≠ logConfigStr ++ name :=
    fun h => logConfigStr_append_notMem_sectionKeys (h ▸ hkey)
  rw [lastEntry_entries, lastEntry_toList_ne (hsection (by decide)),
    lastEntry_toList_ne (hsection (by decide)), lastEntry_toList_ne (hsection (by decide)),
    Option.none_or, Option.none_or, Option.or_none, lastEntry_filterMap, loggerGiven,
    List.map_findSome?]
  exact congrArg (List.findSome? · _) (funext fun _ => loggerEntry_bind)

/-! ## What the readers give -/

/-- **A reader of a section** gives what the document gives, and else what it gave before. -/
theorem get_loadConfig {α : Type} {cast : ConfigValue → Option α} {make : α → ConfigValue}
    {given : Json → Option α} (hcast : ∀ a, cast (make a) = some a)
    (hgiven : ∀ tree, lastEntry key (entries tree) = (given tree).map make)
    {doc : Option Json} (hload : g.loadConfig doc = some g') :
    g'.get key cast = (doc.bind given).or (g.get key cast) := by
  cases doc with
  | none => rw [Option.some.inj hload]; rfl
  | some tree =>
    rw [get, loadConfig_eq hload, store, getElem?_insertMany_lastEntry, hgiven, Option.bind_some]
    cases given tree with
    | none => rfl
    | some a => exact hcast a

end GameConfig

open GameConfig

/-- **What is read after any number of loads** is, of each section, what the last document gave of
those that gave it; and likewise under the name of each logger.  There is nothing else. -/
theorem readers_exec {docs : List (Option Json)} {g : GameConfig}
    (hex : GameConfig.machine.exec {} docs = some g) :
    g.getServerIpPort = lastGiven serverSection docs
      ∧ g.loginEntityConfig = lastGiven loginSection docs
      ∧ g.gameServiceConfigs = lastGiven servicesGiven docs
      ∧ (∀ name, g.config[logConfigStr ++ name]?
        = (lastGiven (loggerGiven name) docs).map .logger)
      ∧ ∀ key ∈ g.config, key ∈ sectionKeys ∨ ∃ name, key = logConfigStr ++ name := by
  have hread {α : Type} (cast : ConfigValue → Option α) (make : α → ConfigValue) {key : String}
      {given : Json → Option α} (hcast : ∀ a, cast (make a) = some a)
      (hgiven : ∀ tree, lastEntry key (entries tree) = (given tree).map make) :
      g.get key cast = lastGiven given docs :=
    (Machine.read_exec (fun _ _ _ => get_loadConfig hcast hgiven) hex).trans Option.or_none
  refine ⟨hread _ .server (fun _ => rfl) fun _ => lastEntry_server,
    hread _ .login (fun _ => rfl) fun _ => lastEntry_login,
    hread _ .services (fun _ => rfl) fun _ => lastEntry_services, fun name => ?_,
    fun _ => ((always_wellTyped docs).last hex).mem_config⟩
  have hlogger : g.get (logConfigStr ++ name) some
      = lastGiven (fun tree => (loggerGiven name tree).map .logger) docs :=
    hread some id (fun _ => rfl) fun _ => lastEntry_logger.trans Option.map_id_apply.symm
  rw [GameConfig.get, Option.bind_fun_some] at hlogger
  rw [hlogger, lastGiven, lastGiven, List.map_findSome?]
  congr 1
  funext doc
  cases doc <;> rfl

/-- The second document gives no login section, and so no services: those of the first one stay. -/
theorem readers_exec_two :
    let docs := [some (document ["main"]), some (.object [("server", .object [("ip",
      .string "::1"), ("port", .int 1), ("concurrency", .int 4)])])]
    ∃ g, GameConfig.machine.exec {} docs = some g
      ∧ g.getServerIpPort = lastGiven serverSection docs
      ∧ g.loginEntityConfig = lastGiven loginSection docs
      ∧ g.gameServiceConfigs = lastGiven servicesGiven docs
      ∧ (∀ name, g.config[logConfigStr ++ name]?
        = (lastGiven (loggerGiven name) docs).map .logger)
      ∧ ∀ key ∈ g.config, key ∈ sectionKeys ∨ ∃ name, key = logConfigStr ++ name :=
  ⟨_, rfl, readers_exec rfl⟩

end MultiplayerServer
