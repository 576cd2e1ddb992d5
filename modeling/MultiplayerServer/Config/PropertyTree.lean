import Mathlib.Algebra.Order.Ring.Int
import MultiplayerServer.Config.Sections
import MultiplayerServer.Machinery.Decimal

/-!
# Config/PropertyTree — the loaders of the other build

`load_server_config`, `load_logger_config` and `load_single_logger_config` as they are built with
`boost::property_tree`: a tree that has every scalar as its text, and accesses that read the text as
the type they ask for.  Nothing is asserted here: what cannot be read is an exception, and what has
been stored before it stays.

* `Boost.loadServerConfig_eq`, `Boost.emplace_of_find` — what is stored of a tree that can be read.
-/

namespace MultiplayerServer

open Machinery

/-- `boost::property_tree::ptree` -/
inductive Ptree
  | node (data : String) (children : List (String × Ptree))

namespace Ptree

/-! ## What a text is read as -/

/-- A word that is read for a `bool`, and what is left after it. -/
def boolalpha (s : List Char) : Option Bool × List Char :=
  if "true".toList.isPrefixOf s then (some true, s.drop 4)
  else if "false".toList.isPrefixOf s then (some false, s.drop 5)
  else (none, s)

/-- A `std::string` -/
def asString (text : String) : Option String := some text

/-- An `int` -/
def asInt (text : String) : Option ℤ := (extracted text.toList).filter fun n => IsInt32 n

/-- A `size_t` of `w` bits, which goes round where it is read with a sign. -/
def asSize (w : ℕ) (text : String) : Option ℕ :=
  ((extracted text.toList).filter fun n => n.natAbs < 2 ^ w).map fun n => (n % 2 ^ w).toNat

/-- A `bool`: a number, and where that is neither 0 nor 1, whatever word comes next. -/
def asBool (text : String) : Option Bool :=
  let s := text.toList
  let read := match strtol s with
    | some 0 => (some false, strtolRest s)
    | some 1 => (some true, strtolRest s)
    | _ => boolalpha ((strtolRest s).dropWhile isSpace)
  if read.2.all isSpace then read.1 else none

/-! ## Accesses -/

variable (t : Ptree) (key : String)

def data : Ptree → String
  | node data _ => data

def children : Ptree → List (String × Ptree)
  | node _ children => children

/-- `find`, and `get_child` of a name that has no dot: the first child of that name. -/
def find : Option Ptree := (t.children.find? fun c => c.1 = key).map Prod.snd

/-- `get<T>`, which throws where there is no such child, or its text cannot be read. -/
def get {α : Type*} (read : String → Option α) : Option α :=
  (t.find key).bind fun child => read child.data

end Ptree

namespace GameConfig.Boost

/-! ## The loaders -/

/-- An access made while a configuration is loaded; where it throws, what is stored stays. -/
def throwing {α : Type*} (g : GameConfig) (access : Option α) : Except GameConfig α :=
  access.elim (.error g) .ok

variable (w : ℕ) (g : GameConfig) (tree : Ptree)

/-- `load_server_config` -/
def loadServerConfig : Except GameConfig GameConfig := do
  if (tree.find serverConfigStr).isSome then
    let server ← throwing g (tree.find serverConfigStr)
    if (server.find "ip").isSome then
      let ip ← throwing g (server.get "ip" Ptree.asString)
      if (server.find "port").isSome then
        let port ← throwing g (server.get "port" Ptree.asInt)
        if (server.find "concurrency").isSome then
          let concurrency ← throwing g (server.get "concurrency" Ptree.asInt)
          return ⟨g.config.insert serverConfigStr (.server ⟨ip, port, concurrency⟩)⟩
        else return g
      else return g
    else return g
  else return g

/-- `if (logger.find(key) != logger.not_found()) data_ptr->emplace(key, …)` -/
def emplace (read : String → Option LoggerValue) (logger : Ptree) (data : LoggerConfig)
    (key : String) : Option LoggerConfig := do
  if (logger.find key).isSome then
    return data.insertIfNew key (← logger.get key read)
  else return data

/-- …of a `bool`, -/
def emplaceBool : Ptree → LoggerConfig → String → Option LoggerConfig :=
  emplace fun text => (Ptree.asBool text).map .bool

/-- …of a string, -/
def emplaceString : Ptree → LoggerConfig → String → Option LoggerConfig :=
  emplace fun text => (Ptree.asString text).map .string

/-- …and of a size. -/
def emplaceSize : Ptree → LoggerConfig → String → Option LoggerConfig :=
  emplace fun text => (Ptree.asSize w text).map .size

/-- The members of a logger's configuration, in the order they are read. -/
def loggerData (logger : Ptree) : Option LoggerConfig := do
  let data ← ["log_time", "log_thread", "log_level", "log_source", "log_line",
    "log_funcname"].foldlM (emplaceBool logger) ∅
  let data ← ["log_tag_name", "level"].foldlM (emplaceString logger) data
  let data ← ["log_file_max_size", "log_file_max_number"].foldlM (emplaceSize w logger) data
  ["log_file_name", "log_file_dir", "log_file_extension"].foldlM (emplaceString logger) data

/-- `load_single_logger_config` -/
def loadSingleLoggerConfig (g : GameConfig) (logger : Ptree) : Except GameConfig GameConfig := do
  if (logger.find "name").isSome then
    let name ← throwing g (logger.get "name" Ptree.asString)
    if name = "" then return g
    else
      let data ← throwing g (loggerData w logger)
      return ⟨g.config.insert (logConfigStr ++ name) (.logger data)⟩
  else return g

/-- `load_logger_config` -/
def loadLoggerConfig : Except GameConfig GameConfig := do
  if (tree.find logConfigStr).isSome then
    let loggers ← throwing g (tree.find logConfigStr)
    loggers.children.foldlM (fun g logger => loadSingleLoggerConfig w g logger.2) g
  else return g

/-! ## What is stored of a tree that can be read -/

variable {w g tree} {logger : Ptree}

/-- **A child that is looked for** is accessed where it is found. -/
theorem ifFound_eq {α : Type} {t : Ptree} {key : String} {f : Ptree → Except GameConfig α}
    {x : Except GameConfig α} :
    (if (t.find key).isSome then throwing g (t.find key) >>= f else x)
      = (t.find key).elim x f := by
  rcases t.find key with _ | child <;> rfl

/-- …and read where its text is what is asked for. -/
theorem ifRead_eq {α β : Type} {t : Ptree} {key : String} {read : String → Option α}
    {f : α → Except GameConfig β} {x : Except GameConfig β} :
    (if (t.find key).isSome then throwing g (t.get key read) >>= f else x)
      = (t.find key).elim x fun child => throwing g (read child.data) >>= f := by
  rw [Ptree.get]
  rcases t.find key with _ | child <;> rfl

theorem loadServerConfig_eq {server ip port concurrency : Ptree} {address : String}
    {number count : ℤ} (hserver : tree.find serverConfigStr = some server)
    (hip : server.find "ip" = some ip) (hport : server.find "port" = some port)
    (hconcurrency : server.find "concurrency" = some concurrency) (haddress : ip.data = address)
    (hnumber : Ptree.asInt port.data = some number)
    (hcount : Ptree.asInt concurrency.data = some count) : loadServerConfig g tree
      = .ok (g.store [(serverConfigStr, .server ⟨address, number, count⟩)]) := by
  rw [store_singleton, ← haddress]
  refine ifFound_eq.trans ?_
  rw [hserver, Option.elim_some]
  refine ifRead_eq.trans ?_
  rw [hip, Option.elim_some]
  refine ifRead_eq.trans ?_
  rw [hport, Option.elim_some, hnumber]
  refine ifRead_eq.trans ?_
  rw [hconcurrency, Option.elim_some, hcount]
  rfl

/-- **An `emplace`** of a child that can be read, -/
theorem emplace_of_find {read : String → Option LoggerValue} {data : LoggerConfig} {key : String}
    {child : Ptree} {value : LoggerValue} (h : logger.find key = some child)
    (hread : read child.data = some value) :
    emplace read logger data key = some (data.insertIfNew key value) := by
  simp [emplace, Ptree.get, h, hread]

/-- …and of none. -/
theorem emplace_of_not {read : String → Option LoggerValue} {data : LoggerConfig} {key : String}
    (h : logger.find key = none) : emplace read logger data key = some data := by
  simp [emplace, h]

end GameConfig.Boost

end MultiplayerServer
