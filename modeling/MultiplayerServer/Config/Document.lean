import MultiplayerServer.Config.Json
import MultiplayerServer.Config.PropertyTree

/-!
# Config/Document — a text, and what each back end parses it as

A JSON text up to layout, and the two trees that are made of it.  A parser is what it makes of each
kind of value (`Handler`): `rapidJson` keeps a value as what it is, `propertyTree` keeps a scalar as
its text.

* `findMember_parse`, `find_parse` — a member is found in either tree where it is found in the
  document;
* `asInt_data`, `asSize_data`, `asBool_data` — a scalar is read back from its text.
-/

namespace MultiplayerServer

open Machinery

/-- A JSON text, up to layout. -/
inductive Document
  | null
  | bool (b : Bool)
  /-- A number that is written as an integer: `-0` is not written as `0` is. -/
  | integer (minus : Bool) (n : ℕ)
  /-- A number that is not, by its text. -/
  | double (text : String)
  | string (s : String)
  | array (elements : List Document)
  | object (members : List (String × Document))

namespace Document

/-- The first member of a name. -/
def findMember : Document → String → Option Document
  | object members, key => (members.find? fun m => m.1 = key).map Prod.snd
  | _, _ => none

/-- The elements of an array. -/
def elements : Document → List Document
  | array elements => elements
  | _ => []

/-- A value that is a string. -/
def asString : Document → Option String
  | string s => some s
  | _ => none

/-- A value that is written as an integer. -/
def asInteger : Document → Option ℤ
  | integer minus n => some (signed minus n)
  | _ => none

end Document

/-- What a parser makes of each kind of value. -/
structure Handler (α : Type) where
  null : α
  bool : Bool → α
  integer : Bool → ℕ → α
  double : String → α
  string : String → α
  array : List α → α
  object : List (String × α) → α

namespace Handler

variable {α : Type} (handler : Handler α)

mutual

/-- What is made of a document. -/
def parse : Document → α
  | .null => handler.null
  | .bool b => handler.bool b
  | .integer minus n => handler.integer minus n
  | .double text => handler.double text
  | .string s => handler.string s
  | .array elements => handler.array (parseElements elements)
  | .object members => handler.object (parseMembers members)

def parseElements : List Document → List α
  | [] => []
  | doc :: elements => parse doc :: parseElements elements

def parseMembers : List (String × Document) → List (String × α)
  | [] => []
  | (name, doc) :: members => (name, parse doc) :: parseMembers members

end

theorem parseElements_eq (elements : List Document) :
    handler.parseElements elements = elements.map handler.parse := by
  induction elements with
  | nil => rfl
  | cons doc elements ih => rw [parseElements, ih, List.map_cons]

theorem parseMembers_eq (members : List (String × Document)) :
    handler.parseMembers members = members.map fun m => (m.1, handler.parse m.2) := by
  induction members with
  | nil => rfl
  | cons m members ih => rw [parseMembers, ih, List.map_cons]

/-- A member of what is made of a list of members. -/
theorem find_parseMembers (members : List (String × Document)) (key : String) :
    ((handler.parseMembers members).find? fun m => m.1 = key).map Prod.snd
      = ((members.find? fun m => m.1 = key).map Prod.snd).map handler.parse := by
  rw [parseMembers_eq, List.find?_map, Option.map_map, Option.map_map]
  rfl

end Handler

/-- `rapidjson::Document::Parse` -/
def rapidJson : Handler Json where
  null := .null
  bool := .bool
  integer minus n := .int (signed minus n)
  double := .double
  string := .string
  array := .array
  object := .object

/-- `boost::property_tree::read_json`; the elements of an array have no name. -/
def propertyTree : Handler Ptree where
  null := .node "null" []
  bool b := .node (if b then "true" else "false") []
  integer minus n := .node (String.ofList (literal minus n)) []
  double text := .node text []
  string s := .node s []
  array elements := .node "" (elements.map fun t => ("", t))
  object members := .node "" members

variable {doc : Document} {key : String}

theorem findMember_parse :
    (rapidJson.parse doc).findMember key = (doc.findMember key).map rapidJson.parse := by
  cases doc with
  | object members => exact rapidJson.find_parseMembers members key
  | _ => rfl

/-- A member that is found is one of an object. -/
theorem isObject_of_findMember {value : Document} (h : doc.findMember key = some value) :
    (rapidJson.parse doc).isObject := by
  cases doc with
  | object members => rfl
  | _ => exact absurd h nofun

@[simp] theorem rapidJson_integer {minus : Bool} {n : ℕ} :
    rapidJson.parse (.integer minus n) = .int (signed minus n) := rfl

@[simp] theorem rapidJson_string {s : String} : rapidJson.parse (.string s) = .string s := rfl

theorem findMember_of_findMember {value : Document} (h : doc.findMember key = some value) :
    (rapidJson.parse doc).findMember key = some (rapidJson.parse value) :=
  findMember_parse.trans (congrArg _ h)

theorem find_parse {members : List (String × Document)} :
    (propertyTree.parse (.object members)).find key
      = ((Document.object members).findMember key).map propertyTree.parse :=
  propertyTree.find_parseMembers members key

theorem find_of_findMember {value : Document} (h : doc.findMember key = some value) :
    (propertyTree.parse doc).find key = some (propertyTree.parse value) := by
  cases doc with
  | object members => exact find_parse.trans (congrArg _ h)
  | _ => exact absurd h nofun

theorem elements_parse {elements : List Document} :
    (rapidJson.parse (.array elements)).getArray = some (elements.map rapidJson.parse) :=
  congrArg some (rapidJson.parseElements_eq elements)

/-- What is walked over in a tree. -/
theorem children_parse {elements : List Document} :
    (propertyTree.parse (.array elements)).children
      = elements.map fun doc => ("", propertyTree.parse doc) := by
  have hchildren : (propertyTree.parse (.array elements)).children
      = (propertyTree.parseElements elements).map fun t => ("", t) := rfl
  rw [hchildren, Handler.parseElements_eq, List.map_map]
  rfl

/-! ## A scalar, read from its text -/

variable {minus : Bool} {m : ℕ}

theorem data_integer : (propertyTree.parse (.integer minus m)).data.toList = literal minus m :=
  String.toList_ofList

theorem asInt_data (h : IsInt32 (signed minus m)) :
    Ptree.asInt (propertyTree.parse (.integer minus m)).data = some (signed minus m) := by
  rw [Ptree.asInt, data_integer, extracted_literal, Option.filter_some]
  exact if_pos (decide_eq_true h)

theorem asSize_data {w : ℕ} (h : 0 ≤ signed minus m) (hlt : signed minus m < 2 ^ w) :
    Ptree.asSize w (propertyTree.parse (.integer minus m)).data
      = some (signed minus m).toNat := by
  have habs : (signed minus m).natAbs < 2 ^ w := by
    rw [← Int.ofNat_lt, Int.natAbs_of_nonneg h]
    exact_mod_cast hlt
  rw [Ptree.asSize, data_integer, extracted_literal, Option.filter_some,
    if_pos (decide_eq_true habs), Option.map_some, Int.emod_eq_of_lt h hlt]

theorem asBool_data (b : Bool) : Ptree.asBool (propertyTree.parse (.bool b)).data = some b := by
  cases b <;> decide

end MultiplayerServer
