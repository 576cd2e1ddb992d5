import Mathlib.Data.Int.Notation
import Mathlib.Data.Nat.Notation
import MultiplayerServer.Machinery.Asserts

/-!
# Config/Json — a parsed document, and the accesses that assert

What RapidJSON makes of a text, and the member functions of `rapidjson::Value` the loaders call.  An
access asserts that the value is of the kind it is for: `none` is an assertion that fails.

A number is an integer if it was written as one, and is then accessed as an `int` or an `unsigned`
by its value; one that fits no integer type is read as a `double`, which makes no difference here.
A string is handed out as a pointer to its characters, and ends for whoever takes it at the first
NUL.
-/

namespace MultiplayerServer

/-- `rapidjson::Value`; a member is found by the first of its name. -/
inductive Json
  | null
  | bool (b : Bool)
  | int (n : ℤ)
  /-- A number that is not written as an integer, by its text. -/
  | double (text : String)
  | string (s : String)
  | array (elements : List Json)
  | object (members : List (String × Json))

namespace Json

variable (j : Json) (key : String)

/-! ## Kinds -/

/-- `IsObject` -/
def isObject : Json → Bool
  | object _ => true
  | _ => false

/-- `IsArray` -/
def isArray : Json → Bool
  | array _ => true
  | _ => false

/-- `IsString` -/
def isString : Json → Bool
  | string _ => true
  | _ => false

/-- `IsBool` -/
def isBool : Json → Bool
  | bool _ => true
  | _ => false

/-- `IsNumber` -/
def isNumber : Json → Bool
  | int _ => true
  | double _ => true
  | _ => false

/-- `IsInt` -/
def isInt : Json → Bool
  | int n => -0x80000000 ≤ n ∧ n ≤ 0x7fffffff
  | _ => false

/-- `IsUint` -/
def isUint : Json → Bool
  | int n => 0 ≤ n ∧ n ≤ 0xffffffff
  | _ => false

/-! ## Accesses -/

/-- `FindMember` -/
def findMember : Json → String → Option Json
  | object members, key => (members.find? fun m => m.1 = key).map Prod.snd
  | _, _ => none

/-- `HasMember`, which asserts `IsObject`. -/
def hasMember : Option Bool := if j.isObject then some (j.findMember key).isSome else none

/-- `operator[]`, which asserts that there is such a member. -/
def member : Option Json := j.findMember key

/-- `j.HasMember(key) && j[key].Is…()` -/
def hasMemberOf (kind : Json → Bool) : Option Bool := do
  if ← j.hasMember key then return kind (← j.member key) else return false

/-- What a C string is taken to end at. -/
def cString (s : String) : String := String.ofList (s.toList.takeWhile (· ≠ Char.ofNat 0))

/-- `GetArray`, as the elements it is walked over. -/
def getArray : Json → Option (List Json)
  | array elements => some elements
  | _ => none

/-- `GetString`, as the `std::string` that is made of it. -/
def getString : Json → Option String
  | string s => some (cString s)
  | _ => none

/-- `GetInt` -/
def getInt : Json → Option ℤ
  | int n => if (int n).isInt then some n else none
  | _ => none

/-- `GetUint` -/
def getUint : Json → Option ℕ
  | int n => if (int n).isUint then some n.toNat else none
  | _ => none

/-- `GetBool` -/
def getBool : Json → Option Bool
  | bool b => some b
  | _ => none

/-- The elements of an array. -/
def elements : Json → List Json
  | array elements => elements
  | _ => []

/-! ## What the accesses assert -/

variable {j key}

theorem findMember_of_not (h : ¬ j.isObject = true) : j.findMember key = none := by
  cases j <;> first | rfl | exact absurd rfl h

theorem hasMember_eq (h : j.isObject = true) :
    j.hasMember key = some (j.findMember key).isSome := if_pos h

/-- **A member that is looked for** is accessed where it is found. -/
theorem ifMember_eq {α : Type*} {f : Json → Option α} {x : α} (h : j.isObject = true) :
    ((j.hasMember key).bind fun has => if has = true then (j.member key).bind f else some x)
      = (j.findMember key).elim (some x) f := by
  rw [hasMember_eq h, member]
  rcases j.findMember key with _ | value <;> rfl

/-- …so what comes of it comes of the member, or was given where there is none. -/
theorem ifMember_eq_some {α : Type*} {f : Json → Option α} {x y : α} (h : j.isObject = true) :
    ((j.hasMember key).bind fun has => if has = true then (j.member key).bind f else some x)
      = some y ↔ j.findMember key = none ∧ x = y
        ∨ ∃ value, j.findMember key = some value ∧ f value = some y := by
  rw [ifMember_eq h]
  rcases j.findMember key with _ | value <;> simp

theorem isSome_ifMember {α : Type*} {f : Json → Option α} {x : α} (h : j.isObject = true) :
    ((j.hasMember key).bind fun has =>
      if has = true then (j.member key).bind f else some x).isSome
      ↔ ∀ value ∈ j.findMember key, (f value).isSome := by
  rw [ifMember_eq h]
  rcases j.findMember key with _ | value <;> simp

/-- **A member whose kind is asked for** is accessed where it is found to be of that kind. -/
theorem ifMemberOf_eq {α : Type*} {f : Json → Option α} {x : α} {kind : Json → Bool}
    (h : j.isObject = true) :
    ((j.hasMemberOf key kind).bind fun has =>
      if has = true then (j.member key).bind f else some x)
      = ((j.findMember key).filter kind).elim (some x) f := by
  rw [hasMemberOf, hasMember_eq h, member]
  rcases j.findMember key with _ | value
  · rfl
  · rcases hkind : kind value <;> simp [hkind, Option.filter]

theorem ifMemberOf_eq_some {α : Type*} {f : Json → Option α} {x y : α} {kind : Json → Bool}
    (h : j.isObject = true) :
    ((j.hasMemberOf key kind).bind fun has =>
      if has = true then (j.member key).bind f else some x) = some y
        ↔ (j.findMember key).filter kind = none ∧ x = y
          ∨ ∃ value, (j.findMember key).filter kind = some value ∧ f value = some y := by
  rw [ifMemberOf_eq h]
  rcases (j.findMember key).filter kind with _ | value <;> simp

/-- A member is asked for its kind only of an object. -/
theorem isObject_of_hasMemberOf {α : Type*} {f : Bool → Option α} {y : α} {kind : Json → Bool}
    (h : (j.hasMemberOf key kind).bind f = some y) : j.isObject = true := by
  by_contra hobject
  simp [hasMemberOf, hasMember, hobject] at h

theorem isSome_ifMemberOf {α : Type*} {f : Json → Option α} {x : α} {kind : Json → Bool}
    (h : j.isObject = true) :
    ((j.hasMemberOf key kind).bind fun has =>
      if has = true then (j.member key).bind f else some x).isSome
      ↔ ∀ value ∈ j.findMember key, kind value = true → (f value).isSome := by
  rw [ifMemberOf_eq h]
  rcases j.findMember key with _ | value
  · simp
  · rcases hkind : kind value <;> simp [hkind, Option.filter]

/-- **An array** is walked over where it is one. -/
theorem isSome_getArray_bind {α : Type*} {f : List Json → Option α} :
    (j.getArray.bind f).isSome ↔ j.isArray = true ∧ (f j.elements).isSome := by
  cases j with
  | array elements => exact (and_iff_right rfl).symm
  | _ => exact iff_of_false nofun (nofun ∘ And.left)

theorem elements_of_getArray {l : List Json} (h : j.getArray = some l) : j.elements = l := by
  cases j with
  | array elements => exact Option.some.inj h
  | _ => exact absurd h nofun

theorem isSome_getString : j.getString.isSome = j.isString := by
  cases j <;> rfl

theorem isSome_getInt : j.getInt.isSome = j.isInt := by
  cases j with
  | int n => rw [getInt]; cases (int n).isInt <;> rfl
  | _ => rfl

theorem isSome_getUint : j.getUint.isSome = j.isUint := by
  cases j with
  | int n => rw [getUint]; cases (int n).isUint <;> rfl
  | _ => rfl

theorem isSome_getBool : j.getBool.isSome = j.isBool := by
  cases j <;> rfl

end Json

end MultiplayerServer
