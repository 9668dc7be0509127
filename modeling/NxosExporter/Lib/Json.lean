import Mathlib.Data.Rat.Defs
import NxosExporter.Lib.Prog

/-!
# JSON values as `nlohmann/json` 3.11.3 reads them

The value type, its type tests and its accessors, each with the error it raises. Three accessors read a
member by key and differ in what a missing key does: `at` raises `out_of_range.403`, the non-const
`operator[]` inserts null, and the const `operator[]` is undefined. A number is held in one of three
forms, as the parser leaves it, and a float is the rational it denotes.
-/

namespace Nlohmann

open Effectful

inductive Json where
  | null
  | boolean (value : Bool)
  | numberInteger (value : Int)
  | numberUnsigned (value : Nat)
  | numberFloat (value : ℚ)
  | string (value : String)
  | array (items : List Json)
  | object (members : List (String × Json))

inductive ValueType where
  | null
  | boolean
  | numberInteger
  | numberUnsigned
  | numberFloat
  | string
  | array
  | object
  deriving DecidableEq, Repr

inductive JsonError where
  | parseError (what : String)
  | typeError (id : Nat)
  | outOfRange (id : Nat)
  deriving DecidableEq, Repr

namespace Json

def type : Json → ValueType
  | null => .null
  | boolean _ => .boolean
  | numberInteger _ => .numberInteger
  | numberUnsigned _ => .numberUnsigned
  | numberFloat _ => .numberFloat
  | string _ => .string
  | array _ => .array
  | object _ => .object

def isArray (value : Json) : Bool := value.type = .array

def isObject (value : Json) : Bool := value.type = .object

def find? (value : Json) (key : String) : Option Json :=
  match value with
  | object members => members.lookup key
  | _ => none

def contains (value : Json) (key : String) : Bool := (value.find? key).isSome

def getAt (value : Json) (key : String) : Outcome JsonError Json :=
  match value with
  | object members =>
      match members.lookup key with
      | some found => .ok found
      | none => .throw (.outOfRange 403)
  | _ => .throw (.typeError 304)

/-- `operator[](key)` on a const value: a key that is not there is undefined. -/
def constIndex (value : Json) (key : String) : Outcome JsonError Json :=
  match value with
  | object members => .deref (members.lookup key)
  | _ => .throw (.typeError 305)

/-- `operator[](key)` on a mutable value, read as the value it refers to: null becomes an object, and
a key that is not there is inserted with null. -/
def index (value : Json) (key : String) : Outcome JsonError Json :=
  match value with
  | null => .ok null
  | object members => .ok ((members.lookup key).getD null)
  | _ => .throw (.typeError 305)

/-- `operator[](i)` on a mutable value: null becomes an array, and an array is filled up with nulls. -/
def elementAt (value : Json) (i : Nat) : Outcome JsonError Json :=
  match value with
  | null => .ok null
  | array items => .ok (items[i]?.getD null)
  | _ => .throw (.typeError 305)

/-- `operator[](key) = member`: null becomes an object, and a member that is there already is replaced. -/
def assignAt (value : Json) (key : String) (member : Json) : Outcome JsonError Json :=
  match value with
  | null => .ok (object [(key, member)])
  | object members => .ok (object ((key, member) :: members.filter fun other => other.1 ≠ key))
  | _ => .throw (.typeError 305)

def size : Json → Nat
  | null => 0
  | array items => items.length
  | object members => members.length
  | _ => 1

/-- An array of two elements led by a string, which an initializer list takes for a member of an object. -/
def member? : Json → Option (String × Json)
  | array [string key, value] => some (key, value)
  | _ => none

/-- Brace initialisation from one value: GCC takes the initializer-list constructor, which makes an object of
a list of members and an array of any other list. -/
def braceInit (value : Json) : Json :=
  match value.member? with
  | some member => object [member]
  | none => array [value]

/-- What brace initialisation comes to, less the array that it puts around a value. -/
def deduced (value : Json) : Json :=
  match value.member? with
  | some member => object [member]
  | none => value

/-- A vector is written element by element. -/
def ofVector {χ α : Type} (encode : α → Outcome χ Json) (items : List α) : Outcome χ Json :=
  array <$> items.mapM encode

def getString : Json → Outcome JsonError String
  | string value => .ok value
  | _ => .throw (.typeError 302)

/-- `get<int32_t>()`: integers are narrowed, a float is truncated, and a float that does not fit is
undefined. -/
def getInt32 : Json → Outcome JsonError Int32
  | boolean value => .ok (if value then 1 else 0)
  | numberInteger value => .ok (Int32.ofInt value)
  | numberUnsigned value => .ok (Int32.ofNat value)
  | numberFloat value =>
      let truncated := value.num.tdiv value.den
      if Int32.minValue.toInt ≤ truncated ∧ truncated ≤ Int32.maxValue.toInt then
        .ok (Int32.ofInt truncated)
      else
        .undefined
  | _ => .throw (.typeError 302)

def getVector {α : Type} (decode : Json → Outcome JsonError α) : Json → Outcome JsonError (List α)
  | array items => items.mapM decode
  | _ => .throw (.typeError 302)

theorem braceInit_of_member {value : Json} {member : String × Json} (hmember : value.member? = some member) :
    value.braceInit = object [member] := by
  rw [braceInit, hmember]

theorem braceInit_of_not_member {value : Json} (hmember : value.member? = none) :
    value.braceInit = array [value] := by
  rw [braceInit, hmember]

theorem deduced_of_member {value : Json} {member : String × Json} (hmember : value.member? = some member) :
    value.deduced = object [member] := by
  rw [deduced, hmember]

theorem deduced_of_not_member {value : Json} (hmember : value.member? = none) : value.deduced = value := by
  rw [deduced, hmember]

@[simp]
theorem deduced_object (members : List (String × Json)) : (object members).deduced = object members := rfl

theorem member?_cons_of_ne_string {first : Json} (hfirst : first.type ≠ .string) (rest : List Json) :
    (array (first :: rest)).member? = none := by
  cases first with
  | string key => exact absurd rfl hfirst
  | _ => rfl

/-- Objects in an array are never taken for a member. -/
theorem member?_of_isObject {items : List Json} (hitems : ∀ item ∈ items, item.isObject = true) :
    (array items).member? = none := by
  cases items with
  | nil => rfl
  | cons first rest =>
      refine member?_cons_of_ne_string (fun hstring => ?_) rest
      have hobject : first.isObject = true := hitems first List.mem_cons_self
      simp [isObject, hstring] at hobject

@[simp]
theorem find?_object_cons_self (key : String) (member : Json) (rest : List (String × Json)) :
    (object ((key, member) :: rest)).find? key = some member := by
  simp [find?]

@[simp]
theorem getAt_object_cons_self (key : String) (member : Json) (rest : List (String × Json)) :
    (object ((key, member) :: rest)).getAt key = .ok member := by
  simp [getAt]

theorem getAt_object_cons_of_ne {key other : String} (hne : key ≠ other) (member : Json)
    (rest : List (String × Json)) :
    (object ((other, member) :: rest)).getAt key = (object rest).getAt key := by
  have hkey : (key == other) = false := beq_eq_false_iff_ne.mpr hne
  simp [getAt, List.lookup_cons, hkey]

theorem index_of_find? {value found : Json} {key : String} (hfind : value.find? key = some found) :
    value.index key = .ok found := by
  cases value with
  | object members =>
      have hlookup : members.lookup key = some found := hfind
      simp [index, hlookup]
  | _ => simp [find?] at hfind

theorem isObject_of_find? {value found : Json} {key : String} (hfind : value.find? key = some found) :
    value.isObject = true := by
  cases value with
  | object members => rfl
  | _ => simp [find?] at hfind

theorem constIndex_of_find? {value found : Json} {key : String} (hfind : value.find? key = some found) :
    value.constIndex key = .ok found := by
  cases value with
  | object members =>
      have hlookup : members.lookup key = some found := hfind
      simp [constIndex, hlookup]
  | _ => simp [find?] at hfind

end Json

end Nlohmann
