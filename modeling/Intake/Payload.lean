import Intake.Fields

/-!
Payloads: the values that requests carry, that collaborators take and return, and that settings are
given as. Functions are named, not contained: what a function does is up to the collaborators that
the computation runs with.

A payload has a kind, the coarse name that sanitizing exceptions are stated in, and it is empty or
not, which decides whether it counts as a principal or as a switch that is on.
-/

namespace Intake

/-- The name of a function. Functions that share a label differ in their number. An asynchronous
function does nothing until its answer is waited for. -/
structure FunctionRef where
  label : String
  number : Nat
  asynchronous : Bool
  deriving DecidableEq, Repr

/-- A value. Numbers with a fraction are kept as their shortest text. A view is a record that
cannot be written to. A pending payload stands for the answer of an asynchronous function that has
been called with an argument but not waited for. -/
inductive Payload where
  | null
  | bool (b : Bool)
  | int (n : Int)
  | float (digits : String)
  | text (s : String)
  | octets (data : List UInt8)
  | list (items : List Payload)
  | tuple (items : List Payload)
  | set (items : List Payload)
  | frozenSet (items : List Payload)
  | record (fields : List (String × Payload))
  | view (fields : List (String × Payload))
  | function (f : FunctionRef)
  | pending (f : FunctionRef) (argument : Payload)
  deriving Repr, Inhabited

namespace Payload

/-- The kind of a payload. -/
inductive Kind where
  | null
  | boolean
  | number
  | text
  | function
  | object
  deriving DecidableEq, Repr

/-- The name under which a kind can be excepted from sanitizing. -/
def Kind.name : Kind → String
  | .null => "null"
  | .boolean => "boolean"
  | .number => "number"
  | .text => "string"
  | .function => "function"
  | .object => "object"

/-- The kind of a payload. A truth value is not a number, and whatever is neither atomic nor a
function is an object. -/
def kind : Payload → Kind
  | .null => .null
  | .bool _ => .boolean
  | .int _ => .number
  | .float _ => .number
  | .text _ => .text
  | .function _ => .function
  | _ => .object

def isNull : Payload → Bool
  | .null => true
  | _ => false

def isCallable : Payload → Bool
  | .function _ => true
  | _ => false

/-- Whether a payload counts as something: null, false, zeros and everything empty do not. -/
def isTruthy : Payload → Bool
  | .null => false
  | .bool b => b
  | .int n => n != 0
  | .float digits => digits != "0.0" && digits != "-0.0"
  | .text s => !s.isEmpty
  | .octets data => !data.isEmpty
  | .list items => !items.isEmpty
  | .tuple items => !items.isEmpty
  | .set items => !items.isEmpty
  | .frozenSet items => !items.isEmpty
  | .record fields => !fields.isEmpty
  | .view fields => !fields.isEmpty
  | .function _ => true
  | .pending _ _ => true

/-- The items of a list or a tuple. -/
def sequence? : Payload → Option (List Payload)
  | .list items => some items
  | .tuple items => some items
  | _ => none

/-- The items of a list, a tuple or a set. -/
def collection? : Payload → Option (List Payload)
  | .list items => some items
  | .tuple items => some items
  | .set items => some items
  | .frozenSet items => some items
  | _ => none

/-- The fields of a record or a view. -/
def fields? : Payload → Option (Fields Payload)
  | .record fields => some fields
  | .view fields => some fields
  | _ => none

/-- What walking over a payload yields: its items, its names, its characters or its octets. -/
def elements? : Payload → Option (List Payload)
  | .list items => some items
  | .tuple items => some items
  | .set items => some items
  | .frozenSet items => some items
  | .record fields => some ((Fields.names fields).map .text)
  | .view fields => some ((Fields.names fields).map .text)
  | .text s => some (s.toList.map fun c => .text c.toString)
  | .octets data => some (data.map fun o => .int o.toNat)
  | _ => none

/-- The name of a payload's type, as error messages give it. -/
def typeName : Payload → String
  | .null => "NoneType"
  | .bool _ => "bool"
  | .int _ => "int"
  | .float _ => "float"
  | .text _ => "str"
  | .octets _ => "bytes"
  | .list _ => "list"
  | .tuple _ => "tuple"
  | .set _ => "set"
  | .frozenSet _ => "frozenset"
  | .record _ => "dict"
  | .view _ => "mappingproxy"
  | .function _ => "function"
  | .pending _ _ => "coroutine"

/-- The members of a whole number: its parts as a complex number and as a fraction. -/
def wholeMembers (n : Int) : Fields Payload :=
  [("real", .int n), ("imag", .int 0), ("numerator", .int n), ("denominator", .int 1)]

/-- The members of a payload, by name. Records and views have their fields. Numbers and functions
have a few members by their nature; all functions bear the same name. -/
def members : Payload → Fields Payload
  | .record fields => fields
  | .view fields => fields
  | .bool b => wholeMembers b.toInt
  | .int n => wholeMembers n
  | .float digits => [("real", .float digits), ("imag", .float "0.0")]
  | .function _ => [("__name__", .text "fn")]
  | _ => []

/-- The kind names that stand for another one, with the name they stand for. -/
def kindAliases : List (String × String) :=
  [("bool", "boolean"), ("int", "number"), ("float", "number"), ("str", "string"),
    ("dict", "object"), ("list", "object"), ("NoneType", "null"), ("none", "null")]

/-- The kind name that a given name stands for: itself unless it is an alias. -/
def canonicalKind (name : String) : String :=
  (kindAliases.lookup name).getD name

/-- No alias stands for another alias. -/
theorem canonicalKind_canonicalKind (name : String) :
    canonicalKind (canonicalKind name) = canonicalKind name := by
  by_cases own : kindAliases.lookup name = none
  · simp [canonicalKind, own]
  · obtain ⟨target, found⟩ := Option.ne_none_iff_exists'.1 own
    have known : ∀ pair ∈ kindAliases, canonicalKind pair.2 = pair.2 := by decide
    have member : ∃ pair ∈ kindAliases, pair.2 = target := by
      obtain ⟨before, after, split, -⟩ := List.lookup_eq_some_iff.1 found
      exact ⟨(name, target), by rw [split]; simp, rfl⟩
    obtain ⟨pair, inside, rfl⟩ := member
    simp only [canonicalKind, found, Option.getD_some]
    exact known pair inside

end Payload

end Intake
