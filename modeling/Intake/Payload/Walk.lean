import Intake.Payload.Display
import Intake.Payload.Same

/-!
Walking over payloads. What has no elements cannot be walked over, and that is a fault.

`Payload.asFields` reads a payload as fields. Records and views are read as they are; from any other
payload the walk has to yield pairs of a name and a value, which are stored one after the other.
`Payload.asSet` keeps one of each items that are equal. Neither names nor the items of a set may be
payloads that can change.
-/

namespace Intake.Payload

/-- The elements of a payload, or the fault that it has none. -/
def elements (p : Payload) : Except Fault (List Payload) :=
  match p.elements? with
  | some items => .ok items
  | none => .error (.notIterable p.typeName)

mutual

/-- The name of the type that can change in a payload: its own, or that of an item, if it is a tuple
and does not change otherwise. -/
def changeable? : Payload → Option String
  | .list items => some (list items).typeName
  | .set items => some (set items).typeName
  | .record fields => some (record fields).typeName
  | .view fields => some (view fields).typeName
  | .tuple items => changeableAmong items
  | _ => none

/-- The first such type among several payloads. -/
def changeableAmong : List Payload → Option String
  | [] => none
  | item :: rest =>
    match changeable? item with
    | some typeName => some typeName
    | none => changeableAmong rest

end

/-- The name that a payload is: its text, unless it can change. -/
def asName (p : Payload) : Except Fault String :=
  match p.changeable? with
  | some typeName => .error (.changeable typeName)
  | none => p.asText

/-- The items of the set of the listed payloads, none of which may change. -/
def asSet (items : List Payload) : Except Fault (List Payload) :=
  match changeableAmong items with
  | some typeName => .error (.changeable typeName)
  | none => .ok (distinct items)

/-- Reads the element at a position as a name and a value. -/
def asPair (position : Nat) (element : Payload) : Except Fault (String × Payload) :=
  match element.elements? with
  | none => .error (.notPair position)
  | some [name, value] => do return (← name.asName, value)
  | some parts => .error (.pairLength position parts.length)

/-- Reads elements as pairs, the first of which is at a position. -/
def asPairs (position : Nat) : List Payload → Except Fault (List (String × Payload))
  | [] => .ok []
  | element :: rest => do
    let pair ← element.asPair position
    return pair :: (← asPairs (position + 1) rest)

/-- Reads a payload as fields. -/
def asFields (p : Payload) : Except Fault (Fields Payload) :=
  match p.fields? with
  | some fields => .ok fields
  | none => do return Fields.ofPairs (← asPairs 0 (← p.elements))

@[simp] theorem asFields_record (fields : Fields Payload) :
    (record fields).asFields = .ok fields := rfl

@[simp] theorem asName_text (s : String) : (text s).asName = .ok s := rfl

end Intake.Payload
