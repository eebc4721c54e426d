import Intake.Fault
import Intake.Payload.Same
import Intake.Text.Occurrence

/-!
What a payload holds under a name. Only records and views have entries. A text holds the names that
stand in it and a collection those that are among its items, but neither has anything to give for a
name that it holds, and that is a fault. All other payloads hold no names at all, and asking them is
a fault in any case.
-/

namespace Intake.Payload

/-- Whether a payload without entries holds a name. -/
def holds (name : String) (p : Payload) : Except Fault Bool :=
  match p with
  | .text s => .ok (Text.occursIn name.toList s.toList)
  | .octets _ => .error .textAmongOctets
  | other =>
    match other.collection? with
    | some items => .ok (items.any (same (.text name)))
    | none => .error (.notContainer other.typeName)

/-- The fault of asking a payload without entries for what it has under a name. -/
def withoutEntry (p : Payload) : Fault :=
  match p with
  | .text _ => .characterByName
  | .list _ => .itemByName p.typeName
  | .tuple _ => .itemByName p.typeName
  | other => .noEntries other.typeName

/-- What a payload holds under a name, nothing if it does not hold the name. -/
def get? (p : Payload) (name : String) : Except Fault (Option Payload) :=
  match p.fields? with
  | some fields => .ok (fields.get? name)
  | none => do
    if ← p.holds name then throw p.withoutEntry
    return none

@[simp] theorem get?_record (name : String) (fields : Fields Payload) :
    (record fields).get? name = .ok (fields.get? name) := rfl

@[simp] theorem get?_view (name : String) (fields : Fields Payload) :
    (view fields).get? name = .ok (fields.get? name) := rfl

/-- Records and views always answer. -/
theorem get?_of_fields {p : Payload} {fields : Fields Payload} (stored : p.fields? = some fields)
    (name : String) : p.get? name = .ok (fields.get? name) := by
  simp [get?, stored]

end Intake.Payload
