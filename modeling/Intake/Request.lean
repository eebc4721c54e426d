import Intake.Builder.Arguments
import Intake.Payload
import Intake.Source

/-!
Requests. A request is a plain value with the members that such a value has, or an object, each of
whose members yields a value or a fault when it is read.
-/

namespace Intake

/-- A request. An object without a member raises the fault that says so. -/
inductive Request where
  | plain (v : Payload)
  | object (member : String → Except Fault Payload)

namespace Request

/-- The fault that an object has no member of a name. -/
def lacks (name : String) : Fault :=
  .noMember "object" name

/-- The object with the listed members. -/
def ofMembers (members : Fields (Except Fault Payload)) : Request :=
  .object fun name => (members.get? name).getD (.error (lacks name))

/-- The request with the given sections; the others are empty. -/
def withSections (given : Section → Option Payload) : Request :=
  .object fun name =>
    match Section.all.find? fun s => s.name == name with
    | some s => .ok ((given s).getD (.record []))
    | none => .error (lacks name)

/-- The request with the listed sections, none of which may be unknown. -/
def ofSections (sections : Fields Payload) : Except Fault Request := do
  Builder.request.check Section.isName sections.names
  return withSections fun s => sections.get? s.name

/-- Whether there is a request at all. -/
def isPresent : Request → Bool
  | .plain v => !v.isNull
  | .object _ => true

/-- Reads a member. One that the request does not have is null. -/
def read (request : Request) (name : String) : Except Fault Payload :=
  match request with
  | .plain v => .ok ((v.members.get? name).getD .null)
  | .object member =>
    match member name with
    | .ok value => .ok value
    | .error e => if e.isMissingMember then .ok .null else .error e

/-- Whether an object has all of the named members. Reading stops at the first one that it lacks,
and at a fault of another sort. -/
def hasMembers (member : String → Except Fault Payload) : List String → Except Fault Bool
  | [] => .ok true
  | name :: rest =>
    match member name with
    | .ok _ => hasMembers member rest
    | .error e => if e.isMissingMember then .ok false else .error e

/-- Whether the request has a member for every section. What a value has are fields, or members of
other names. -/
def hasAllSections : Request → Except Fault Bool
  | .plain _ => .ok false
  | .object member => hasMembers member (Section.all.map Section.name)

end Request

end Intake
