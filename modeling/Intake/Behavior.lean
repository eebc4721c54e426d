import Intake.Markup.Strip
import Intake.Payload.Same
import Intake.World

/-!
Ready-made collaborators. A `Behavior` says what a function does with its argument; a list of them
gives meaning to the functions that are numbered by it.
-/

namespace Intake

/-- The payload without markup; what is no text is left as it is. -/
def Payload.strip : Payload → Payload
  | .text s => .text (Markup.strip s)
  | other => other

/-- What a function does with its argument. -/
inductive Behavior where
  /-- Takes the markup out of a text. -/
  | strip
  /-- Returns the argument. -/
  | identity
  /-- Returns always the same value. -/
  | const (value : Payload)
  /-- Stores the argument as the only field of a record. -/
  | wrap
  /-- Names the kind of the argument. -/
  | kind
  /-- Tells the id and the operation of the scope that it is called in. -/
  | scope
  /-- Raises a fault. -/
  | raise (e : Fault)
  /-- Raises a fault on one argument, and returns every other one. -/
  | raiseIf (value : Payload) (e : Fault)
  /-- Returns a field of the argument, null if it is missing. -/
  | header (name : String)
  /-- Finds the name that belongs to the cookie in the argument. -/
  | cookie (accounts : List (Payload × String))

namespace Behavior

/-- A field of a payload that has to be a record or a view. -/
def fieldOf (name : String) (argument : Payload) : Answer :=
  match argument.fields? with
  | some fields => .ok ((fields.get? name).getD .null)
  | none => .error (.noMember argument.typeName "get")

/-- The payload that describes a scope. -/
def scopePayload : Option Scope → Payload
  | none => .null
  | some opened => .list [.text opened.id, (opened.operation.map Payload.text).getD .null]

/-- The name that belongs to a cookie. -/
def ownerOf (accounts : List (Payload × String)) (cookie : Payload) : Answer :=
  if cookie.isTruthy then
    match accounts.find? fun (known, _) => cookie.same known with
    | some (_, name) => .ok (.text name)
    | none => .error (.raised .lookup (some "no username to cookie found"))
  else .error (.raised .lookup (some "no cookie header found"))

/-- The answer to an argument in a scope. -/
def respond (behavior : Behavior) (scope : Option Scope) (argument : Payload) : Answer :=
  match behavior with
  | .strip => .ok argument.strip
  | .identity => .ok argument
  | .const value => .ok value
  | .wrap => .ok (.record [("wrapped", argument)])
  | .kind => .ok (.text argument.kind.name)
  | .scope => .ok (scopePayload scope)
  | .raise e => .error e
  | .raiseIf value e => if argument.same value then .error e else .ok argument
  | .header name => fieldOf name argument
  | .cookie accounts => do ownerOf accounts (← fieldOf "cookie" argument)

end Behavior

/-- Collaborators whose functions are numbered by a list of behaviors, each with the number of
pauses that it makes. A function of another number returns its argument. The log tells what a fault
says. -/
def Collaborators.ofArray (functions : Array (Behavior × Nat)) : Collaborators where
  respond f scope argument :=
    match functions[f.number]? with
    | some (behavior, _) => behavior.respond scope argument
    | none => .ok argument
  pauses f :=
    match functions[f.number]? with
    | some (_, pauses) => pauses
    | none => 0
  wording _ e := e.message

end Intake
