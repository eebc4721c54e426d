import Intake.Dialogue

/-!
Authorizing a request. The authorizer is given the headers and waited for. A fault that it raises is
passed on, wrapped so that it can be told from others, and so is the lack of a principal, unless
authorization is optional: then the request goes on without one. A fault that cannot be wrapped, or
noted, raises another one.
-/

namespace Intake

/-- The note that an optional authorization failed, with the words for the fault. -/
def authorizationFailedNote (words : String) : Note :=
  .debug ("Optional authorization failed, continuing without principal: " ++ words)

/-- A fault of the authorizer, wrapped. The wrapping takes over what the fault says, which can raise
another one. -/
def wrapped (e : Fault) : Fault :=
  match e.message with
  | .ok _ => .authFailure e
  | .error instead => instead

/-- What a fault of the authorizer comes to. -/
def withoutAnswer (log : Log) (optional : Bool) (e : Fault) : Action Payload :=
  if optional then do
    Action.report log .debug e authorizationFailedNote
    return .null
  else
    throw (wrapped e)

/-- The rejection of a request without a principal. -/
def principalMissing : Rejection :=
  ⟨.noPrincipal, ⟨some "resolve_authorization", none, none⟩⟩

/-- What an answer of the authorizer comes to. An empty one is no principal. -/
def withAnswer (optional : Bool) (principal : Payload) : Action Payload :=
  if principal.isTruthy then pure principal
  else if optional then pure .null
  else throw (.rejection principalMissing)

/-- Waits for the principal that the authorizer finds in the headers. Headers that are absent are
passed on as an empty record. -/
def authorize (log : Log) (authorizer headers : Payload) (optional : Bool) : Action Payload := do
  let given := if headers.isNull then Payload.record [] else headers
  match ← Action.observe (Action.await authorizer given) with
  | .error e => withoutAnswer log optional e
  | .ok principal => withAnswer optional principal

end Intake
