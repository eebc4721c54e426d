import Intake.Fault
import Intake.Payload

/-!
What a parse ends with: the extracted fields, or a failure. A failure names its cause, which is a
code, or a fault that no code stands for; failures over fields list the codes of the fields.

A callback is told about an outcome in two arguments, an error and a result; `Outcome.delivery` says
which.
-/

namespace Intake

/-- The extracted fields by section, and the principal of the request, null without one. -/
structure Extraction where
  body : Fields Payload
  params : Fields Payload
  headers : Fields Payload
  query : Fields Payload
  authorization : Payload
  deriving Repr

namespace Extraction

/-- No fields, and no principal. -/
def empty : Extraction := ⟨[], [], [], [], .null⟩

/-- The fields of a section. -/
def get (result : Extraction) : Section → Fields Payload
  | .body => result.body
  | .headers => result.headers
  | .params => result.params
  | .query => result.query

/-- The extraction with other fields in a section. -/
def set (result : Extraction) (fields : Fields Payload) : Section → Extraction
  | .body => { result with body := fields }
  | .headers => { result with headers := fields }
  | .params => { result with params := fields }
  | .query => { result with query := fields }

/-- Stores a value under a name in a section. -/
def store (result : Extraction) (s : Section) (name : String) (value : Payload) : Extraction :=
  result.set ((result.get s).put name value) s

theorem get_store (result : Extraction) (s other : Section) (name : String) (value : Payload) :
    (result.store s name value).get other =
      if s = other then (result.get s).put name value else result.get other := by
  cases s <;> cases other <;> rfl

@[simp] theorem authorization_store (result : Extraction) (s : Section) (name : String)
    (value : Payload) : (result.store s name value).authorization = result.authorization := by
  cases s <;> rfl

end Extraction

/-- What a failure is put down to. Codes are texts. -/
inductive Cause where
  | value (v : Payload)
  | fault (e : Fault)
  deriving Repr

/-- The cause that a code stands for. -/
def Cause.code (text : String) : Cause := .value (.text text)

/-- What a parse ends with. -/
inductive Outcome where
  | success (result : Extraction)
  | failure (cause : Cause) (errors : List String)
  deriving Repr

/-- A failure that a code says all about. -/
def Outcome.ofCode (code : String) : Outcome := .failure (.code code) []

/-- The failure of a parse that could not provide every field. -/
def Outcome.ofFieldErrors (errors : List FieldError) : Outcome :=
  .failure (.code ErrorCode.fieldErrors.text) (errors.map FieldError.code)

/-- The second argument of a callback. -/
inductive Reply where
  | nothing
  | result (result : Extraction)
  | errors (codes : List String)
  deriving Repr

/-- The arguments of a callback. -/
structure Delivery where
  error : Option Cause
  reply : Reply
  deriving Repr

/-- Whether a cause is the code of failures over fields. -/
def Cause.isFieldErrors : Cause → Bool
  | .value (.text code) => code == ErrorCode.fieldErrors.text
  | _ => false

/-- How a callback is told about an outcome. The codes of fields are delivered in place of the
result; of any other failure only the cause is. -/
def Outcome.delivery : Outcome → Delivery
  | .success result => ⟨none, .result result⟩
  | .failure cause errors => ⟨some cause, if cause.isFieldErrors then .errors errors else .nothing⟩

end Intake
