import Intake.Builder.Arguments
import Intake.Outcome
import Intake.Payload.Walk

/-!
Extractions that are put together by hand. A draft takes any payloads as its sections; whether they
can be read as fields only turns out when the draft is read as an extraction.
-/

namespace Intake

/-- An extraction whose sections have yet to be read as fields. -/
structure Draft where
  body : Payload
  params : Payload
  headers : Payload
  query : Payload
  authorization : Payload
  deriving Repr

namespace Draft

/-- Whether a draft has a part of a name. -/
def hasPart (name : String) : Bool :=
  name == "authorization" || Section.isName name

/-- The draft of the given parts. A section that is not given is empty. -/
def ofArguments (parts : Fields Payload) : Except Fault Draft := do
  Builder.extraction.check hasPart parts.names
  let given (s : Section) := (parts.get? s.name).getD (.record [])
  return {
    body := given .body
    params := given .params
    headers := given .headers
    query := given .query
    authorization := (parts.get? "authorization").getD .null }

/-- A section as it was given. -/
def get (draft : Draft) : Section → Payload
  | .body => draft.body
  | .headers => draft.headers
  | .params => draft.params
  | .query => draft.query

/-- What a source has in the draft; the principal has no section. -/
def ofSource (draft : Draft) : Source → Except Fault Payload
  | .auth => .error (.noSection Source.auth.name)
  | .field s => .ok (draft.get s)

/-- The extraction that a draft amounts to. -/
def read (draft : Draft) : Except Fault Extraction := do
  let body ← draft.body.asFields
  let params ← draft.params.asFields
  let headers ← draft.headers.asFields
  let query ← draft.query.asFields
  return ⟨body, params, headers, query, draft.authorization⟩

/-- The draft of an extraction. -/
def ofExtraction (result : Extraction) : Draft :=
  ⟨.record result.body, .record result.params, .record result.headers, .record result.query,
    result.authorization⟩

/-- Reading the draft of an extraction gives the extraction back. -/
theorem read_ofExtraction (result : Extraction) : (ofExtraction result).read = .ok result := rfl

end Draft

end Intake
