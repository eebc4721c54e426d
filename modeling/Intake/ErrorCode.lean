import Intake.Source

/-!
The codes that failures are reported under. Eight codes are fixed; three more carry the specifier or
the field that they are about.
-/

namespace Intake

/-- The fixed codes. -/
inductive ErrorCode where
  | specifiersNotListed
  | noRequest
  | nothingRequested
  | sanitizerNotSet
  | authorizerNotSet
  | immediateAuthorization
  | fieldErrors
  | noPrincipal
  deriving DecidableEq, Repr

/-- The text of a fixed code. -/
def ErrorCode.text : ErrorCode → String
  | .specifiersNotListed => "neededData_no_array"
  | .noRequest => "no_request_object"
  | .nothingRequested => "neededData_size_zero"
  | .sanitizerNotSet => "sanitizeFunction_not_set"
  | .authorizerNotSet => "authFunction_not_set"
  | .immediateAuthorization => "sync_auth_not_possible"
  | .fieldErrors => "parser_error"
  | .noPrincipal => "no_parsed_user_error"

/-- The code of a specifier that the grammar refuses. -/
def grammarCode (key : String) : String :=
  "regex_error_" ++ key

/-- The code of a field that its section lacks. -/
def missingFieldCode (sectionName field : String) : String :=
  sectionName ++ "_missing_" ++ field

/-- The code of a specifier whose first letter stands for no source. -/
def unknownSourceCode (key : String) : String :=
  "incorrectKey_" ++ key

/-- What can be wrong with one specifier of a list that is otherwise carried out. -/
inductive FieldError where
  | unknownSource (key : String)
  | missing (s : Section) (field : String)
  deriving DecidableEq, Repr

/-- The code of a field error. -/
def FieldError.code : FieldError → String
  | .unknownSource key => unknownSourceCode key
  | .missing s field => missingFieldCode s.name field

end Intake
