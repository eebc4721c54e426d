import Intake.Source
import Intake.Text.Lowercase
import Intake.Text.Quoted

/-!
Specifiers: the short texts by which a caller names the fields of a request. A specifier is a source
letter, a star if the value is to be sanitized, the name of the field, and a question mark if the
field may be missing.

`Specifier.key` writes a specifier down; reading one is in `Intake.Specifier.Compile`, and the form
that callers have to keep to is in `Intake.Specifier.Grammar`.
-/

namespace Intake

/-- A specifier in parts, with the text that it was given as. Without a source it stands for a text
that names none. -/
structure Specifier where
  raw : String
  source : Option Source
  sanitize : Bool
  optional : Bool
  fieldName : String
  deriving DecidableEq, Repr

namespace Specifier

/-- The name under which the field is looked up. Header names are looked up in lower case. -/
def lookupName (spec : Specifier) : String :=
  if spec.source = some (.field .headers) then Text.lower spec.fieldName else spec.fieldName

/-- A specifier's parts written one after the other, behind its first letter. -/
def key (letter : List Char) (sanitize : Bool) (name : List Char) (optional : Bool) : List Char :=
  letter ++ (if sanitize then ['*'] else []) ++ name ++ (if optional then ['?'] else [])

/-! ## The text of a specifier -/

/-- The text of a source inside the text of a specifier. -/
def sourceText : Option Source → String
  | none => "None"
  | some source =>
    "<Source." ++ source.name.map Char.toUpper ++ ": " ++ Text.quoted source.name ++ ">"

/-- The text of a part that is a truth value. -/
def flagText (b : Bool) : String := if b then "True" else "False"

/-- The text of a specifier: its parts, by name. -/
def text (spec : Specifier) : String :=
  "Specifier(raw=" ++ Text.quoted spec.raw ++
    ", source=" ++ sourceText spec.source ++
    ", sanitize=" ++ flagText spec.sanitize ++
    ", optional=" ++ flagText spec.optional ++
    ", field_name=" ++ Text.quoted spec.fieldName ++ ")"

end Specifier

end Intake
