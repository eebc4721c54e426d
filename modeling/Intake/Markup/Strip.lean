import Intake.Markup.Element
import Intake.Markup.Tag

/-!
Cleaning a text of markup, in three walks: dropped elements go with their content, then every other
tag goes and its text stays, and last the NUL characters go. Each walk sees what the one before it
left.
-/

namespace Intake.Markup

/-- The characters of a text without markup. -/
def stripChars (s : List Char) : List Char :=
  (tag.deleteAll (element.deleteAll s)).filter (· != '\x00')

/-- A text without markup. -/
def strip (s : String) : String :=
  String.ofList (stripChars s.toList)

end Intake.Markup
