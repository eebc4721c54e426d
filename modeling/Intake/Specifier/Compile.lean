import Intake.Payload.Display
import Intake.Specifier

/-!
Reading specifiers. Every text reads as a specifier, whether or not it keeps to the grammar, with
one exception: a star asks for a sanitizer, and where none is configured the specifier is rejected.
Specifiers of the principal carry no star; theirs belongs to the name. What is no text is read for
the text that it has; where it has none, reading it is a fault.
-/

namespace Intake.Specifier

/-- A star at the front of a text, and what follows it. -/
def splitStar : List Char → Bool × List Char
  | '*' :: s => (true, s)
  | s => (false, s)

/-- A question mark at the end of a text, and what stands before it. -/
def splitQuestion (s : List Char) : Bool × List Char :=
  if s.getLast? = some '?' then (true, s.dropLast) else (false, s)

/-- The rejection of a star where no sanitizer is configured. -/
def sanitizerNotSet (key : String) : Rejection :=
  ⟨.configuration ErrorCode.sanitizerNotSet.text, ⟨some "compile_specifier", some key, none⟩⟩

/-- The source of a text's first letter. -/
def sourceOf : List Char → Option Source
  | [] => none
  | c :: _ => Source.ofLetter? c

/-- Reads a text as a specifier. -/
def ofText (canSanitize : Bool) (key : String) : Except Rejection Specifier :=
  let letters := key.toList
  let rest := letters.tail
  let source := sourceOf letters
  if source = some .auth then
    let (optional, name) := splitQuestion rest
    .ok ⟨key, source, false, optional, String.ofList name⟩
  else
    let (sanitize, marked) := splitStar rest
    if sanitize && !canSanitize then
      .error (sanitizerNotSet key)
    else
      let (optional, name) := splitQuestion marked
      .ok ⟨key, source, sanitize, optional, String.ofList name⟩

/-- The specifier that stands for something that is no text. It names no source. -/
def sourceless (text : String) : Specifier := ⟨text, none, false, false, text⟩

/-- Reads a payload as a specifier. What is no text names no source. -/
def compile (canSanitize : Bool) : Payload → Except Fault Specifier
  | .text key => (ofText canSanitize key).mapError .rejection
  | other => sourceless <$> other.asText

/-- What reading the keys one after the other yields; the first that cannot be read ends it. -/
def compileAll (canSanitize : Bool) : List Payload → List (Except Fault Specifier)
  | [] => []
  | key :: rest =>
    match compile canSanitize key with
    | .ok spec => .ok spec :: compileAll canSanitize rest
    | .error e => [.error e]

end Intake.Specifier
