import Intake.Payload.Display
import Intake.Specifier

/-!
The grammar of specifiers: one of five source letters, possibly a star, a name of at most a hundred
letters, digits, hyphens and low lines, and possibly a question mark. Only specifiers that callers
give are held to it. The rejection of one that does not keep to it tells its text.
-/

namespace Intake.Specifier

/-- The longest name of a field that the grammar accepts. -/
def maxNameLength : Nat := 100

/-- A character that can stand in the name of a field. -/
def isNameCharacter (c : Char) : Bool :=
  c.isAlphanum || c == '_' || c == '-'

/-- What is left of a text behind a star at its front. -/
def dropStar : List Char → List Char
  | '*' :: s => s
  | s => s

/-- Whether a text is a name of a field, possibly with a question mark behind it. -/
def isMarkedName (s : List Char) : Bool :=
  let name := s.takeWhile isNameCharacter
  let rest := s.dropWhile isNameCharacter
  decide (name.length ≤ maxNameLength) && (rest == [] || rest == ['?'])

/-- Whether the characters of a key keep to the grammar. -/
def isWellFormed : List Char → Bool
  | [] => false
  | c :: s => (Source.ofLetter? c).isSome && isMarkedName (dropStar s)

/-- Whether a payload is a specifier that keeps to the grammar. -/
def isValid : Payload → Bool
  | .text key => isWellFormed key.toList
  | _ => false

/-- The rejection of a key that does not keep to the grammar, unless making it fails: it needs the
key's text, alone and inside other text. Circumstances that are not given name the key. -/
def refusal (key : Payload) (context : Option Context) : Except Fault Rejection := do
  let text ← key.asText
  let shown ← key.display
  return ⟨.grammar text shown, context.getD ⟨none, some text, none⟩⟩

end Intake.Specifier
