import Intake.Text.LetterCase

/-!
Lower-casing a whole text. Every capital becomes its partner, with two exceptions: the dotted
capital I becomes two characters, and a capital sigma that ends a word takes its final form.
-/

namespace Intake.Text

/-- Whether the nearest neighbour that is not passed over is a letter with case. -/
def meetsCasedLetter (neighbours : List Char) : Bool :=
  match neighbours.find? fun c => !passedOver.contains c with
  | some c => casedLetters.contains c
  | none => false

/-- The lower-case form of one character. `before` holds the characters ahead of it, nearest
first, and `after` those behind it. -/
def lowerAt (before : List Char) (c : Char) (after : List Char) : List Char :=
  if c == 'İ' then ['i', '\u0307']
  else if c == 'Σ' then
    if meetsCasedLetter before && !meetsCasedLetter after then ['ς'] else ['σ']
  else [partner c]

/-- Lower-cases the rest of a text whose beginning, read backwards, is `before`. -/
def lowerFrom (before : List Char) : List Char → List Char
  | [] => []
  | c :: after => lowerAt before c after ++ lowerFrom (c :: before) after

/-- A text in lower case. -/
def lower (s : String) : String :=
  String.ofList (lowerFrom [] s.toList)

end Intake.Text
