import Intake.Text.CodePoints

/-!
Blanks: the characters that separate words in running text. Besides the ASCII spaces, tabs, line
ends and information separators, they are the Unicode spaces and line separators.
-/

namespace Intake.Text

/-- The code points of the blank characters. -/
def blanks : CodePoints := [
  (0x9, 0xD), (0x1C, 0x20), (0x85, 0x85), (0xA0, 0xA0), (0x1680, 0x1680), (0x2000, 0x200A),
  (0x2028, 0x2029), (0x202F, 0x202F), (0x205F, 0x205F), (0x3000, 0x3000)]

/-- A blank character. -/
def isBlank (c : Char) : Bool :=
  blanks.contains c

/-- What is left of a text once its leading blanks are gone. -/
def dropBlanks (s : List Char) : List Char :=
  s.dropWhile isBlank

end Intake.Text
