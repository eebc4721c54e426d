import Intake.Text.Visible

/-!
Quoted text: a text between quotes in which everything that cannot be shown, the quote itself and
the backslash are escaped. Single quotes are used unless the text holds a single quote and no
double one. Octets are quoted in the same manner, with everything beyond ASCII escaped.
-/

namespace Intake.Text

/-- The last `width` hexadecimal digits of a number. -/
def hexDigits : Nat → Nat → List Char
  | 0, _ => []
  | width + 1, n => hexDigits width (n / 16) ++ [Nat.digitChar (n % 16)]

/-- The quote that surrounds a text. -/
def quoteFor (s : List Char) : Char :=
  if s.contains '\'' && !s.contains '"' then '"' else '\''

/-- The escape of a character that has no letter of its own: two, four or eight digits, as many as
its code point needs. -/
def numericEscape (c : Char) : List Char :=
  if c.toNat ≤ 0xFF then '\\' :: 'x' :: hexDigits 2 c.toNat
  else if c.toNat ≤ 0xFFFF then '\\' :: 'u' :: hexDigits 4 c.toNat
  else '\\' :: 'U' :: hexDigits 8 c.toNat

/-- One character inside quotes, where `shown` tells which characters stand for themselves. -/
def escape (shown : Char → Bool) (quote : Char) (c : Char) : List Char :=
  if c == quote || c == '\\' then ['\\', c]
  else if c == '\n' then ['\\', 'n']
  else if c == '\r' then ['\\', 'r']
  else if c == '\t' then ['\\', 't']
  else if shown c then [c]
  else numericEscape c

/-- A quoted sequence of characters. -/
def quoteWith (shown : Char → Bool) (s : List Char) : List Char :=
  let quote := quoteFor s
  quote :: (s.flatMap (escape shown quote) ++ [quote])

/-- A text in quotes. -/
def quoted (s : String) : String :=
  String.ofList (quoteWith isVisible s.toList)

/-- Octets in quotes, each read as the character of that number, after a mark that tells them from
text. -/
def quotedOctets (octets : List UInt8) : String :=
  let shown (c : Char) := 32 ≤ c.toNat && c.toNat < 127
  String.ofList ('b' :: quoteWith shown (octets.map fun o => Char.ofNat o.toNat))

end Intake.Text
