import Intake.Payload

/-!
The exact value of a number with a fraction. Such a number is a double, kept as the shortest text
that reads back as it; its value is therefore not the decimal that is written but the nearest
double, an integer over a power of two. That matters when it is compared with an integer.
-/

namespace Intake.Payload

/-- An integer over a power of two. -/
structure Dyadic where
  numerator : Int
  exponent : Nat
  deriving Repr

/-- The dyadic is the integer. -/
def Dyadic.isInt (x : Dyadic) (n : Int) : Bool :=
  x.numerator == n * Int.pow 2 x.exponent

/-- The number that decimal digits write, leading ones first. -/
def digitsValue (digits : List Char) : Nat :=
  digits.foldl (fun value c => 10 * value + (c.toNat - '0'.toNat)) 0

/-- The value of a finite, unsigned double, from its bits. -/
def Dyadic.ofBits (bits : Nat) : Dyadic :=
  let fraction : Nat := bits % Nat.pow 2 52
  let scale : Nat := bits / Nat.pow 2 52 % Nat.pow 2 11
  let significand : Nat := if scale = 0 then fraction else fraction + Nat.pow 2 52
  let scale : Nat := max scale 1
  if 1075 ≤ scale then ⟨significand * Nat.pow 2 (scale - 1075), 0⟩ else ⟨significand, 1075 - scale⟩

/-- The exponent of ten at the end of a decimal, after its mark. -/
def readScale : List Char → Int
  | '-' :: digits => -(digitsValue digits : Int)
  | '+' :: digits => digitsValue digits
  | digits => digitsValue digits

/-- The double that an unsigned decimal text stands for. -/
def readDouble (text : List Char) : Float :=
  let mantissa := text.takeWhile (· != 'e')
  let whole := mantissa.takeWhile (· != '.')
  let fraction := (mantissa.dropWhile (· != '.')).drop 1
  let scale := readScale ((text.dropWhile (· != 'e')).drop 1) - fraction.length
  Float.ofScientific (digitsValue (whole ++ fraction)) (decide (scale < 0)) scale.natAbs

/-- The exact value behind the text of a double, unless it is infinite or not a number. -/
def dyadicOf? (text : String) : Option Dyadic :=
  let unsigned (digits : List Char) : Option Dyadic :=
    if digits.head?.any Char.isDigit then some (Dyadic.ofBits (readDouble digits).toBits.toNat)
    else none
  match text.toList with
  | '-' :: digits => (unsigned digits).map fun x => ⟨-x.numerator, x.exponent⟩
  | digits => unsigned digits

end Intake.Payload
