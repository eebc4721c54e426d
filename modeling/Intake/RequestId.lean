/-!
Request ids. An id holds the clock's milliseconds, in base 36, and a random text; both can be read
off it again.
-/

namespace Intake

/-! ## Base 36 -/

/-- The digit of a number below 36: the decimal digits, then the small letters. -/
def base36Digit (n : Nat) : Char :=
  if n < 10 then Char.ofNat ('0'.toNat + n) else Char.ofNat ('a'.toNat + (n - 10))

/-- The digits of a number in base 36, leading ones first. Zero has one digit. -/
def base36 (n : Nat) : List Char :=
  if n < 36 then [base36Digit n] else base36 (n / 36) ++ [base36Digit (n % 36)]

/-! ## Ids -/

/-- What an id is made from: the time in milliseconds, and a random text. -/
structure Clock where
  milliseconds : Nat
  random : String
  deriving DecidableEq, Repr

/-- The id of a request that comes in now. -/
def Clock.requestId (clock : Clock) : String :=
  "req_" ++ String.ofList (base36 clock.milliseconds) ++ "_" ++ clock.random

end Intake
