import Intake.Payload.Dyadic

/-!
When two payloads count as equal. Truth values are the numbers zero and one, numbers are equal when
their values are, a view equals the record it shows, and the two sorts of sets are not told apart.
Lists and tuples are. A function equals only itself.
-/

namespace Intake.Payload

/-- Equality of numbers; truth values count as numbers. -/
def sameNumber : Payload → Payload → Bool
  | .bool a, .bool b => a == b
  | .bool a, .int n => a.toInt == n
  | .int n, .bool b => n == b.toInt
  | .int m, .int n => m == n
  | .float x, .float y => (x == y && x != "nan") || (x == "0.0" && y == "-0.0") ||
      (x == "-0.0" && y == "0.0")
  | .float x, .int n => (dyadicOf? x).any (·.isInt n)
  | .int n, .float x => (dyadicOf? x).any (·.isInt n)
  | .float x, .bool b => (dyadicOf? x).any (·.isInt b.toInt)
  | .bool b, .float x => (dyadicOf? x).any (·.isInt b.toInt)
  | _, _ => false

mutual

/-- Whether two payloads count as equal. -/
def same : Payload → Payload → Bool
  | .null, .null => true
  | .text s, .text t => s == t
  | .octets a, .octets b => a == b
  | .list xs, .list ys => sameItems xs ys
  | .tuple xs, .tuple ys => sameItems xs ys
  | .set xs, .set ys => xs.length == ys.length && allAmong xs ys
  | .set xs, .frozenSet ys => xs.length == ys.length && allAmong xs ys
  | .frozenSet xs, .set ys => xs.length == ys.length && allAmong xs ys
  | .frozenSet xs, .frozenSet ys => xs.length == ys.length && allAmong xs ys
  | .record xs, .record ys => xs.length == ys.length && allStored xs ys
  | .record xs, .view ys => xs.length == ys.length && allStored xs ys
  | .view xs, .record ys => xs.length == ys.length && allStored xs ys
  | .view xs, .view ys => xs.length == ys.length && allStored xs ys
  | .function f, .function g => f == g
  | x, y => sameNumber x y

/-- Equality item by item. -/
def sameItems : List Payload → List Payload → Bool
  | [], [] => true
  | x :: xs, y :: ys => same x y && sameItems xs ys
  | _, _ => false

/-- Whether every item has an equal among the others. -/
def allAmong : List Payload → List Payload → Bool
  | [], _ => true
  | x :: xs, ys => ys.any (fun y => same x y) && allAmong xs ys

/-- Whether every field is stored with an equal value among the others. -/
def allStored : List (String × Payload) → List (String × Payload) → Bool
  | [], _ => true
  | (name, x) :: xs, ys => (Fields.get? ys name).any (fun y => same x y) && allStored xs ys

end

/-- The items without those that equal an earlier one. -/
def distinct (items : List Payload) : List Payload :=
  items.foldl (fun kept item => if kept.any (same · item) then kept else kept ++ [item]) []

end Intake.Payload
