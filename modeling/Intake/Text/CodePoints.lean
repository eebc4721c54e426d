/-!
Sets of characters, written as the intervals of code points that they cover.
-/

namespace Intake.Text

/-- A set of characters as inclusive intervals of code points. -/
abbrev CodePoints := List (Nat × Nat)

/-- A character is in the set when one interval covers its code point. -/
def CodePoints.contains (set : CodePoints) (c : Char) : Bool :=
  set.any fun (first, last) => first ≤ c.toNat && c.toNat ≤ last

theorem CodePoints.contains_eq_true_iff {set : CodePoints} {c : Char} :
    set.contains c = true ↔
      ∃ first last, (first, last) ∈ set ∧ first ≤ c.toNat ∧ c.toNat ≤ last := by
  simp [CodePoints.contains]

end Intake.Text
