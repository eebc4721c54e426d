/-!
Whether a text stands inside another one, without gaps.
-/

namespace Intake.Text

/-- Whether the characters of a part stand somewhere in a text, one after the other. The empty part
stands in every text. -/
def occursIn (part : List Char) : List Char → Bool
  | [] => part.isEmpty
  | c :: s => part.isPrefixOf (c :: s) || occursIn part s

/-- Standing inside a text is being an infix of it. -/
theorem occursIn_eq_true_iff {part whole : List Char} :
    occursIn part whole = true ↔ part <:+: whole := by
  induction whole with
  | nil => simp [occursIn]
  | cons c s ih => simp [occursIn, ih, List.infix_cons_iff]

end Intake.Text
