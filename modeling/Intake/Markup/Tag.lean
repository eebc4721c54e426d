import Intake.Markup.Pattern

/-!
Tags. A tag is an opening bracket, possibly a slash or an exclamation mark, a letter, and anything
up to the closing bracket except another bracket. Blanks may stand before and after the mark.
-/

namespace Intake.Markup

/-- Whether a character can stand inside a tag. -/
def isTagText (c : Char) : Bool :=
  c != '<' && c != '>'

/-- The text behind the mark of a closing tag or a declaration, where there is one. -/
def dropTagMark (s : List Char) : List Char :=
  match s with
  | '/' :: t => Text.dropBlanks t
  | '!' :: t => Text.dropBlanks t
  | _ => s

/-- What follows the rest of a tag whose beginning has been read up to its first letter. -/
def afterTagName? : List Char → Option (List Char)
  | [] => none
  | c :: s => if c.isAlpha then afterChar? '>' (s.dropWhile isTagText) else none

/-- What follows a tag at the front of a text. -/
def afterTag? (s : List Char) : Option (List Char) :=
  (afterChar? '<' s).bind fun t => afterTagName? (dropTagMark (Text.dropBlanks t))

theorem dropTagMark_suffix (s : List Char) : dropTagMark s <:+ s := by
  unfold dropTagMark
  split
  · exact (dropBlanks_suffix _).trans (List.suffix_cons _ _)
  · exact (dropBlanks_suffix _).trans (List.suffix_cons _ _)
  · exact List.suffix_refl _

theorem afterTagName?_suffix {s r : List Char} (read : afterTagName? s = some r) : r <:+ s := by
  cases s with
  | nil => simp [afterTagName?] at read
  | cons c s =>
    by_cases letter : c.isAlpha
    · rw [afterTagName?, if_pos letter, afterChar?_eq_some_iff] at read
      have inside := List.dropWhile_suffix isTagText (l := s)
      rw [read] at inside
      exact ((List.suffix_cons '>' r).trans inside).trans (List.suffix_cons c s)
    · rw [afterTagName?, if_neg letter] at read
      cases read

/-- The pattern of a single tag. -/
def tag : Pattern where
  after? := afterTag?
  consumes := by
    intro s r read
    obtain ⟨t, opened, rest⟩ := Option.bind_eq_some_iff.1 read
    rw [afterChar?_eq_some_iff] at opened
    exact ⟨'<', t, opened,
      ((afterTagName?_suffix rest).trans (dropTagMark_suffix _)).trans (dropBlanks_suffix t)⟩

end Intake.Markup
