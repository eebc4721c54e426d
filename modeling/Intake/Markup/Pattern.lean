import Intake.Text.Blank

/-!
Patterns that a text is cleaned of. A `Pattern` looks at the front of a text and answers with what
follows its match there. `Pattern.deleteAll` walks over a text once, from left to right, and leaves
out every match; it never looks back at the text that a deletion has joined.

`Pattern.deleteAll_of_match` and `Pattern.deleteAll_of_noMatch` are its two steps.
-/

namespace Intake.Markup

/-! ## Reading the front of a text -/

/-- What follows `c`, when the text begins with it. -/
def afterChar? (c : Char) : List Char → Option (List Char)
  | [] => none
  | d :: s => if d = c then some s else none

theorem afterChar?_eq_some_iff {c : Char} {s r : List Char} :
    afterChar? c s = some r ↔ s = c :: r := by
  cases s with
  | nil => simp [afterChar?]
  | cons d t => by_cases same : d = c <;> simp [afterChar?, same]

/-- What follows a word at the front of a text, where `alike` compares each letter of the word with
the character in its place. -/
def afterWord? (alike : Char → Char → Bool) : List Char → List Char → Option (List Char)
  | [], s => some s
  | _ :: _, [] => none
  | n :: word, c :: s => if alike n c then afterWord? alike word s else none

theorem afterWord?_suffix {alike : Char → Char → Bool} {word s r : List Char}
    (read : afterWord? alike word s = some r) : r <:+ s := by
  induction word generalizing s with
  | nil => simp only [afterWord?, Option.some.injEq] at read; exact read ▸ List.suffix_refl s
  | cons n word ih =>
    cases s with
    | nil => simp [afterWord?] at read
    | cons c s =>
      by_cases same : alike n c
      · rw [afterWord?, if_pos same] at read
        exact (ih read).trans (List.suffix_cons c s)
      · rw [afterWord?, if_neg same] at read
        cases read

/-- What follows the first place at which `after?` finds something. -/
def afterFirst? (after? : List Char → Option (List Char)) : List Char → Option (List Char)
  | [] => none
  | c :: s =>
    match after? (c :: s) with
    | some r => some r
    | none => afterFirst? after? s

theorem afterFirst?_suffix {after? : List Char → Option (List Char)} {s r : List Char}
    (shorter : ∀ {s r}, after? s = some r → r <:+ s)
    (read : afterFirst? after? s = some r) : r <:+ s := by
  induction s with
  | nil => simp [afterFirst?] at read
  | cons c s ih =>
    cases front : after? (c :: s) with
    | some t =>
      simp only [afterFirst?, front, Option.some.injEq] at read
      exact read ▸ shorter front
    | none =>
      simp only [afterFirst?, front] at read
      exact (ih read).trans (List.suffix_cons c s)

theorem dropBlanks_suffix (s : List Char) : Text.dropBlanks s <:+ s :=
  List.dropWhile_suffix _

/-! ## Patterns -/

/-- A pattern, as the reader of one match: given a text, what follows the match at its front. A
match takes at least one character. -/
structure Pattern where
  after? : List Char → Option (List Char)
  consumes : ∀ {s r}, after? s = some r → ∃ c t, s = c :: t ∧ r <:+ t

theorem Pattern.length_lt {p : Pattern} {s r : List Char} (read : p.after? s = some r) :
    r.length < s.length := by
  obtain ⟨c, t, rfl, suffix⟩ := p.consumes read
  exact Nat.lt_succ_of_le suffix.length_le

/-- The text without the matches that one walk from left to right meets. -/
def Pattern.deleteAll (p : Pattern) : List Char → List Char
  | [] => []
  | c :: s =>
    match _read : p.after? (c :: s) with
    | some r => p.deleteAll r
    | none => c :: p.deleteAll s
termination_by s => s.length
decreasing_by
  · exact p.length_lt _read
  · exact Nat.lt_succ_self _

@[simp] theorem Pattern.deleteAll_nil (p : Pattern) : p.deleteAll [] = [] := by
  rw [deleteAll]

theorem Pattern.deleteAll_of_match {p : Pattern} {s r : List Char} (read : p.after? s = some r) :
    p.deleteAll s = p.deleteAll r := by
  obtain ⟨c, t, rfl, -⟩ := p.consumes read
  rw [deleteAll]
  split
  · rename_i found
    rw [read] at found
    cases found
    rfl
  · rename_i missed
    rw [read] at missed
    cases missed

theorem Pattern.deleteAll_of_noMatch {p : Pattern} {c : Char} {s : List Char}
    (unread : p.after? (c :: s) = none) : p.deleteAll (c :: s) = c :: p.deleteAll s := by
  rw [deleteAll]
  split
  · rename_i found
    rw [unread] at found
    cases found
  · rfl

end Intake.Markup
