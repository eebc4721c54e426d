import Intake.Markup.Pattern
import Intake.Text.Word

/-!
Elements whose content is never text: scripts, style sheets, frames and embedded objects. Such an
element reaches from its opening tag to the first closing tag of the same name, whatever stands
between them.

Names are read without regard to letter case. The long s stands for an s in an opening tag, and
the dotted and the dotless i stand for an i; a closing tag has to repeat the name as it was opened,
up to the case of its letters, and there only the dotted capital counts as an i.
-/

namespace Intake.Markup

/-- The names of the elements that are dropped together with their content. -/
def droppedNames : List (List Char) :=
  ["script".toList, "style".toList, "iframe".toList, "object".toList]

/-- A letter without its case. -/
def foldLetter (c : Char) : Char :=
  if c == 'İ' then 'i' else c.toLower

/-- Whether a character can be written for a small letter of an element's name. -/
def spells (letter c : Char) : Bool :=
  foldLetter c == letter || (letter == 's' && c == 'ſ') || (letter == 'i' && c == 'ı')

/-- Whether two characters repeat each other up to letter case. -/
def repeats (c d : Char) : Bool :=
  foldLetter c == foldLetter d

/-- The name of a dropped element at the front of a text, as it is written there, and what follows
it. -/
def readDroppedName? (s : List Char) : Option (List Char × List Char) :=
  droppedNames.findSome? fun name =>
    (afterWord? spells name s).map fun r => (s.take name.length, r)

/-- What follows a closing tag of the element whose name was written `written`. -/
def afterClosingTag? (written : List Char) (s : List Char) : Option (List Char) := do
  let s ← afterChar? '<' s
  let s ← afterChar? '/' (Text.dropBlanks s)
  let s ← afterWord? repeats written (Text.dropBlanks s)
  afterChar? '>' (Text.dropBlanks s)

/-- What follows the opening tag of a dropped element, with the name as it is written there. -/
def readOpeningTag? (s : List Char) : Option (List Char × List Char) := do
  let s ← afterChar? '<' s
  let (written, s) ← readDroppedName? (Text.dropBlanks s)
  if Text.wordEndsBefore s then
    let s ← afterChar? '>' (s.dropWhile (· != '>'))
    some (written, s)
  else
    none

/-- What follows a dropped element at the front of a text. -/
def afterElement? (s : List Char) : Option (List Char) := do
  let (written, s) ← readOpeningTag? s
  afterFirst? (afterClosingTag? written) s

theorem readDroppedName?_suffix {s written r : List Char}
    (read : readDroppedName? s = some (written, r)) : r <:+ s := by
  obtain ⟨name, -, found⟩ := List.exists_of_findSome?_eq_some read
  obtain ⟨t, word, same⟩ := Option.map_eq_some_iff.1 found
  cases same
  exact afterWord?_suffix word

theorem afterClosingTag?_suffix {written s r : List Char}
    (read : afterClosingTag? written s = some r) : r <:+ s := by
  simp only [afterClosingTag?, Option.bind_eq_bind, Option.bind_eq_some_iff] at read
  obtain ⟨t, opened, u, slash, v, word, closed⟩ := read
  rw [afterChar?_eq_some_iff] at opened slash closed
  subst opened
  have last := dropBlanks_suffix v
  rw [closed] at last
  have middle := dropBlanks_suffix t
  rw [slash] at middle
  exact ((((List.suffix_cons '>' r).trans last).trans (afterWord?_suffix word)).trans
    ((dropBlanks_suffix u).trans (List.suffix_cons '/' u))).trans
      (middle.trans (List.suffix_cons '<' t))

theorem readOpeningTag?_consumes {s written r : List Char}
    (read : readOpeningTag? s = some (written, r)) : ∃ c t, s = c :: t ∧ r <:+ t := by
  simp only [readOpeningTag?, Option.bind_eq_bind, Option.bind_eq_some_iff] at read
  obtain ⟨t, opened, ⟨name, u⟩, named, rest⟩ := read
  rw [afterChar?_eq_some_iff] at opened
  refine ⟨'<', t, opened, ?_⟩
  by_cases ended : Text.wordEndsBefore u
  · rw [if_pos ended] at rest
    obtain ⟨v, closed, same⟩ := Option.bind_eq_some_iff.1 rest
    cases same
    rw [afterChar?_eq_some_iff] at closed
    have attributes := List.dropWhile_suffix (· != '>') (l := u)
    rw [closed] at attributes
    exact (((List.suffix_cons '>' r).trans attributes).trans (readDroppedName?_suffix named)).trans
      (dropBlanks_suffix t)
  · rw [if_neg ended] at rest
    cases rest

/-- The pattern of a dropped element, from its opening tag to its closing tag. -/
def element : Pattern where
  after? := afterElement?
  consumes := by
    intro s r read
    obtain ⟨⟨written, u⟩, opened, closed⟩ := Option.bind_eq_some_iff.1 read
    obtain ⟨c, t, same, suffix⟩ := readOpeningTag?_consumes opened
    exact ⟨c, t, same, (afterFirst?_suffix afterClosingTag?_suffix closed).trans suffix⟩

end Intake.Markup
