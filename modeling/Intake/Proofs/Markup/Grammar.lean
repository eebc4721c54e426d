import Intake.Markup.Element
import Intake.Markup.Tag
import Mathlib.Data.List.Forall2
import Mathlib.Data.List.TakeWhile

/-!
# The grammar of markup

Tags and dropped elements are recognized by readers that answer with what follows a match at the
front of a text. Here they are words of a grammar, `IsTag` and `IsElement`, which says of what parts
such a word consists and nothing about how it is looked for.

`after?_tag_eq_some_iff` says that the tag reader finds exactly the tags. What the element reader
finds is in `Intake.Proofs.Markup.Elements`.
-/

namespace Intake.Markup

/-! ## Words -/

/-- A text of blanks, possibly empty. -/
def Blanks (s : List Char) : Prop := ∀ c ∈ s, Text.isBlank c = true

instance (s : List Char) : Decidable (Blanks s) :=
  decidable_of_iff (s.all Text.isBlank = true) List.all_eq_true

/-- What can stand between the opening bracket of a tag and its name, blanks aside. -/
def tagMarks : List (List Char) := [[], ['/'], ['!']]

inductive IsTag : List Char → Prop
  | mk {before mark between text : List Char} {letter : Char} :
    Blanks before → mark ∈ tagMarks → Blanks between → letter.isAlpha = true →
      (∀ c ∈ text, isTagText c = true) →
        IsTag ('<' :: (before ++ (mark ++ (between ++ letter :: (text ++ ['>'])))))

/-- A name of a dropped element, as it is written. -/
def Spelled (written : List Char) : Prop :=
  ∃ name ∈ droppedNames, List.Forall₂ (fun letter c => spells letter c = true) name written

/-- The opening tag of a dropped element. Its name ends where no word character follows. -/
inductive IsOpening (written : List Char) : List Char → Prop
  | mk {before attributes : List Char} :
    Spelled written → Blanks before → Text.wordEndsBefore (attributes ++ ['>']) = true →
      '>' ∉ attributes → IsOpening written ('<' :: (before ++ (written ++ (attributes ++ ['>']))))

/-- A closing tag, which repeats a name. -/
inductive IsClosing (written : List Char) : List Char → Prop
  | mk {before between after repeated : List Char} :
    Blanks before → Blanks between → Blanks after →
      List.Forall₂ (fun c d => repeats c d = true) written repeated →
        IsClosing written
          ('<' :: (before ++ '/' :: (between ++ (repeated ++ (after ++ ['>'])))))

/-- A dropped element: an opening tag, any content, and a closing tag of the name as written. -/
inductive IsElement : List Char → Prop
  | mk {written opening content closing : List Char} :
    IsOpening written opening → IsClosing written closing →
      IsElement (opening ++ (content ++ closing))

/-! ## Blanks -/

theorem exists_blanks (s : List Char) : ∃ blanks, Blanks blanks ∧ s = blanks ++ Text.dropBlanks s :=
  ⟨s.takeWhile Text.isBlank, fun _ => List.mem_takeWhile_imp, List.takeWhile_append_dropWhile.symm⟩

theorem dropBlanks_append {blanks : List Char} (blank : Blanks blanks) (s : List Char) :
    Text.dropBlanks (blanks ++ s) = Text.dropBlanks s :=
  List.dropWhile_append_of_pos blank

theorem dropBlanks_cons {c : Char} (solid : Text.isBlank c = false) (s : List Char) :
    Text.dropBlanks (c :: s) = c :: s :=
  List.dropWhile_cons_of_neg (by simp [solid])

theorem toNat_of_isBlank {c : Char} (blank : Text.isBlank c = true) :
    c.toNat ≤ 0x20 ∨ 0x85 ≤ c.toNat := by
  obtain ⟨first, last, listed, low, high⟩ := Text.CodePoints.contains_eq_true_iff.1 blank
  have far : ∀ range ∈ Text.blanks, range.2 ≤ 0x20 ∨ 0x85 ≤ range.1 := by decide
  rcases far _ listed with early | late
  · exact .inl (high.trans early)
  · exact .inr (late.trans low)

theorem toNat_of_isAlpha {c : Char} (letter : c.isAlpha = true) :
    0x41 ≤ c.toNat ∧ c.toNat ≤ 0x7A := by
  change (decide (c.val ≥ 'A'.val ∧ c.val ≤ 'Z'.val) ||
    (decide (c.val ≥ 'a'.val) && decide (c.val ≤ 'z'.val))) = true at letter
  simp only [Bool.or_eq_true, Bool.and_eq_true, decide_eq_true_eq, ge_iff_le,
    UInt32.le_iff_toNat_le] at letter
  have same : c.toNat = c.val.toNat := rfl
  have : 'A'.val.toNat = 0x41 := rfl
  have : 'Z'.val.toNat = 0x5A := rfl
  have : 'a'.val.toNat = 0x61 := rfl
  have : 'z'.val.toNat = 0x7A := rfl
  omega

theorem isBlank_of_isAlpha {c : Char} (letter : c.isAlpha = true) : Text.isBlank c = false := by
  rw [Bool.eq_false_iff]
  intro blank
  have bounds := toNat_of_isAlpha letter
  have gap := toNat_of_isBlank blank
  omega

/-! ## Tags -/

theorem exists_tagMark (s : List Char) :
    ∃ mark ∈ tagMarks, ∃ between, Blanks between ∧ s = mark ++ (between ++ dropTagMark s) := by
  unfold dropTagMark
  split
  · next t =>
    obtain ⟨between, blank, same⟩ := exists_blanks t
    exact ⟨['/'], by decide, between, blank, congrArg ('/' :: ·) same⟩
  · next t =>
    obtain ⟨between, blank, same⟩ := exists_blanks t
    exact ⟨['!'], by decide, between, blank, congrArg ('!' :: ·) same⟩
  · exact ⟨[], by decide, [], nofun, rfl⟩

/-- Marks and blanks are skipped up to the first letter. -/
theorem dropTagMark_of_letter {mark between s : List Char} {letter : Char}
    (marked : mark ∈ tagMarks) (blank : Blanks between) (isLetter : letter.isAlpha = true) :
    dropTagMark (Text.dropBlanks (mark ++ (between ++ letter :: s))) = letter :: s := by
  have solid := isBlank_of_isAlpha isLetter
  have skipped : Text.dropBlanks (between ++ letter :: s) = letter :: s := by
    rw [dropBlanks_append blank, dropBlanks_cons solid]
  rcases List.mem_cons.1 marked with rfl | marked
  · rw [List.nil_append, skipped]
    unfold dropTagMark
    split
    · next same => cases same; cases isLetter
    · next same => cases same; cases isLetter
    · rfl
  · rcases List.mem_cons.1 marked with rfl | marked
    · rw [List.singleton_append, dropBlanks_cons (by decide)]
      exact skipped
    · obtain rfl := List.mem_singleton.1 marked
      rw [List.singleton_append, dropBlanks_cons (by decide)]
      exact skipped

theorem dropWhile_isTagText {text : List Char} (inside : ∀ c ∈ text, isTagText c = true)
    (s : List Char) : (text ++ '>' :: s).dropWhile isTagText = '>' :: s := by
  rw [List.dropWhile_append_of_pos inside]
  exact List.dropWhile_cons_of_neg (by decide)

theorem afterTagName?_eq_some_iff {s r : List Char} :
    afterTagName? s = some r ↔
      ∃ letter text, letter.isAlpha = true ∧ (∀ c ∈ text, isTagText c = true) ∧
        s = letter :: (text ++ '>' :: r) := by
  apply Iff.intro
  · intro read
    cases s with
    | nil => cases read
    | cons letter s =>
      by_cases isLetter : letter.isAlpha = true
      · rw [afterTagName?, if_pos isLetter, afterChar?_eq_some_iff] at read
        refine ⟨letter, s.takeWhile isTagText, isLetter, fun _ => List.mem_takeWhile_imp, ?_⟩
        rw [← read, List.takeWhile_append_dropWhile]
      · rw [afterTagName?, if_neg isLetter] at read
        cases read
  · intro found
    rcases found with ⟨letter, text, isLetter, inside, rfl⟩
    rw [afterTagName?, if_pos isLetter, dropWhile_isTagText inside, afterChar?_eq_some_iff]

/-- The tag reader finds the tags, and each of them as a whole. -/
theorem after?_tag_eq_some_iff {s r : List Char} :
    tag.after? s = some r ↔ ∃ w, IsTag w ∧ s = w ++ r := by
  apply Iff.intro
  · intro read
    obtain ⟨t, opened, rest⟩ := Option.bind_eq_some_iff.1 read
    rw [afterChar?_eq_some_iff] at opened
    obtain ⟨before, blankBefore, sameBefore⟩ := exists_blanks t
    obtain ⟨mark, marked, between, blankBetween, sameBetween⟩ :=
      exists_tagMark (Text.dropBlanks t)
    obtain ⟨letter, text, isLetter, inside, sameName⟩ := afterTagName?_eq_some_iff.1 rest
    refine ⟨_, .mk blankBefore marked blankBetween isLetter inside, ?_⟩
    rw [opened, sameBefore, sameBetween, sameName]
    simp
  · intro found
    rcases found with ⟨w, ⟨blankBefore, marked, blankBetween, isLetter, inside⟩, rfl⟩
    have unfolded (t : List Char) : tag.after? t = afterTag? t := rfl
    simp only [List.append_assoc, List.cons_append, List.nil_append]
    rw [unfolded, afterTag?, Option.bind_eq_some_iff]
    refine ⟨_, afterChar?_eq_some_iff.2 rfl, ?_⟩
    rw [dropBlanks_append blankBefore, dropTagMark_of_letter marked blankBetween isLetter]
    exact afterTagName?_eq_some_iff.2 ⟨_, _, isLetter, inside, rfl⟩

end Intake.Markup
