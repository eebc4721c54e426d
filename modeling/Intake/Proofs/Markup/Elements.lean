import Intake.Proofs.Markup.Grammar

/-!
# Reading dropped elements

The reader of a dropped element goes by the parts of the grammar: it reads the opening tag with the
name as it is written there, and looks for the first closing tag that repeats the name. Each part is
characterized on its own; what can go wrong between them is that two names are read at one place,
which `eq_of_spelled_prefixes` excludes, or that a name is mistaken for a blank.

An element can reach up to more than one place, because its closing tag can come again.
`after?_element_eq_none_iff` says that the reader finds an element wherever there is one.
-/

namespace Intake.Markup

/-! ## Names -/

theorem afterWord?_eq_some_iff {alike : Char → Char → Bool} {word s r : List Char} :
    afterWord? alike word s = some r ↔
      ∃ w, List.Forall₂ (fun n c => alike n c = true) word w ∧ s = w ++ r := by
  induction word generalizing s with
  | nil =>
    apply Iff.intro
    · intro same
      cases same
      exact ⟨[], .nil, rfl⟩
    · intro found
      rcases found with ⟨w, ⟨⟩, rfl⟩
      rfl
  | cons n word ih =>
    cases s with
    | nil =>
      refine ⟨nofun, ?_⟩
      intro found
      rcases found with ⟨w, ⟨-, -⟩, same⟩
      cases same
    | cons c s =>
      refine ⟨?_, ?_⟩
      · intro read
        by_cases same : alike n c = true
        · rw [afterWord?, if_pos same] at read
          obtain ⟨w, matched, rfl⟩ := ih.1 read
          exact ⟨c :: w, .cons same matched, rfl⟩
        · rw [afterWord?, if_neg same] at read
          cases read
      · intro found
        rcases found with ⟨w, matched, split⟩
        cases matched with
        | cons same matched =>
          cases split
          rw [afterWord?, if_pos same]
          exact ih.2 ⟨_, matched, rfl⟩

/-- The letter that a character stands for in a name. -/
def letterOf (c : Char) : Char :=
  if c = 'ſ' then 's' else if c = 'ı' then 'i' else foldLetter c

theorem letterOf_of_spells {letter c : Char} (plain : letter ≠ 'ſ' ∧ letter ≠ 'ı')
    (spelled : spells letter c = true) : letterOf c = letter := by
  unfold spells at spelled
  simp only [Bool.or_eq_true, Bool.and_eq_true, beq_iff_eq] at spelled
  rcases spelled with (folded | ⟨rfl, rfl⟩) | ⟨rfl, rfl⟩
  · have long : c ≠ 'ſ' := by
      intro same
      subst same
      exact plain.1 (folded.symm.trans (by decide))
    have dotless : c ≠ 'ı' := by
      intro same
      subst same
      exact plain.2 (folded.symm.trans (by decide))
    rw [letterOf, if_neg long, if_neg dotless, folded]
  · rfl
  · rfl

theorem map_letterOf {name written : List Char}
    (plain : ∀ letter ∈ name, letter ≠ 'ſ' ∧ letter ≠ 'ı')
    (spelled : List.Forall₂ (fun letter c => spells letter c = true) name written) :
    written.map letterOf = name := by
  induction spelled with
  | nil => rfl
  | cons same spelled ih =>
    rw [List.map_cons, letterOf_of_spells (plain _ List.mem_cons_self) same,
      ih fun letter later => plain letter (List.mem_cons_of_mem _ later)]

/-- No text begins with more than one of the names. -/
theorem eq_of_spelled_prefixes {name other written another r u : List Char}
    (listed : name ∈ droppedNames) (listedToo : other ∈ droppedNames)
    (spelled : List.Forall₂ (fun letter c => spells letter c = true) name written)
    (spelledToo : List.Forall₂ (fun letter c => spells letter c = true) other another)
    (same : written ++ r = another ++ u) : name = other := by
  have checked : (droppedNames.all fun name => name.all fun letter =>
      letter != 'ſ' && letter != 'ı') = true := by decide
  have plain : ∀ name ∈ droppedNames, ∀ letter ∈ name, letter ≠ 'ſ' ∧ letter ≠ 'ı' := by
    simpa only [List.all_eq_true, Bool.and_eq_true, bne_iff_ne] using checked
  have apart : ∀ name ∈ droppedNames, ∀ other ∈ droppedNames, name <+: other → name = other := by
    decide
  have front : name <+: (written ++ r).map letterOf := by
    rw [List.map_append, map_letterOf (plain name listed) spelled]
    exact List.prefix_append _ _
  have frontToo : other <+: (written ++ r).map letterOf := by
    rw [same, List.map_append, map_letterOf (plain other listedToo) spelledToo]
    exact List.prefix_append _ _
  rcases List.prefix_or_prefix_of_prefix front frontToo with shorter | longer
  · exact apart name listed other listedToo shorter
  · exact (apart other listedToo name listed longer).symm

theorem readDroppedName?_eq_some_iff {s written r : List Char} :
    readDroppedName? s = some (written, r) ↔ Spelled written ∧ s = written ++ r := by
  apply Iff.intro
  · intro read
    obtain ⟨name, listed, found⟩ := List.exists_of_findSome?_eq_some read
    obtain ⟨t, word, same⟩ := Option.map_eq_some_iff.1 found
    obtain ⟨w, spelled, rfl⟩ := afterWord?_eq_some_iff.1 word
    have taken : (w ++ t).take name.length = w := by
      rw [spelled.length_eq, List.take_left]
    rw [taken] at same
    cases same
    exact ⟨⟨name, listed, spelled⟩, rfl⟩
  · intro found
    rcases found with ⟨⟨name, listed, spelled⟩, rfl⟩
    have word : afterWord? spells name (written ++ r) = some r :=
      afterWord?_eq_some_iff.2 ⟨written, spelled, rfl⟩
    have taken : (written ++ r).take name.length = written := by
      rw [spelled.length_eq, List.take_left]
    -- Whichever name is found first is this one.
    cases read : readDroppedName? (written ++ r) with
    | none =>
      have unread := List.findSome?_eq_none_iff.1 read name listed
      rw [word] at unread
      cases unread
    | some found =>
      obtain ⟨other, listedToo, foundToo⟩ := List.exists_of_findSome?_eq_some read
      obtain ⟨t, wordToo, same⟩ := Option.map_eq_some_iff.1 foundToo
      obtain ⟨another, spelledToo, split⟩ := afterWord?_eq_some_iff.1 wordToo
      obtain rfl := eq_of_spelled_prefixes listed listedToo spelled spelledToo split
      rw [word] at wordToo
      cases wordToo
      rw [← same, taken]

/-! ## Names and blanks -/

theorem foldLetter_of_isBlank {c : Char} (blank : Text.isBlank c = true) : foldLetter c = c := by
  have other : (c == 'İ') = false := by
    rw [beq_eq_false_iff_ne]
    intro same
    subst same
    revert blank
    decide
  have gap := toNat_of_isBlank blank
  have kept : c.toLower = c := by
    unfold Char.toLower
    have : 'A'.val.toNat = 0x41 := rfl
    have : 'Z'.val.toNat = 0x5A := rfl
    have : c.toNat = c.val.toNat := rfl
    rw [dif_neg]
    simp only [ge_iff_le, UInt32.le_iff_toNat_le]
    omega
  rw [foldLetter, other]
  exact kept

/-- A name begins with no blank, and with nothing that repeats one. -/
theorem Spelled.exists_cons {written : List Char} (spelled : Spelled written) :
    ∃ c rest, written = c :: rest ∧ Text.isBlank (foldLetter c) = false := by
  obtain ⟨name, listed, matched⟩ := spelled
  have solid : ∀ name ∈ droppedNames,
      name.head?.any (fun letter => !Text.isBlank letter) = true := by
    decide
  have first := solid name listed
  cases matched with
  | nil => cases first
  | @cons letter c _ rest same matched =>
    refine ⟨c, rest, rfl, ?_⟩
    unfold spells at same
    simp only [Bool.or_eq_true, Bool.and_eq_true, beq_iff_eq] at same
    rcases same with (folded | ⟨-, rfl⟩) | ⟨-, rfl⟩
    · rw [folded]
      simpa using first
    · decide
    · decide

theorem isBlank_of_foldLetter {c : Char} (solid : Text.isBlank (foldLetter c) = false) :
    Text.isBlank c = false := by
  rw [Bool.eq_false_iff]
  intro blank
  rw [foldLetter_of_isBlank blank, blank] at solid
  cases solid

theorem dropBlanks_written {before written : List Char} (blank : Blanks before)
    (spelled : Spelled written) (s : List Char) :
    Text.dropBlanks (before ++ (written ++ s)) = written ++ s := by
  obtain ⟨c, rest, rfl, solid⟩ := spelled.exists_cons
  rw [dropBlanks_append blank]
  exact dropBlanks_cons (isBlank_of_foldLetter solid) _

theorem dropBlanks_repeated {between written repeated : List Char} (blank : Blanks between)
    (spelled : Spelled written)
    (same : List.Forall₂ (fun c d => repeats c d = true) written repeated) (s : List Char) :
    Text.dropBlanks (between ++ (repeated ++ s)) = repeated ++ s := by
  obtain ⟨c, rest, rfl, solid⟩ := spelled.exists_cons
  cases same with
  | cons first later =>
    rw [repeats, beq_iff_eq] at first
    rw [first] at solid
    rw [dropBlanks_append blank]
    exact dropBlanks_cons (isBlank_of_foldLetter solid) _

/-! ## Opening and closing tags -/

theorem wordEndsBefore_append (attributes r : List Char) :
    Text.wordEndsBefore (attributes ++ '>' :: r) = Text.wordEndsBefore (attributes ++ ['>']) := by
  cases attributes <;> rfl

theorem dropWhile_attributes {attributes : List Char} (inside : '>' ∉ attributes) (r : List Char) :
    (attributes ++ '>' :: r).dropWhile (· != '>') = '>' :: r := by
  have text : ∀ c ∈ attributes, (c != '>') = true := fun c found =>
    bne_iff_ne.2 fun same => inside (same ▸ found)
  rw [List.dropWhile_append_of_pos text]
  exact List.dropWhile_cons_of_neg (by decide)

theorem exists_attributes {s r : List Char} (read : s.dropWhile (· != '>') = '>' :: r) :
    ∃ attributes, '>' ∉ attributes ∧ s = attributes ++ '>' :: r := by
  refine ⟨s.takeWhile (· != '>'), fun found => ?_, ?_⟩
  · have inside := List.mem_takeWhile_imp found
    revert inside
    decide
  · rw [← read, List.takeWhile_append_dropWhile]

theorem readOpeningTag?_eq_some_iff {s written r : List Char} :
    readOpeningTag? s = some (written, r) ↔ ∃ w, IsOpening written w ∧ s = w ++ r := by
  unfold readOpeningTag?
  apply Iff.intro
  · intro read
    simp only [Option.bind_eq_bind, Option.bind_eq_some_iff] at read
    obtain ⟨t, opened, ⟨name, u⟩, named, rest⟩ := read
    rw [afterChar?_eq_some_iff] at opened
    obtain ⟨before, blank, split⟩ := exists_blanks t
    obtain ⟨spelled, splitName⟩ := readDroppedName?_eq_some_iff.1 named
    by_cases ended : Text.wordEndsBefore u = true
    · rw [if_pos ended] at rest
      obtain ⟨v, closed, same⟩ := Option.bind_eq_some_iff.1 rest
      cases same
      rw [afterChar?_eq_some_iff] at closed
      obtain ⟨attributes, inside, rfl⟩ := exists_attributes closed
      rw [wordEndsBefore_append] at ended
      refine ⟨_, .mk spelled blank ended inside, ?_⟩
      rw [opened, split, splitName]
      simp
    · rw [if_neg ended] at rest
      cases rest
  · intro found
    rcases found with ⟨w, ⟨spelled, blank, ended, inside⟩, rfl⟩
    simp only [List.append_assoc, List.cons_append, List.nil_append, Option.bind_eq_bind,
      Option.bind_eq_some_iff]
    refine ⟨_, afterChar?_eq_some_iff.2 rfl, ?_⟩
    rw [dropBlanks_written blank spelled]
    refine ⟨_, readDroppedName?_eq_some_iff.2 ⟨spelled, rfl⟩, ?_⟩
    rw [if_pos ((wordEndsBefore_append _ _).trans ended), dropWhile_attributes inside]
    exact Option.bind_eq_some_iff.2 ⟨_, afterChar?_eq_some_iff.2 rfl, rfl⟩

theorem afterClosingTag?_eq_some_iff {written : List Char} (spelled : Spelled written)
    {s r : List Char} :
    afterClosingTag? written s = some r ↔ ∃ w, IsClosing written w ∧ s = w ++ r := by
  unfold afterClosingTag?
  apply Iff.intro
  · intro read
    simp only [Option.bind_eq_bind, Option.bind_eq_some_iff, afterChar?_eq_some_iff] at read
    obtain ⟨t, opened, u, slash, v, word, closed⟩ := read
    obtain ⟨before, blankBefore, splitBefore⟩ := exists_blanks t
    obtain ⟨between, blankBetween, splitBetween⟩ := exists_blanks u
    obtain ⟨after, blankAfter, splitAfter⟩ := exists_blanks v
    obtain ⟨repeated, same, splitName⟩ := afterWord?_eq_some_iff.1 word
    refine ⟨_, .mk blankBefore blankBetween blankAfter same, ?_⟩
    rw [opened, splitBefore, slash, splitBetween, splitName, splitAfter, closed]
    simp
  · intro found
    rcases found with ⟨w, isClosing, rfl⟩
    rcases isClosing with
      @⟨before, between, after, repeated, blankBefore, blankBetween, blankAfter, same⟩
    have slash : Text.dropBlanks (before ++ '/' :: (between ++ (repeated ++ (after ++ '>' :: r)))) =
        '/' :: (between ++ (repeated ++ (after ++ '>' :: r))) := by
      rw [dropBlanks_append blankBefore]
      exact dropBlanks_cons (by decide) _
    have word : afterWord? repeats written
        (Text.dropBlanks (between ++ (repeated ++ (after ++ '>' :: r)))) =
          some (after ++ '>' :: r) := by
      rw [dropBlanks_repeated blankBetween spelled same]
      exact afterWord?_eq_some_iff.2 ⟨_, same, rfl⟩
    have closed : Text.dropBlanks (after ++ '>' :: r) = '>' :: r := by
      rw [dropBlanks_append blankAfter]
      exact dropBlanks_cons (by decide) _
    simp only [List.append_assoc, List.cons_append, List.nil_append, Option.bind_eq_bind,
      Option.bind_eq_some_iff, afterChar?_eq_some_iff]
    exact ⟨_, rfl, _, slash, _, word, closed⟩

/-! ## Elements -/

theorem IsOpening.spelled {written w : List Char} (opening : IsOpening written w) :
    Spelled written := by
  cases opening with
  | mk spelled => exact spelled

theorem IsClosing.ne_nil {written w : List Char} (closing : IsClosing written w) : w ≠ [] := by
  cases closing
  exact List.cons_ne_nil _ _

theorem afterFirst?_eq_none_iff {after? : List Char → Option (List Char)} {s : List Char} :
    afterFirst? after? s = none ↔ ∀ v, v <:+ s → v ≠ [] → after? v = none := by
  induction s with
  | nil =>
    refine ⟨fun _ v suffix something => ?_, fun _ => rfl⟩
    exact absurd (List.suffix_nil.1 suffix) something
  | cons c s ih =>
    rw [afterFirst?]
    cases front : after? (c :: s) with
    | some r =>
      apply Iff.intro
      · intro missed
        cases missed
      · intro unread
        rw [unread _ (List.suffix_refl _) (List.cons_ne_nil _ _)] at front
        cases front
    | none =>
      dsimp only
      rw [ih]
      apply Iff.intro
      · intro unread v suffix something
        rcases List.suffix_cons_iff.1 suffix with rfl | later
        · exact front
        · exact unread v later something
      · intro unread v suffix
        exact unread v (suffix.trans (List.suffix_cons c s))

theorem exists_suffix_of_afterFirst? {after? : List Char → Option (List Char)} {s r : List Char}
    (read : afterFirst? after? s = some r) : ∃ u v, s = u ++ v ∧ after? v = some r := by
  induction s with
  | nil => cases read
  | cons c s ih =>
    rw [afterFirst?] at read
    cases front : after? (c :: s) with
    | some t =>
      rw [front] at read
      cases read
      exact ⟨[], c :: s, rfl, front⟩
    | none =>
      rw [front] at read
      obtain ⟨u, v, rfl, later⟩ := ih read
      exact ⟨c :: u, v, rfl, later⟩

/-- What the reader finds is an element. -/
theorem exists_element {s r : List Char} (read : element.after? s = some r) :
    ∃ w, IsElement w ∧ s = w ++ r := by
  obtain ⟨⟨written, u⟩, opened, closed⟩ := Option.bind_eq_some_iff.1 read
  obtain ⟨opening, isOpening, rfl⟩ := readOpeningTag?_eq_some_iff.1 opened
  obtain ⟨content, v, rfl, found⟩ := exists_suffix_of_afterFirst? closed
  obtain ⟨closing, isClosing, rfl⟩ :=
    (afterClosingTag?_eq_some_iff isOpening.spelled).1 found
  refine ⟨opening ++ (content ++ closing), .mk isOpening isClosing, ?_⟩
  simp only [List.append_assoc]

/-- Where there is an element, the reader finds one. -/
theorem after?_element_eq_none_iff {s : List Char} :
    element.after? s = none ↔ ∀ w, IsElement w → ¬ w <+: s := by
  apply Iff.intro
  · intro unread w found front
    rcases found with ⟨isOpening, isClosing⟩
    rcases front with ⟨r, rfl⟩
    rename_i written opening content closing
    have opened : readOpeningTag? (opening ++ (content ++ closing) ++ r) =
        some (written, content ++ (closing ++ r)) :=
      readOpeningTag?_eq_some_iff.2 ⟨opening, isOpening, by simp⟩
    have closed : afterClosingTag? written (closing ++ r) = some r :=
      (afterClosingTag?_eq_some_iff isOpening.spelled).2 ⟨closing, isClosing, rfl⟩
    have missed : afterFirst? (afterClosingTag? written) (content ++ (closing ++ r)) = none := by
      have unfolded (t : List Char) : element.after? t = afterElement? t := rfl
      rw [unfolded, afterElement?, opened] at unread
      exact unread
    have unclosed := afterFirst?_eq_none_iff.1 missed (closing ++ r) (List.suffix_append _ _)
      (List.append_ne_nil_of_left_ne_nil isClosing.ne_nil r)
    rw [closed] at unclosed
    cases unclosed
  · intro absent
    cases read : element.after? s with
    | none => rfl
    | some r =>
      obtain ⟨w, isElement, rfl⟩ := exists_element read
      exact absurd (List.prefix_append w r) (absent w isElement)

end Intake.Markup
