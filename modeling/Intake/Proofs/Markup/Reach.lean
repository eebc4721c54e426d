import Intake.Proofs.Markup.Veil

/-!
# How far an element reaches

A dropped element ends with the first closing tag that repeats its name, whatever stands before it:
text, brackets, other tags, other elements. A closing tag has no opening bracket but its first, so
none of them begins in the content and ends behind it, and the content decides on its own whether
the element ends earlier.

`after?_element_eq_some_iff` says that the reader finds the elements that end with their first
closing tag. For names in ASCII letters, `strip_dropped_element` says what this means for a text:
nothing of such an element is left, and the text behind it is stripped as if it stood alone.
-/

namespace Intake.Markup

/-! ## Words in brackets -/

/-- A word that begins and ends with brackets and has none inside. -/
def IsBracketed (w : List Char) : Prop :=
  ∃ inner, w = '<' :: (inner ++ ['>']) ∧ '<' ∉ inner ∧ '>' ∉ inner

/-- A property that no bracket has is one of the text of tags. -/
theorem isTagText_of_apart {p : Char → Bool} (opening : p '<' = false) (closing : p '>' = false)
    {c : Char} (holds : p c = true) : isTagText c = true := by
  rw [isTagText, Bool.and_eq_true, bne_iff_ne, bne_iff_ne]
  refine ⟨?_, ?_⟩
  · rintro rfl
    rw [opening] at holds
    cases holds
  · rintro rfl
    rw [closing] at holds
    cases holds

theorem isTagText_of_isBlank {c : Char} (blank : Text.isBlank c = true) : isTagText c = true :=
  isTagText_of_apart (by decide) (by decide) blank

theorem isTagText_of_foldLetter {c : Char} (folded : isTagText (foldLetter c) = true) :
    isTagText c = true :=
  @isTagText_of_apart (fun c => isTagText (foldLetter c)) (by decide) (by decide) c folded

/-- No character of a name is a bracket, nor does a bracket repeat one. -/
theorem Spelled.isTagText_foldLetter {written : List Char} (spelled : Spelled written) {c : Char}
    (listed : c ∈ written) : isTagText (foldLetter c) = true := by
  obtain ⟨name, dropped, matched⟩ := spelled
  obtain ⟨i, bound, rfl⟩ := List.mem_iff_getElem.1 listed
  have inName : i < name.length := matched.length_eq ▸ bound
  have same := matched.get inName bound
  simp only [List.get_eq_getElem, spells, Bool.or_eq_true, Bool.and_eq_true, beq_iff_eq] at same
  rcases same with (folded | ⟨-, long⟩) | ⟨-, dotless⟩
  · have plain : ∀ name ∈ droppedNames, name.all Markup.isTagText = true := by decide
    rw [folded]
    exact List.all_eq_true.1 (plain name dropped) name[i] (List.getElem_mem inName)
  · rw [long]
    decide
  · rw [dotless]
    decide

theorem Spelled.isTagText {written : List Char} (spelled : Spelled written) :
    ∀ c ∈ written, Markup.isTagText c = true :=
  fun _ listed => isTagText_of_foldLetter (spelled.isTagText_foldLetter listed)

theorem Spelled.isTagText_of_repeats {written repeated : List Char} (spelled : Spelled written)
    (same : List.Forall₂ (fun c d => repeats c d = true) written repeated) :
    ∀ c ∈ repeated, Markup.isTagText c = true := by
  intro d listed
  obtain ⟨i, bound, rfl⟩ := List.mem_iff_getElem.1 listed
  have inName : i < written.length := same.length_eq ▸ bound
  have folded := same.get inName bound
  simp only [List.get_eq_getElem, repeats, beq_iff_eq] at folded
  apply isTagText_of_foldLetter
  rw [← folded]
  exact spelled.isTagText_foldLetter (List.getElem_mem inName)

theorem not_mem_of_isTagText {s : List Char} {bracket : Char}
    (inside : ∀ c ∈ s, isTagText c = true) (other : isTagText bracket = false) : bracket ∉ s := by
  intro found
  rw [inside bracket found] at other
  cases other

theorem isBracketed_of_isTagText {inner : List Char} (inside : ∀ c ∈ inner, isTagText c = true) :
    IsBracketed ('<' :: (inner ++ ['>'])) :=
  ⟨inner, rfl, not_mem_of_isTagText inside (by decide), not_mem_of_isTagText inside (by decide)⟩

theorem IsClosing.isBracketed {written w : List Char} (spelled : Spelled written)
    (isClosing : IsClosing written w) : IsBracketed w := by
  cases isClosing with
  | @mk before between after repeated blankBefore blankBetween blankAfter same =>
    have inside : ∀ c ∈ before ++ '/' :: (between ++ (repeated ++ after)), isTagText c = true := by
      intro c found
      simp only [List.mem_append, List.mem_cons] at found
      rcases found with first | rfl | second | name | third
      · exact isTagText_of_isBlank (blankBefore c first)
      · decide
      · exact isTagText_of_isBlank (blankBetween c second)
      · exact spelled.isTagText_of_repeats same c name
      · exact isTagText_of_isBlank (blankAfter c third)
    simpa using isBracketed_of_isTagText inside

/-- An opening tag has one closing bracket. -/
theorem IsOpening.exists_inner {written w : List Char} (isOpening : IsOpening written w) :
    ∃ inner, w = '<' :: (inner ++ ['>']) ∧ '>' ∉ inner := by
  cases isOpening with
  | @mk before attributes spelled blank _ inside =>
    have blanks : ∀ c ∈ before, isTagText c = true := fun c found =>
      isTagText_of_isBlank (blank c found)
    refine ⟨before ++ (written ++ attributes), by simp, ?_⟩
    simp only [List.mem_append, not_or]
    exact ⟨not_mem_of_isTagText blanks (by decide),
      not_mem_of_isTagText spelled.isTagText (by decide), inside⟩

/-- A word in brackets that begins in a text ends there, if an opening bracket follows. -/
theorem IsBracketed.prefix_of_append {w s t : List Char} (bracketed : IsBracketed w)
    (begun : s ≠ []) (front : w <+: s ++ '<' :: t) : w <+: s := by
  rcases List.prefix_or_prefix_of_prefix front (List.prefix_append s _) with shorter | longer
  · exact shorter
  · obtain ⟨rest, rfl⟩ := longer
    rw [List.prefix_append_right_inj] at front
    rcases List.prefix_cons_iff.1 front with rfl | ⟨u, rfl, -⟩
    · rw [List.append_nil]
    · -- The word would have another opening bracket behind its first.
      obtain ⟨inner, whole, noOpening, -⟩ := bracketed
      cases s with
      | nil => exact absurd rfl begun
      | cons c s =>
        have tail : s ++ '<' :: u = inner ++ ['>'] := (List.cons.inj whole).2
        have found : '<' ∈ inner ++ ['>'] := tail ▸ List.mem_append_right s List.mem_cons_self
        rcases List.mem_append.1 found with inside | last
        · exact absurd inside noOpening
        · exact absurd (List.mem_singleton.1 last) (by decide)

/-- A word in brackets does not begin in text without opening brackets. -/
theorem IsBracketed.infix_of_append {w a s : List Char} (bracketed : IsBracketed w)
    (unopened : '<' ∉ a) (found : w <:+: a ++ s) : w <:+: s := by
  induction a with
  | nil => exact found
  | cons c a ih =>
    obtain ⟨other, rest⟩ := List.ne_and_not_mem_of_not_mem_cons unopened
    rcases List.infix_cons_iff.1 found with front | later
    · obtain ⟨inner, rfl, -⟩ := bracketed
      exact absurd (List.cons_prefix_cons.1 front).1 other
    · exact ih rest later

/-! ## The first closing tag -/

theorem afterFirst?_eq_some_iff {after? : List Char → Option (List Char)} {s r : List Char} :
    afterFirst? after? s = some r ↔
      ∃ u v, s = u ++ v ∧ v ≠ [] ∧ after? v = some r ∧
        ∀ y, y <:+ u → y ≠ [] → after? (y ++ v) = none := by
  induction s with
  | nil =>
    refine ⟨nofun, ?_⟩
    rintro ⟨u, v, split, something, -⟩
    exact absurd (List.append_eq_nil_iff.1 split.symm).2 something
  | cons c s ih =>
    rw [afterFirst?]
    cases front : after? (c :: s) with
    | some t =>
      apply Iff.intro
      · intro same
        refine ⟨[], c :: s, rfl, List.cons_ne_nil c s, front.trans same, fun y suffix further => ?_⟩
        exact absurd (List.suffix_nil.1 suffix) further
      · rintro ⟨u, v, split, -, found, unread⟩
        cases u with
        | nil =>
          rw [split, List.nil_append, found] at front
          exact front.symm
        | cons d u =>
          have missed := unread (d :: u) (List.suffix_refl _) (List.cons_ne_nil d u)
          rw [← split, front] at missed
          cases missed
    | none =>
      dsimp only
      rw [ih]
      apply Iff.intro
      · rintro ⟨u, v, rfl, something, found, unread⟩
        refine ⟨c :: u, v, rfl, something, found, fun y suffix further => ?_⟩
        rcases List.suffix_cons_iff.1 suffix with rfl | later
        · exact front
        · exact unread y later further
      · rintro ⟨u, v, split, something, found, unread⟩
        cases u with
        | nil =>
          rw [split, List.nil_append, found] at front
          cases front
        | cons d u =>
          obtain ⟨-, rfl⟩ := List.cons.inj split
          exact ⟨u, v, rfl, something, found, fun y suffix =>
            unread y (suffix.trans (List.suffix_cons d u))⟩

/-- A dropped element that ends with the first closing tag of its name. -/
inductive IsShortest : List Char → Prop
  | mk {written opening content closing : List Char} :
    IsOpening written opening → IsClosing written closing →
      (∀ w, w <:+: content → ¬ IsClosing written w) → IsShortest (opening ++ (content ++ closing))

theorem IsShortest.isElement {w : List Char} (isShortest : IsShortest w) : IsElement w := by
  obtain ⟨isOpening, isClosing, -⟩ := isShortest
  exact .mk isOpening isClosing

/-- The first closing tag behind a content is found there. -/
theorem afterFirst?_closing {written content closing : List Char} (spelled : Spelled written)
    (isClosing : IsClosing written closing) (unclosed : ∀ w, w <:+: content → ¬ IsClosing written w)
    (r : List Char) :
    afterFirst? (afterClosingTag? written) (content ++ (closing ++ r)) = some r := by
  refine afterFirst?_eq_some_iff.2 ⟨content, closing ++ r, rfl, ?_, ?_, ?_⟩
  · exact List.append_ne_nil_of_left_ne_nil isClosing.ne_nil r
  · exact (afterClosingTag?_eq_some_iff spelled).2 ⟨closing, isClosing, rfl⟩
  · intro y suffix something
    rw [Option.eq_none_iff_forall_ne_some]
    intro t read
    obtain ⟨w, another, split⟩ := (afterClosingTag?_eq_some_iff spelled).1 read
    obtain ⟨inner, whole, -⟩ := isClosing.isBracketed spelled
    have front : w <+: y ++ '<' :: (inner ++ ['>'] ++ r) := ⟨t, by rw [← split, whole]; rfl⟩
    have inside := (another.isBracketed spelled).prefix_of_append something front
    exact unclosed w (List.infix_iff_prefix_suffix.2 ⟨y, inside, suffix⟩) another

/-- The reader finds the elements that end with their first closing tag, and each of them as a
whole. -/
theorem after?_element_eq_some_iff {s r : List Char} :
    element.after? s = some r ↔ ∃ w, IsShortest w ∧ s = w ++ r := by
  have unfolded : element.after? s = afterElement? s := rfl
  rw [unfolded, afterElement?, Option.bind_eq_bind, Option.bind_eq_some_iff]
  apply Iff.intro
  · rintro ⟨⟨written, u⟩, opened, closed⟩
    obtain ⟨opening, isOpening, rfl⟩ := readOpeningTag?_eq_some_iff.1 opened
    obtain ⟨content, v, rfl, -, found, unread⟩ := afterFirst?_eq_some_iff.1 closed
    have closes := @afterClosingTag?_eq_some_iff written isOpening.spelled
    obtain ⟨closing, isClosing, rfl⟩ := closes.1 found
    refine ⟨opening ++ (content ++ closing), .mk isOpening isClosing ?_, by simp⟩
    rintro w ⟨x, z, rfl⟩ another
    have missed := unread (w ++ z) ⟨x, by simp⟩
      (List.append_ne_nil_of_left_ne_nil another.ne_nil z)
    rw [List.append_assoc, closes.2 ⟨w, another, rfl⟩] at missed
    cases missed
  · rintro ⟨w, ⟨isOpening, isClosing, unclosed⟩, rfl⟩
    rename_i written opening content closing
    refine ⟨(written, content ++ (closing ++ r)), ?_, ?_⟩
    · exact readOpeningTag?_eq_some_iff.2 ⟨opening, isOpening, by simp⟩
    · exact afterFirst?_closing isOpening.spelled isClosing unclosed r

/-- What is looked for at every place of a text and found nowhere is not in it. -/
theorem not_isClosing_of_tails {written s : List Char} (spelled : Spelled written)
    (unread : ∀ v ∈ s.tails, afterClosingTag? written v = none) :
    ∀ w, w <:+: s → ¬ IsClosing written w := by
  intro w inside isClosing
  obtain ⟨v, ⟨r, rfl⟩, suffix⟩ := List.infix_iff_prefix_suffix.1 inside
  have missed := unread _ ((List.mem_tails _ _).2 suffix)
  rw [(afterClosingTag?_eq_some_iff spelled).2 ⟨w, isClosing, rfl⟩] at missed
  cases missed

/-! ## Names in ASCII letters -/

/-- The opening tag of a dropped element, its name in ASCII letters of either case. -/
inductive IsPlainOpening (name : List Char) : List Char → Prop
  | mk {before written attributes : List Char} :
    Blanks before → written.map Char.toLower = name →
      (attributes = [] ∨ ∃ c rest, attributes = c :: rest ∧ Text.isWordCharacter c = false) →
        '>' ∉ attributes →
          IsPlainOpening name ('<' :: (before ++ (written ++ (attributes ++ ['>']))))

/-- A closing tag, its name in ASCII letters of either case. -/
inductive IsPlainClosing (name : List Char) : List Char → Prop
  | mk {before between after written : List Char} :
    Blanks before → Blanks between → Blanks after → written.map Char.toLower = name →
      IsPlainClosing name ('<' :: (before ++ '/' :: (between ++ (written ++ (after ++ ['>'])))))

/-- Lower-casing the ASCII letters is all that is done to a name written in them. -/
theorem map_foldLetter_of_toLower {name written : List Char} (dropped : name ∈ droppedNames)
    (lower : written.map Char.toLower = name) : written.map foldLetter = name := by
  have undotted : ∀ name ∈ droppedNames, 'İ' ∉ name := by decide
  rw [← lower]
  refine List.map_congr_left fun c listed => ?_
  have other : (c == 'İ') = false := by
    rw [beq_eq_false_iff_ne]
    rintro rfl
    have found : 'İ'.toLower ∈ name := lower ▸ List.mem_map_of_mem listed
    exact undotted name dropped found
  rw [foldLetter, other]
  rfl

theorem map_foldLetter_name {name : List Char} (dropped : name ∈ droppedNames) :
    name.map foldLetter = name := by
  have plain : ∀ name ∈ droppedNames, name.map foldLetter = name := by decide
  exact plain name dropped

theorem forall₂_repeats_iff {written repeated : List Char} :
    List.Forall₂ (fun c d => repeats c d = true) written repeated ↔
      written.map foldLetter = repeated.map foldLetter := by
  rw [← List.forall₂_eq_eq_eq, List.forall₂_map_left_iff, List.forall₂_map_right_iff]
  simp only [repeats, beq_iff_eq]

theorem spelled_of_toLower {name written : List Char} (dropped : name ∈ droppedNames)
    (lower : written.map Char.toLower = name) : Spelled written := by
  refine ⟨name, dropped, ?_⟩
  have folded := map_foldLetter_of_toLower dropped lower
  have same : List.Forall₂ (fun letter c => letter = foldLetter c) name written := by
    rw [← List.forall₂_map_right_iff, folded, List.forall₂_eq_eq_eq]
  refine same.imp fun letter c equal => ?_
  rw [spells, equal, beq_self_eq_true]
  rfl

/-- A closing tag does not tell how the name that it repeats was written. -/
theorem isClosing_iff_of_map_foldLetter {name written w : List Char}
    (folded : written.map foldLetter = name.map foldLetter) :
    IsClosing written w ↔ IsClosing name w := by
  refine ⟨?_, ?_⟩
  · rintro ⟨before, between, after, same⟩
    exact .mk before between after
      (forall₂_repeats_iff.2 (folded.symm.trans (forall₂_repeats_iff.1 same)))
  · rintro ⟨before, between, after, same⟩
    exact .mk before between after
      (forall₂_repeats_iff.2 (folded.trans (forall₂_repeats_iff.1 same)))

theorem IsPlainOpening.exists_isOpening {name w : List Char} (dropped : name ∈ droppedNames)
    (plain : IsPlainOpening name w) :
    ∃ written, IsOpening written w ∧ written.map foldLetter = name.map foldLetter := by
  rcases plain with @⟨before, written, attributes, blank, lower, ends, inside⟩
  refine ⟨written, .mk (spelled_of_toLower dropped lower) blank ?_ inside, ?_⟩
  · rcases ends with rfl | ⟨c, rest, rfl, other⟩
    · decide
    · rw [List.cons_append, Text.wordEndsBefore, other]
      rfl
  · rw [map_foldLetter_of_toLower dropped lower, map_foldLetter_name dropped]

theorem IsPlainClosing.isClosing {name w : List Char} (dropped : name ∈ droppedNames)
    (plain : IsPlainClosing name w) : IsClosing name w := by
  rcases plain with ⟨blankBefore, blankBetween, blankAfter, lower⟩
  refine .mk blankBefore blankBetween blankAfter (forall₂_repeats_iff.2 ?_)
  rw [map_foldLetter_of_toLower dropped lower, map_foldLetter_name dropped]

/-! ## Stripping -/

theorem stripChars_shortest {w : List Char} (isShortest : IsShortest w) (r : List Char) :
    stripChars (w ++ r) = stripChars r := by
  rw [stripChars, Pattern.deleteAll_of_match (after?_element_eq_some_iff.2 ⟨w, isShortest, rfl⟩)]
  rfl

/-- A dropped element goes with its whole content, and what follows it is stripped as if it stood
alone. -/
theorem strip_dropped_element {name : List Char} {opening content closing : String}
    (dropped : name ∈ droppedNames) (isOpening : IsPlainOpening name opening.toList)
    (isClosing : IsPlainClosing name closing.toList)
    (unclosed : ∀ w, w <:+: content.toList → ¬ IsClosing name w) (tail : String) :
    strip (opening ++ content ++ closing ++ tail) = strip tail := by
  obtain ⟨written, isOpening, folded⟩ := isOpening.exists_isOpening dropped
  have closes {w : List Char} : IsClosing written w ↔ IsClosing name w :=
    isClosing_iff_of_map_foldLetter folded
  have isShortest : IsShortest (opening.toList ++ (content.toList ++ closing.toList)) :=
    .mk isOpening (closes.2 (isClosing.isClosing dropped)) fun w inside another =>
      unclosed w inside (closes.1 another)
  rw [strip, strip, ← stripChars_shortest isShortest tail.toList]
  simp only [String.toList_append, List.append_assoc]

theorem strip_dropped_element_sample :
    "script".toList ∈ droppedNames ∧
      IsPlainOpening "script".toList "< sCRipt a='<'>".toList ∧
      IsPlainClosing "script".toList "</ SCRIPT\t>".toList ∧
      (∀ w, w <:+: "a<b>c</script <i></style>".toList → ¬ IsClosing "script".toList w) ∧
      strip ("< sCRipt a='<'>" ++ "a<b>c</script <i></style>" ++ "</ SCRIPT\t>" ++
        "<i>d</script>") = strip "<i>d</script>" := by
  have dropped : "script".toList ∈ droppedNames := by decide
  have isOpening : IsPlainOpening "script".toList "< sCRipt a='<'>".toList :=
    @IsPlainOpening.mk _ [' '] "sCRipt".toList " a='<'".toList (by decide) (by decide)
      (.inr ⟨' ', _, rfl, by decide⟩) (by decide)
  have isClosing : IsPlainClosing "script".toList "</ SCRIPT\t>".toList :=
    @IsPlainClosing.mk _ [] [' '] ['\t'] "SCRIPT".toList nofun (by decide) (by decide) (by decide)
  have unclosed : ∀ w, w <:+: "a<b>c</script <i></style>".toList →
      ¬ IsClosing "script".toList w :=
    not_isClosing_of_tails (spelled_of_toLower dropped (by decide)) (by decide)
  exact ⟨dropped, isOpening, isClosing, unclosed,
    strip_dropped_element dropped isOpening isClosing unclosed "<i>d</script>"⟩

end Intake.Markup
