import Intake.Proofs.Markup.Margins
import Intake.Proofs.Markup.Tokens

/-!
# Sifting tokens

On a text that is cut into tokens, the three walks of stripping come to one walk over the tokens:
`Sifts` drops an opening tag together with all tokens up to the first one that closes it, drops
every other tag, and keeps what is neither.

The first walk of stripping drops elements only. `Sifts.exists_passes` says that what it leaves is
cut into tokens again, so that the second walk meets the same groups as a walk over the tokens would
have. `Sifts.exists_kept` says that what is kept is sifted to itself, and so there is nothing more
to strip from it. `strip_sifts_tokens` puts this together for all texts without nested brackets.
-/

namespace Intake.Markup

/-- A token opens no element that one of the later tokens closes. -/
def Token.StaysOpen (t : Token) (later : List Token) : Prop :=
  ∀ written, IsOpening written t.chars → ∀ u ∈ later, ¬ IsClosing written u.chars

/-- What is kept of tokens when they are walked over from left to right. -/
inductive Sifts : List Token → List Char → Prop
  | nil : Sifts [] []
  | text {c : Char} {ts : List Token} {kept : List Char} :
    Sifts ts kept → Sifts (.text c :: ts) (c :: kept)
  | elementDropped {written x y : List Char} {content ts : List Token} {kept : List Char} :
    IsOpening written (Token.group x).chars → IsClosing written (Token.group y).chars →
      (∀ t ∈ content, ¬ IsClosing written t.chars) → Sifts ts kept →
        Sifts (.group x :: (content ++ .group y :: ts)) kept
  | tagDropped {x : List Char} {ts : List Token} {kept : List Char} :
    (Token.group x).StaysOpen ts → IsTag (Token.group x).chars → Sifts ts kept →
      Sifts (.group x :: ts) kept
  | groupKept {x : List Char} {ts : List Token} {kept : List Char} :
    (Token.group x).StaysOpen ts → ¬ IsTag (Token.group x).chars → Sifts ts kept →
      Sifts (.group x :: ts) ((Token.group x).chars ++ kept)

/-! ## Every list of tokens is sifted -/

theorem not_isClosing_text {written : List Char} {c : Char} :
    ¬ IsClosing written (Token.text c).chars := by
  generalize single : (Token.text c).chars = w
  intro isClosing
  have length := congrArg List.length single
  cases isClosing
  simp [Token.chars] at length

theorem exists_first {α : Type} {P : α → Prop} {l : List α} (found : ∃ a ∈ l, P a) :
    ∃ u a v, l = u ++ a :: v ∧ P a ∧ ∀ b ∈ u, ¬ P b := by
  classical
  have isSome : (l.find? fun a => decide (P a)).isSome = true := by simpa using found
  obtain ⟨a, first⟩ := Option.isSome_iff_exists.1 isSome
  obtain ⟨holds, u, v, split, none⟩ := List.find?_eq_some_iff_append.1 first
  exact ⟨u, a, v, split, by simpa using holds, by simpa using none⟩

theorem exists_sifts (ts : List Token) : ∃ kept, Sifts ts kept := by
  induction length : ts.length using Nat.strongRecOn generalizing ts with
  | ind n ih =>
    subst length
    cases ts with
    | nil => exact ⟨[], .nil⟩
    | cons t ts =>
      obtain ⟨kept, sifted⟩ := ih ts.length (Nat.lt_succ_self _) ts rfl
      cases t with
      | text c => exact ⟨c :: kept, .text sifted⟩
      | group x =>
        by_cases stays : (Token.group x).StaysOpen ts
        · by_cases isTag : IsTag (Token.group x).chars
          · exact ⟨kept, .tagDropped stays isTag sifted⟩
          · exact ⟨(Token.group x).chars ++ kept, .groupKept stays isTag sifted⟩
        · simp only [Token.StaysOpen, not_forall, not_not, exists_prop] at stays
          obtain ⟨written, isOpening, closed⟩ := stays
          obtain ⟨content, u, rest, rfl, isClosing, unclosed⟩ := exists_first closed
          cases u with
          | text c => exact absurd isClosing not_isClosing_text
          | group y =>
            have shorter :
                rest.length < (Token.group x :: (content ++ .group y :: rest)).length := by
              simp only [List.length_cons, List.length_append]
              omega
            obtain ⟨kept, sifted⟩ := ih rest.length shorter rest rfl
            exact ⟨kept, .elementDropped isOpening isClosing unclosed sifted⟩

/-! ## Single tokens under the walks of stripping -/

section Group

variable {x s : List Char} {ts : List Token}

/-- Where a group does not open an element that a later group closes, no element begins. -/
theorem after?_element_of_staysOpen (inside : '>' ∉ x) (cut : Cuts ts s)
    (stays : (Token.group x).StaysOpen ts) : element.after? ('<' :: (x ++ '>' :: s)) = none := by
  refine after?_element_eq_none_iff.2 ?_
  rintro w ⟨isOpening, isClosing⟩ front
  rename_i written opening content closing
  obtain ⟨inner, rfl, insideToo⟩ := isOpening.exists_inner
  obtain ⟨r, split⟩ := front
  rw [List.append_assoc] at split
  obtain ⟨rfl, rfl⟩ := Token.eq_of_group_append insideToo inside split
  have found : closing <:+: content ++ closing ++ r := ⟨content, r, rfl⟩
  obtain ⟨y, listed, rfl⟩ := cut.exists_group (isClosing.isBracketed isOpening.spelled) found
  exact stays written isOpening (.group y) listed isClosing

/-- Where a group is no tag, no tag begins. -/
theorem after?_tag_of_not_isTag (inside : '>' ∉ x) (other : ¬ IsTag (Token.group x).chars) :
    tag.after? ('<' :: (x ++ '>' :: s)) = none := by
  refine after?_tag_eq_none_iff.2 fun w isTag front => ?_
  obtain ⟨inner, rfl, -, insideToo⟩ := isTag.exists_inner
  obtain ⟨r, split⟩ := front
  obtain ⟨rfl, -⟩ := Token.eq_of_group_append insideToo inside split
  exact other isTag

/-- A group at which nothing begins is passed over. -/
theorem Pattern.Recognizes.deleteAll_group {p : Pattern} {words : List Char → Prop}
    (recognizes : p.Recognizes words) (flat : '<' ∉ x)
    (unread : p.after? ('<' :: (x ++ '>' :: s)) = none) :
    p.deleteAll ('<' :: (x ++ '>' :: s)) = '<' :: (x ++ '>' :: p.deleteAll s) := by
  have unopened : '<' ∉ x ++ ['>'] := by simp [flat]
  have passed := recognizes.deleteAll_append_left unopened s
  simp only [List.append_assoc, List.singleton_append] at passed
  rw [deleteAll_of_noMatch unread, passed]

/-- A character between the groups is passed over. -/
theorem Pattern.Recognizes.deleteAll_text {p : Pattern} {words : List Char → Prop}
    (recognizes : p.Recognizes words) {c : Char} (unclosed : c = '<' → '>' ∉ s) :
    p.deleteAll (c :: s) = c :: p.deleteAll s := by
  by_cases opens : c = '<'
  · have outside : '>' ∉ c :: s := by
      rw [opens]
      simp [unclosed opens]
    exact deleteAll_of_noMatch (recognizes.after?_of_open outside)
  · exact deleteAll_of_noMatch (recognizes.after?_of_ne opens s)

/-- An element that is cut into tokens is dropped as a whole. -/
theorem after?_element_of_tokens {written y u : List Char} {content : List Token}
    (isOpening : IsOpening written (Token.group x).chars)
    (isClosing : IsClosing written (Token.group y).chars)
    (unclosed : ∀ t ∈ content, ¬ IsClosing written t.chars) (cut : Cuts content u) :
    element.after? ('<' :: (x ++ '>' :: (u ++ '<' :: (y ++ '>' :: s)))) = some s := by
  have noEarlier : ∀ w, w <:+: u → ¬ IsClosing written w := by
    intro w inside another
    obtain ⟨z, listed, rfl⟩ := cut.exists_group (another.isBracketed isOpening.spelled) inside
    exact unclosed (.group z) listed another
  exact after?_element_eq_some_iff.2 ⟨_, .mk isOpening isClosing noEarlier, by simp [Token.chars]⟩

end Group

/-! ## Stripping sifts -/

/-- The first walk of stripping leaves a text that is cut into tokens, and the second leaves what is
kept. -/
theorem Sifts.exists_passes {ts : List Token} {kept s : List Char} (sifted : Sifts ts kept)
    (cut : Cuts ts s) :
    (∃ us, Cuts us (element.deleteAll s)) ∧ tag.deleteAll (element.deleteAll s) = kept := by
  induction sifted generalizing s with
  | nil =>
    cases cut
    rw [element.deleteAll_nil, tag.deleteAll_nil]
    exact ⟨⟨[], .nil⟩, rfl⟩
  | @text c ts kept sifted ih =>
    cases cut with
    | @text _ _ s unclosed cut =>
      obtain ⟨⟨us, left⟩, passed⟩ := ih cut
      have further : c = '<' → '>' ∉ element.deleteAll s := fun opens found =>
        unclosed opens ((element.deleteAll_sublist s).subset found)
      rw [recognizes_element.deleteAll_text unclosed, recognizes_tag.deleteAll_text further, passed]
      exact ⟨⟨.text c :: us, .text further left⟩, rfl⟩
  | elementDropped isOpening isClosing unclosed sifted ih =>
    cases cut with
    | group flat inside cut =>
      obtain ⟨u, v, rfl, within, behind⟩ := cut.split
      cases behind with
      | group _ _ rest =>
        rw [Pattern.deleteAll_of_match
          (after?_element_of_tokens isOpening isClosing unclosed within)]
        exact ih rest
  | @tagDropped x ts kept stays isTag sifted ih =>
    cases cut with
    | @group _ _ s flat inside cut =>
      obtain ⟨⟨us, left⟩, passed⟩ := ih cut
      rw [recognizes_element.deleteAll_group flat (after?_element_of_staysOpen inside cut stays)]
      refine ⟨⟨.group x :: us, .group flat inside left⟩, ?_⟩
      have read : tag.after? ('<' :: (x ++ '>' :: element.deleteAll s)) =
          some (element.deleteAll s) :=
        after?_tag_eq_some_iff.2 ⟨_, isTag, (Token.chars_group_append _ _).symm⟩
      rw [Pattern.deleteAll_of_match read]
      exact passed
  | @groupKept x ts kept stays other sifted ih =>
    cases cut with
    | @group _ _ s flat inside cut =>
      obtain ⟨⟨us, left⟩, passed⟩ := ih cut
      rw [recognizes_element.deleteAll_group flat (after?_element_of_staysOpen inside cut stays)]
      refine ⟨⟨.group x :: us, .group flat inside left⟩, ?_⟩
      rw [recognizes_tag.deleteAll_group flat (after?_tag_of_not_isTag inside other), passed,
        Token.chars_group_append]

/-- What is kept is some of the tokens, and all of these are kept when they are sifted again. -/
theorem Sifts.exists_kept {ts : List Token} {kept s : List Char} (sifted : Sifts ts kept)
    (cut : Cuts ts s) : ∃ us, us.Sublist ts ∧ Cuts us kept ∧ Sifts us kept := by
  induction sifted generalizing s with
  | nil => exact ⟨[], .refl [], .nil, .nil⟩
  | @text c ts kept sifted ih =>
    cases cut with
    | @text _ _ s unclosed cut =>
      obtain ⟨us, fewer, left, again⟩ := ih cut
      have shorter := cut.sublist left fewer
      exact ⟨.text c :: us, fewer.cons_cons _,
        .text (fun opens found => unclosed opens (shorter.subset found)) left, .text again⟩
  | elementDropped isOpening isClosing unclosed sifted ih =>
    cases cut with
    | group flat inside cut =>
      obtain ⟨u, v, rfl, -, behind⟩ := cut.split
      cases behind with
      | group _ _ rest =>
        obtain ⟨us, fewer, left, again⟩ := ih rest
        refine ⟨us, ?_, left, again⟩
        exact ((fewer.cons _).trans (List.sublist_append_right _ _)).cons _
  | tagDropped stays isTag sifted ih =>
    cases cut with
    | group flat inside cut =>
      obtain ⟨us, fewer, left, again⟩ := ih cut
      exact ⟨us, fewer.cons _, left, again⟩
  | @groupKept x ts kept stays other sifted ih =>
    cases cut with
    | @group _ _ s flat inside cut =>
      obtain ⟨us, fewer, left, again⟩ := ih cut
      refine ⟨.group x :: us, fewer.cons_cons _, ?_, .groupKept ?_ other again⟩
      · rw [Token.chars_group_append]
        exact .group flat inside left
      · exact fun written isOpening u listed => stays written isOpening u (fewer.subset listed)

theorem Sifts.stripChars_eq {ts : List Token} {kept s : List Char} (sifted : Sifts ts kept)
    (cut : Cuts ts s) : stripChars s = kept.filter (· != '\x00') := by
  rw [stripChars, (sifted.exists_passes cut).2]

/-- Without NUL characters, what is kept is clean. -/
theorem Sifts.isClean {ts : List Token} {kept s : List Char} (sifted : Sifts ts kept)
    (cut : Cuts ts s) (visible : '\x00' ∉ s) : IsClean kept := by
  obtain ⟨us, fewer, left, again⟩ := sifted.exists_kept cut
  have stillVisible : '\x00' ∉ kept := fun found =>
    visible ((cut.sublist left fewer).subset found)
  rw [← stripChars_eq_self_iff, again.stripChars_eq left]
  exact filter_nul_eq_self_iff.2 stillVisible

/-- A text without nested brackets is cut into tokens in one way, there is one way to sift them, and
stripping the text leaves what is kept of them but for the NUL characters. If there are none, no tag
and no element is left. -/
theorem strip_sifts_tokens (s : String) (unnested : Unnested s.toList) :
    ∃ tokens kept, (∀ ts, Cuts ts s.toList ↔ ts = tokens) ∧
      (∀ out, Sifts tokens out ↔ out = kept) ∧
      (strip s).toList = kept.filter (· != '\x00') ∧
      ('\x00' ∉ s.toList →
        ∀ w, w <:+: (strip s).toList → ¬ IsTag w ∧ ¬ IsElement w) := by
  obtain ⟨tokens, cut⟩ := exists_cuts unnested
  obtain ⟨kept, sifted⟩ := exists_sifts tokens
  have stripped : (strip s).toList = kept.filter (· != '\x00') := by
    rw [strip, String.toList_ofList, sifted.stripChars_eq cut]
  refine ⟨tokens, kept, fun ts => ⟨fun another => another.unique cut, ?_⟩, ?_, stripped, ?_⟩
  · rintro rfl
    exact cut
  · refine fun out => ⟨fun another => ?_, ?_⟩
    · exact (another.exists_passes cut).2.symm.trans (sifted.exists_passes cut).2
    · rintro rfl
      exact sifted
  · intro visible w found
    have clean := sifted.isClean cut visible
    rw [stripped, filter_nul_eq_self_iff.2 clean.noNul] at found
    exact ⟨clean.noTag w found, clean.noElement w found⟩

/-- An element is dropped with its content, a tag and a NUL character on their own. -/
theorem strip_sifts_tokens_sample :
    Unnested "<script>x</SCRIPT>\x00a<b>".toList ∧
      strip "<script>x</SCRIPT>\x00a<b>" = "a" := by
  have unnested : Unnested "<script>x</SCRIPT>\x00a<b>".toList := by decide +kernel
  have dropped : "script".toList ∈ droppedNames := by decide
  have spelled : Spelled "script".toList := spelled_of_toLower dropped (by decide)
  have isOpening : IsOpening "script".toList (Token.group "script".toList).chars :=
    @IsOpening.mk _ [] [] spelled (by decide) (by decide) (by decide)
  have isClosing : IsClosing "script".toList (Token.group "/SCRIPT".toList).chars :=
    @IsClosing.mk _ [] [] [] "SCRIPT".toList (by decide) (by decide) (by decide)
      (forall₂_repeats_iff.2 (by decide))
  have isTag : IsTag (Token.group ['b']).chars :=
    @IsTag.mk [] [] [] [] 'b' (by decide) (by decide) (by decide) (by decide) nofun
  have unclosed : ∀ t ∈ [Token.text 'x'], ¬ IsClosing "script".toList t.chars := by
    intro t listed
    obtain rfl := List.mem_singleton.1 listed
    exact not_isClosing_text
  have sifted : Sifts (.group "script".toList :: ([.text 'x'] ++ .group "/SCRIPT".toList ::
      [.text '\x00', .text 'a', .group ['b']])) ['\x00', 'a'] :=
    .elementDropped isOpening isClosing unclosed
      (.text (.text (.tagDropped nofun isTag .nil)))
  have cut : Cuts (.group "script".toList :: ([.text 'x'] ++ .group "/SCRIPT".toList ::
      [.text '\x00', .text 'a', .group ['b']])) "<script>x</SCRIPT>\x00a<b>".toList :=
    .group (by decide) (by decide) (.text (by decide) (.group (by decide) (by decide)
      (.text (by decide) (.text (by decide) (.group (by decide) (by decide) .nil)))))
  obtain ⟨tokens, kept, cuts, sifts, stripped, -⟩ :=
    strip_sifts_tokens "<script>x</SCRIPT>\x00a<b>" unnested
  obtain rfl := (cuts _).1 cut
  obtain rfl := (sifts _).1 sifted
  refine ⟨unnested, ?_⟩
  rw [← String.toList_inj, stripped]
  rfl

end Intake.Markup
