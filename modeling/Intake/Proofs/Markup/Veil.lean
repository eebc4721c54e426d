import Intake.Proofs.Markup.Clean
import Mathlib.Data.List.Infix

/-!
# What a deletion uncovers

Stripping goes through a text once for the elements, once for the tags and once for the NUL
characters, and what a deletion joins is not looked at again. So a piece of the text may read as a
tag, or as an element, once the complete tags and the NUL characters in it are gone: the piece veils
it. Such pieces are all that can go wrong after the elements have been dropped, and every one of
them does.

* `Veils.exists_piece`: whatever is left, some piece of the text veils it.
* `Veils.left_within`: a veiled text that begins and ends with brackets is left. A piece that veils
  one neither begins nor ends inside of a tag, because tags contain no brackets.
* `strip_leaves_clean_iff`: stripping leaves a clean text exactly if no piece veils a tag or an
  element.
-/

namespace Intake.Markup

/-! ## Veils -/

/-- A text veils what is read once its complete tags and its NUL characters are left out. -/
inductive Veils : List Char → List Char → Prop
  | nil : Veils [] []
  | tag {v x w : List Char} : IsTag v → Veils x w → Veils (v ++ x) w
  | nul {x w : List Char} : Veils x w → Veils ('\x00' :: x) w
  | kept {c : Char} {x w : List Char} :
    c ≠ '\x00' → (∀ v, IsTag v → ¬ v <+: c :: x) → Veils x w → Veils (c :: x) (c :: w)

/-- The text that is veiled: what is left by the last two walks. -/
def unveil (s : List Char) : List Char :=
  (tag.deleteAll s).filter (· != '\x00')

theorem not_isTag_front {w s : List Char} {c : Char} (other : c ≠ '<') (isTag : IsTag w) :
    ¬ w <+: c :: s := by
  intro front
  cases isTag
  exact other (List.cons_prefix_cons.1 front).1.symm

theorem veils_unveil (s : List Char) : Veils s (unveil s) := by
  induction s using tag.walk with
  | nil =>
    rw [unveil, Pattern.deleteAll_nil]
    exact .nil
  | found s r read ih =>
    rw [unveil, Pattern.deleteAll_of_match read]
    obtain ⟨v, isTag, rfl⟩ := after?_tag_eq_some_iff.1 read
    exact .tag isTag ih
  | missed c s unread ih =>
    rw [unveil, Pattern.deleteAll_of_noMatch unread, List.filter_cons]
    by_cases nul : c = '\x00'
    · subst nul
      exact .nul ih
    · rw [if_pos (bne_iff_ne.2 nul)]
      exact .kept nul (after?_tag_eq_none_iff.1 unread) ih

theorem Veils.unveil_eq {x w : List Char} (veiled : Veils x w) : unveil x = w := by
  induction veiled with
  | nil => rw [unveil, Pattern.deleteAll_nil, List.filter_nil]
  | @tag v x w isTag veiled ih =>
    have read : Markup.tag.after? (v ++ x) = some x :=
      after?_tag_eq_some_iff.2 ⟨v, isTag, rfl⟩
    rw [unveil, Pattern.deleteAll_of_match read]
    exact ih
  | @nul x w veiled ih =>
    have unread : Markup.tag.after? ('\x00' :: x) = none :=
      after?_tag_eq_none_iff.2 fun v isTag => not_isTag_front (by decide) isTag
    rw [unveil, Pattern.deleteAll_of_noMatch unread]
    exact ih
  | kept visible absent veiled ih =>
    rw [unveil, Pattern.deleteAll_of_noMatch (after?_tag_eq_none_iff.2 absent), List.filter_cons,
      if_pos (bne_iff_ne.2 visible)]
    exact congrArg _ ih

/-- A text veils one text. -/
theorem Veils.unique {x w u : List Char} (veiled : Veils x w) (another : Veils x u) : w = u :=
  veiled.unveil_eq.symm.trans another.unveil_eq

theorem Veils.sublist {x w : List Char} (veiled : Veils x w) : w.Sublist x := by
  induction veiled with
  | nil => exact List.Sublist.refl _
  | @tag v x w isTag veiled ih => exact ih.trans (List.sublist_append_right v x)
  | nul veiled ih => exact ih.cons _
  | kept visible absent veiled ih => exact ih.cons_cons _

/-! ## What is left is veiled -/

theorem Veils.exists_back {s t v : List Char} (veiled : Veils s t) (suffix : v <:+ t) :
    ∃ z, z <:+ s ∧ Veils z v := by
  induction veiled with
  | nil =>
    obtain rfl := List.suffix_nil.1 suffix
    exact ⟨[], List.suffix_refl _, .nil⟩
  | @tag u x w isTag veiled ih =>
    obtain ⟨z, later, same⟩ := ih suffix
    exact ⟨z, later.trans (List.suffix_append u x), same⟩
  | nul veiled ih =>
    obtain ⟨z, later, same⟩ := ih suffix
    exact ⟨z, later.trans (List.suffix_cons _ _), same⟩
  | @kept c x w visible absent veiled ih =>
    rcases List.suffix_cons_iff.1 suffix with rfl | shorter
    · exact ⟨c :: x, List.suffix_refl _, .kept visible absent veiled⟩
    · obtain ⟨z, later, same⟩ := ih shorter
      exact ⟨z, later.trans (List.suffix_cons c x), same⟩

theorem Veils.exists_front {s t v : List Char} (veiled : Veils s t) (front : v <+: t) :
    ∃ x, x <+: s ∧ Veils x v := by
  induction veiled generalizing v with
  | nil =>
    obtain rfl := List.prefix_nil.1 front
    exact ⟨[], List.prefix_refl _, .nil⟩
  | @tag u x w isTag veiled ih =>
    obtain ⟨y, earlier, same⟩ := ih front
    exact ⟨u ++ y, (List.prefix_append_right_inj u).2 earlier, .tag isTag same⟩
  | nul veiled ih =>
    obtain ⟨y, earlier, same⟩ := ih front
    exact ⟨'\x00' :: y, List.cons_prefix_cons.2 ⟨rfl, earlier⟩, .nul same⟩
  | @kept c x w visible absent veiled ih =>
    rcases List.prefix_cons_iff.1 front with rfl | ⟨v, rfl, shorter⟩
    · exact ⟨[], List.nil_prefix, .nil⟩
    · obtain ⟨y, earlier, same⟩ := ih shorter
      have begun : c :: y <+: c :: x := List.cons_prefix_cons.2 ⟨rfl, earlier⟩
      exact ⟨c :: y, begun, .kept visible
        (fun u isTag found => absent u isTag (found.trans begun)) same⟩

/-- Whatever is left of a text, some piece of the text veils it. -/
theorem Veils.exists_piece {s t w : List Char} (veiled : Veils s t) (left : w <:+: t) :
    ∃ x, x <:+: s ∧ Veils x w := by
  obtain ⟨v, front, suffix⟩ := List.infix_iff_prefix_suffix.1 left
  obtain ⟨z, later, rest⟩ := veiled.exists_back suffix
  obtain ⟨x, earlier, piece⟩ := rest.exists_front front
  exact ⟨x, List.infix_iff_prefix_suffix.2 ⟨z, earlier, later⟩, piece⟩

/-! ## What is veiled is left -/

/-- A tag has brackets at its ends and none inside. -/
theorem IsTag.exists_inner {w : List Char} (isTag : IsTag w) :
    ∃ inner, w = '<' :: (inner ++ ['>']) ∧ '<' ∉ inner ∧ '>' ∉ inner := by
  have solid {s : List Char} {c : Char} (blank : Blanks s) (bracket : Text.isBlank c = false) :
      c ∉ s := fun found => by
    rw [blank c found] at bracket
    cases bracket
  cases isTag with
  | @mk before mark between text letter blankBefore marked blankBetween isLetter inside =>
    have plain : ∀ mark ∈ tagMarks, '<' ∉ mark ∧ '>' ∉ mark := by decide
    have apart {c : Char} (other : c.isAlpha = false) : c ≠ letter := fun same => by
      rw [same, isLetter] at other
      cases other
    have outside {c : Char} (bracket : isTagText c = false) : c ∉ text := fun found => by
      rw [inside c found] at bracket
      cases bracket
    refine ⟨before ++ (mark ++ (between ++ letter :: text)), by simp, ?_, ?_⟩
    · simp only [List.mem_append, List.mem_cons, not_or]
      exact ⟨solid blankBefore (by decide), (plain mark marked).1, solid blankBetween (by decide),
        apart (by decide), outside (by decide)⟩
    · simp only [List.mem_append, List.mem_cons, not_or]
      exact ⟨solid blankBefore (by decide), (plain mark marked).2, solid blankBetween (by decide),
        apart (by decide), outside (by decide)⟩

/-- A text that is cut off inside of a tag stays as it is but for its NUL characters. -/
theorem not_mem_of_cut {w s t r : List Char} (isTag : IsTag w) (split : s ++ t = w ++ r)
    (unread : ¬ w <+: s) : '>' ∉ s := by
  obtain ⟨inner, rfl, -, closed⟩ := isTag.exists_inner
  rcases List.append_eq_append_iff.1 split with ⟨rest, same, -⟩ | ⟨rest, rfl, -⟩
  · -- What is missing of the tag is at least its last bracket.
    rw [← List.cons_append] at same
    have front : s <+: '<' :: inner ++ ['>'] := ⟨rest, same.symm⟩
    rcases List.prefix_concat_iff.1 front with rfl | shorter
    · exact absurd (List.prefix_refl _) unread
    · intro found
      rcases List.mem_cons.1 (shorter.subset found) with bracket | inside
      · cases bracket
      · exact closed inside
  · exact absurd (List.prefix_append _ rest) unread

/-- What ends with a closing bracket is left whatever follows. -/
theorem Veils.append {s t w u : List Char} (veiled : Veils s w)
    (ends : ∀ c, w.getLast? = some c → c = '>') (rest : Veils t u) :
    Veils (s ++ t) (w ++ u) := by
  induction veiled with
  | nil => exact rest
  | tag isTag veiled ih =>
    rw [List.append_assoc]
    exact .tag isTag (ih ends)
  | nul veiled ih => exact .nul (ih ends)
  | @kept c x w visible absent veiled ih =>
    have later : ∀ d, w.getLast? = some d → d = '>' := by
      intro d last
      apply ends d
      rw [List.getLast?_cons, last]
      rfl
    refine .kept visible (fun v isTag across => ?_) (ih later)
    -- The text ends inside of a tag, so its own last character is no closing bracket.
    obtain ⟨r, split⟩ := across
    have joined : c :: x ++ t = v ++ r := split.symm
    have unclosed : '>' ∉ c :: x := not_mem_of_cut isTag joined (absent v isTag)
    cases last : (c :: w).getLast? with
    | none => simp at last
    | some d =>
      obtain rfl := ends d last
      have left : (c :: w).Sublist (c :: x) := veiled.sublist.cons_cons c
      exact unclosed (left.subset (List.mem_of_getLast? last))

/-- Behind a cut through a tag, the first character that is left is no opening bracket. -/
theorem Veils.head?_ne {a r u : List Char} (veiled : Veils (a ++ r) u) (outside : '<' ∉ a)
    (closed : '>' ∈ a) : u.head? ≠ some '<' := by
  generalize whole : a ++ r = s at veiled
  induction veiled generalizing a with
  | nil =>
    obtain ⟨rfl, -⟩ := List.append_eq_nil_iff.1 whole
    cases closed
  | tag isTag veiled ih =>
    cases a with
    | nil => cases closed
    | cons c a =>
      obtain ⟨inner, rfl, -⟩ := isTag.exists_inner
      obtain ⟨rfl, -⟩ := List.cons.inj whole
      exact absurd List.mem_cons_self outside
  | nul veiled ih =>
    cases a with
    | nil => cases closed
    | cons c a =>
      obtain ⟨rfl, rest⟩ := List.cons.inj whole
      have further : '<' ∉ a := fun found => outside (List.mem_cons_of_mem _ found)
      exact ih further ((List.mem_cons.1 closed).resolve_left (by decide)) rest
  | kept visible absent veiled ih =>
    cases a with
    | nil => cases closed
    | cons c a =>
      obtain ⟨rfl, -⟩ := List.cons.inj whole
      intro first
      obtain rfl := Option.some.inj first
      exact outside List.mem_cons_self

/-- What begins with an opening bracket is left whatever stands before it. -/
theorem Veils.left_behind {s t z u : List Char} (veiled : Veils s t) (later : z <:+ s)
    (piece : Veils z u) (begins : u.head? = some '<') : u <:+ t := by
  induction veiled with
  | nil =>
    obtain rfl := List.suffix_nil.1 later
    obtain rfl := piece.unique .nil
    exact List.suffix_refl _
  | @tag v x w isTag veiled ih =>
    obtain ⟨before, split⟩ := later
    rcases List.append_eq_append_iff.1 split with ⟨rest, same, rfl⟩ | ⟨rest, -, rfl⟩
    · cases before with
      | nil =>
        obtain rfl : v = rest := same
        obtain rfl := piece.unique (.tag isTag veiled)
        exact List.suffix_refl _
      | cons c before =>
        -- The piece begins inside of the tag, or right behind it.
        obtain ⟨inner, rfl, outside, -⟩ := isTag.exists_inner
        have inside : rest <:+ inner ++ ['>'] := ⟨before, (List.cons.inj same).2.symm⟩
        rcases List.suffix_concat_iff.1 inside with rfl | ⟨front, rfl, shorter⟩
        · exact ih (List.suffix_refl _)
        · refine absurd begins (piece.head?_ne ?_ (by simp))
          intro found
          rcases List.mem_append.1 found with early | bracket
          · exact outside (shorter.subset early)
          · exact absurd (List.mem_singleton.1 bracket) (by decide)
    · exact ih (List.suffix_append rest z)
  | nul veiled ih =>
    rcases List.suffix_cons_iff.1 later with rfl | further
    · obtain rfl := piece.unique (.nul veiled)
      exact List.suffix_refl _
    · exact ih further
  | @kept c x w visible absent veiled ih =>
    rcases List.suffix_cons_iff.1 later with rfl | further
    · obtain rfl := piece.unique (.kept visible absent veiled)
      exact List.suffix_refl _
    · exact (ih further).trans (List.suffix_cons c w)

/-- A veiled text with brackets at its ends is left. -/
theorem Veils.left_within {s t x w : List Char} (veiled : Veils s t) (piece : x <:+: s)
    (hidden : Veils x w) (begins : w.head? = some '<') (ends : w.getLast? = some '>') :
    w <:+: t := by
  obtain ⟨z, ⟨rest, rfl⟩, later⟩ := List.infix_iff_prefix_suffix.1 piece
  have last : ∀ c, w.getLast? = some c → c = '>' := fun c found => by
    rw [ends] at found
    exact (Option.some.inj found).symm
  have whole : Veils (x ++ rest) (w ++ unveil rest) := hidden.append last (veils_unveil rest)
  have first : (w ++ unveil rest).head? = some '<' := by
    rw [List.head?_append, begins]
    rfl
  have left : w ++ unveil rest <:+ t := veiled.left_behind later whole first
  exact List.infix_iff_prefix_suffix.2 ⟨w ++ unveil rest, List.prefix_append _ _, left⟩

/-! ## Stripping -/

theorem IsTag.brackets {w : List Char} (isTag : IsTag w) :
    w.head? = some '<' ∧ w.getLast? = some '>' := by
  obtain ⟨inner, rfl, -⟩ := isTag.exists_inner
  refine ⟨rfl, ?_⟩
  rw [← List.cons_append, List.getLast?_concat]

theorem IsClosing.getLast?_eq {written w : List Char} (isClosing : IsClosing written w) :
    w.getLast? = some '>' := by
  cases isClosing
  simp [List.getLast?_cons]

theorem IsElement.brackets {w : List Char} (isElement : IsElement w) :
    w.head? = some '<' ∧ w.getLast? = some '>' := by
  obtain ⟨isOpening, isClosing⟩ := isElement
  refine ⟨?_, ?_⟩
  · cases isOpening
    rfl
  · rw [List.getLast?_append, List.getLast?_append, isClosing.getLast?_eq]
    rfl

theorem nul_not_mem_unveil (s : List Char) : '\x00' ∉ unveil s := by
  intro found
  have kept := (List.mem_filter.1 found).2
  revert kept
  decide

/-- What is left is clean exactly if no piece of the text veils a tag or an element. -/
theorem isClean_unveil_iff {s : List Char} :
    IsClean (unveil s) ↔
      ∀ x, x <:+: s → ∀ w, Veils x w → ¬ IsTag w ∧ ¬ IsElement w := by
  have veiled := veils_unveil s
  apply Iff.intro
  · intro clean x piece w hidden
    refine ⟨fun isTag => ?_, fun isElement => ?_⟩
    · obtain ⟨begins, ends⟩ := isTag.brackets
      exact clean.noTag w (veiled.left_within piece hidden begins ends) isTag
    · obtain ⟨begins, ends⟩ := isElement.brackets
      exact clean.noElement w (veiled.left_within piece hidden begins ends) isElement
  · intro bare
    refine ⟨nul_not_mem_unveil s, fun w left => ?_, fun w left => ?_⟩
    · obtain ⟨x, piece, hidden⟩ := veiled.exists_piece left
      exact (bare x piece w hidden).1
    · obtain ⟨x, piece, hidden⟩ := veiled.exists_piece left
      exact (bare x piece w hidden).2

theorem toList_strip (s : String) : (strip s).toList = unveil (element.deleteAll s.toList) := by
  rw [strip, String.toList_ofList, stripChars, unveil]

theorem strip_eq_self_iff {s : String} : strip s = s ↔ IsClean s.toList := by
  rw [← stripChars_eq_self_iff, ← String.toList_inj, strip, String.toList_ofList]

/-- Stripping leaves no NUL characters. It leaves no tag and no element either, and comes to nothing
new when it is repeated, exactly if in what is left without the dropped elements no piece veils a
tag or an element. -/
theorem strip_leaves_clean_iff (s : String) :
    '\x00' ∉ (strip s).toList ∧
      (strip (strip s) = strip s ↔ IsClean (strip s).toList) ∧
      (IsClean (strip s).toList ↔
        ∀ x, x <:+: element.deleteAll s.toList → ∀ w, Veils x w → ¬ IsTag w ∧ ¬ IsElement w) := by
  refine ⟨?_, strip_eq_self_iff, ?_⟩
  · rw [toList_strip]
    exact nul_not_mem_unveil _
  · rw [toList_strip]
    exact isClean_unveil_iff

/-- A tag inside of a tag veils it. -/
theorem strip_leaves_tag :
    strip "<<b>b>" = "<b>" ∧ ¬ IsClean (strip "<<b>b>").toList ∧
      strip (strip "<<b>b>") ≠ strip "<<b>b>" := by
  have bold : IsTag ['<', 'b', '>'] :=
    @IsTag.mk [] [] [] [] 'b' nofun (by decide) nofun (by decide) nofun
  have plain : element.deleteAll ['<', '<', 'b', '>', 'b', '>'] =
      ['<', '<', 'b', '>', 'b', '>'] := by
    have unread : ∀ v ∈ ['<', '<', 'b', '>', 'b', '>'].tails, element.after? v = none := by decide
    exact element.deleteAll_eq_self_iff.2 fun v suffix => unread v ((List.mem_tails _ _).2 suffix)
  have veiled : Veils ['<', '<', 'b', '>', 'b', '>'] ['<', 'b', '>'] := by
    have kept (c : Char) {x w : List Char} (visible : c ≠ '\x00')
        (unread : tag.after? (c :: x) = none) (rest : Veils x w) : Veils (c :: x) (c :: w) :=
      .kept visible (after?_tag_eq_none_iff.1 unread) rest
    exact kept '<' (by decide) rfl
      (.tag bold (kept 'b' (by decide) rfl (kept '>' (by decide) rfl .nil)))
  have stripped : strip "<<b>b>" = "<b>" := by
    rw [← String.toList_inj, toList_strip]
    exact (congrArg unveil plain).trans veiled.unveil_eq
  have unclean : ¬ IsClean (strip "<<b>b>").toList := by
    rw [stripped]
    exact fun clean => clean.noTag _ (List.infix_refl _) bold
  exact ⟨stripped, unclean, mt strip_eq_self_iff.1 unclean⟩

end Intake.Markup
