import Intake.Proofs.Markup.Elements
import Intake.Proofs.Markup.Walk

/-!
# Clean texts

A text is clean if nothing in it is a tag or a dropped element, and if it has no NUL characters.
`stripChars_eq_self_iff` says that the clean texts are those that stripping leaves as they are. What
stripping makes of other texts is in `Intake.Proofs.Markup.Veil`.
-/

namespace Intake.Markup

/-! ## Clean texts -/

structure IsClean (s : List Char) : Prop where
  noNul : '\x00' ∉ s
  noTag : ∀ w, w <:+: s → ¬ IsTag w
  noElement : ∀ w, w <:+: s → ¬ IsElement w

theorem after?_tag_eq_none_iff {s : List Char} :
    tag.after? s = none ↔ ∀ w, IsTag w → ¬ w <+: s := by
  rw [Option.eq_none_iff_forall_ne_some]
  apply Iff.intro
  · intro unread w isTag found
    rcases found with ⟨r, rfl⟩
    exact unread r (after?_tag_eq_some_iff.2 ⟨w, isTag, rfl⟩)
  · intro absent r read
    obtain ⟨w, isTag, rfl⟩ := after?_tag_eq_some_iff.1 read
    exact absent w isTag (List.prefix_append w r)

/-- A pattern that recognizes words leaves a text as it is exactly if none of them is in it. -/
theorem Pattern.deleteAll_eq_self_iff_of_words {p : Pattern} {words : List Char → Prop}
    (recognizes : ∀ {s}, p.after? s = none ↔ ∀ w, words w → ¬ w <+: s) {s : List Char} :
    p.deleteAll s = s ↔ ∀ w, w <:+: s → ¬ words w := by
  rw [p.deleteAll_eq_self_iff]
  refine ⟨?_, ?_⟩
  · intro unread w inside word
    obtain ⟨v, front, suffix⟩ := List.infix_iff_prefix_suffix.1 inside
    exact recognizes.1 (unread v suffix) w word front
  · intro absent v suffix
    refine recognizes.2 fun w word front => ?_
    exact absent w (List.infix_iff_prefix_suffix.2 ⟨v, front, suffix⟩) word

theorem filter_nul_eq_self_iff {s : List Char} :
    s.filter (· != '\x00') = s ↔ '\x00' ∉ s := by
  rw [List.filter_eq_self]
  apply Iff.intro
  · intro kept found
    have := kept _ found
    revert this
    decide
  · intro absent c found
    exact bne_iff_ne.2 fun same => absent (same ▸ found)

/-- Stripping leaves exactly the clean texts as they are. -/
theorem stripChars_eq_self_iff {s : List Char} : stripChars s = s ↔ IsClean s := by
  have elements : element.deleteAll s = s ↔ ∀ w, w <:+: s → ¬ IsElement w :=
    Pattern.deleteAll_eq_self_iff_of_words after?_element_eq_none_iff
  have tags : tag.deleteAll s = s ↔ ∀ w, w <:+: s → ¬ IsTag w :=
    Pattern.deleteAll_eq_self_iff_of_words after?_tag_eq_none_iff
  apply Iff.intro
  · intro kept
    -- The three walks only delete, so none of them does.
    have first : element.deleteAll s = s := by
      apply (element.deleteAll_sublist s).antisymm
      have rest : (stripChars s).Sublist (element.deleteAll s) :=
        List.filter_sublist.trans (tag.deleteAll_sublist (element.deleteAll s))
      rwa [kept] at rest
    have second : tag.deleteAll s = s := by
      apply (tag.deleteAll_sublist s).antisymm
      have rest : (stripChars s).Sublist (tag.deleteAll (element.deleteAll s)) :=
        List.filter_sublist
      rwa [kept, first] at rest
    rw [stripChars, first, second] at kept
    exact ⟨filter_nul_eq_self_iff.1 kept, tags.1 second, elements.1 first⟩
  · intro clean
    rw [stripChars, elements.2 clean.noElement, tags.2 clean.noTag]
    exact filter_nul_eq_self_iff.2 clean.noNul

end Intake.Markup
