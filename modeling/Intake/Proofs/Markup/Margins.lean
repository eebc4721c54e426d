import Intake.Proofs.Markup.Reach

/-!
# Text around markup

What is deleted from a text begins with an opening bracket and ends with a closing one. So text
without opening brackets in front of it, and text without closing brackets behind it, is neither
deleted nor has it a say in what is: a name at the end of the text may be continued behind it, and a
tag may be left open, but without a closing bracket nothing of this becomes a match.

`Pattern.Recognizes.deleteAll_append` says so of every pattern of such words, and
`strip_deletes_locally` of stripping, together with what stripping leaves out and which texts it
leaves as they are.
-/

namespace Intake.Markup

/-! ## Patterns of words in brackets -/

/-- A pattern recognizes the words that are given, all of which begin and end with brackets. -/
structure Pattern.Recognizes (p : Pattern) (words : List Char → Prop) : Prop where
  reads : ∀ {s r}, p.after? s = some r ↔ ∃ w, words w ∧ s = w ++ r
  begins : ∀ {w}, words w → w.head? = some '<'
  ends : ∀ {w}, words w → w.getLast? = some '>'

theorem recognizes_tag : tag.Recognizes IsTag where
  reads := after?_tag_eq_some_iff
  begins isTag := isTag.brackets.1
  ends isTag := isTag.brackets.2

theorem recognizes_element : element.Recognizes IsShortest where
  reads := after?_element_eq_some_iff
  begins isShortest := isShortest.isElement.brackets.1
  ends isShortest := isShortest.isElement.brackets.2

namespace Pattern.Recognizes

variable {p : Pattern} {words : List Char → Prop} (recognizes : p.Recognizes words)

include recognizes

/-- Nothing is found in front of another character than an opening bracket. -/
theorem after?_of_ne {c : Char} (other : c ≠ '<') (s : List Char) : p.after? (c :: s) = none := by
  rw [Option.eq_none_iff_forall_ne_some]
  intro r read
  obtain ⟨w, word, split⟩ := recognizes.reads.1 read
  obtain ⟨rest, rfl⟩ := List.head?_eq_some_iff.1 (recognizes.begins word)
  exact other (List.cons.inj split).1

/-- Nothing is found where no closing bracket follows. -/
theorem after?_of_open {s : List Char} (unclosed : '>' ∉ s) : p.after? s = none := by
  rw [Option.eq_none_iff_forall_ne_some]
  intro r read
  obtain ⟨w, word, rfl⟩ := recognizes.reads.1 read
  exact unclosed (List.mem_append_left r (List.mem_of_getLast? (recognizes.ends word)))

/-- What is found in a text is found there whatever follows without closing brackets. -/
theorem after?_append {b : List Char} (unclosed : '>' ∉ b) (s : List Char) :
    p.after? (s ++ b) = (p.after? s).map (· ++ b) := by
  ext r
  rw [Option.map_eq_some_iff, recognizes.reads]
  apply Iff.intro
  · rintro ⟨w, word, split⟩
    rcases List.append_eq_append_iff.1 split with ⟨rest, rfl, rfl⟩ | ⟨rest, rfl, rfl⟩
    · -- The word ends with a closing bracket, and so it does not end behind the text.
      cases rest with
      | nil => exact ⟨[], recognizes.reads.2 ⟨_, word, by simp⟩, rfl⟩
      | cons c rest =>
        have last := recognizes.ends word
        rw [List.getLast?_append_of_ne_nil _ (List.cons_ne_nil c rest)] at last
        exact absurd (List.mem_append_left r (List.mem_of_getLast? last)) unclosed
    · exact ⟨rest, recognizes.reads.2 ⟨w, word, rfl⟩, rfl⟩
  · rintro ⟨t, read, rfl⟩
    obtain ⟨w, word, rfl⟩ := recognizes.reads.1 read
    exact ⟨w, word, List.append_assoc w t b⟩

theorem deleteAll_append_left {a : List Char} (unopened : '<' ∉ a) (s : List Char) :
    p.deleteAll (a ++ s) = a ++ p.deleteAll s := by
  induction a with
  | nil => rfl
  | cons c a ih =>
    obtain ⟨other, rest⟩ := List.ne_and_not_mem_of_not_mem_cons unopened
    rw [List.cons_append, deleteAll_of_noMatch (recognizes.after?_of_ne other.symm _), ih rest,
      List.cons_append]

theorem deleteAll_of_open {b : List Char} (unclosed : '>' ∉ b) : p.deleteAll b = b :=
  p.deleteAll_eq_self_iff.2 fun _ suffix =>
    recognizes.after?_of_open fun found => unclosed (suffix.subset found)

/-- Text without opening brackets ahead and text without closing brackets behind are left as they
are, and so is what is deleted between them. -/
theorem deleteAll_append {a b : List Char} (unopened : '<' ∉ a) (unclosed : '>' ∉ b)
    (s : List Char) : p.deleteAll (a ++ (s ++ b)) = a ++ (p.deleteAll s ++ b) := by
  rw [recognizes.deleteAll_append_left unopened,
    p.deleteAll_append fun v _ _ => recognizes.after?_append unclosed v,
    recognizes.deleteAll_of_open unclosed]

end Pattern.Recognizes

/-! ## Stripping -/

/-- A text without its NUL characters. -/
def withoutNuls (s : String) : String :=
  String.ofList (s.toList.filter (· != '\x00'))

theorem stripChars_append {a b : List Char} (unopened : '<' ∉ a) (unclosed : '>' ∉ b)
    (s : List Char) :
    stripChars (a ++ (s ++ b)) =
      a.filter (· != '\x00') ++ (stripChars s ++ b.filter (· != '\x00')) := by
  rw [stripChars, recognizes_element.deleteAll_append unopened unclosed,
    recognizes_tag.deleteAll_append unopened unclosed, List.filter_append, List.filter_append]
  rfl

theorem stripChars_sublist (s : List Char) : (stripChars s).Sublist s :=
  List.filter_sublist.trans
    ((tag.deleteAll_sublist (element.deleteAll s)).trans (element.deleteAll_sublist s))

/-- Stripping only leaves characters out, and none exactly if the text is clean. Around a text it
leaves out NUL characters and nothing else, as long as no bracket ahead opens and none behind
closes. -/
theorem strip_deletes_locally (s : String) :
    (strip s).toList.Sublist s.toList ∧
      (strip s = s ↔ IsClean s.toList) ∧
      ∀ a b : String, '<' ∉ a.toList → '>' ∉ b.toList →
        strip (a ++ s ++ b) = withoutNuls a ++ strip s ++ withoutNuls b := by
  refine ⟨?_, strip_eq_self_iff, ?_⟩
  · rw [strip, String.toList_ofList]
    exact stripChars_sublist s.toList
  · intro a b unopened unclosed
    rw [← String.toList_inj]
    simp only [strip, withoutNuls, String.toList_append, String.toList_ofList, List.append_assoc]
    exact stripChars_append unopened unclosed s.toList

theorem strip_deletes_locally_sample :
    '<' ∉ "1 > 0\x00, ".toList ∧ '>' ∉ " <script".toList ∧
      strip ("1 > 0\x00, " ++ "<i>and</i>" ++ " <script") =
        "1 > 0, " ++ strip "<i>and</i>" ++ " <script" := by
  have unopened : '<' ∉ "1 > 0\x00, ".toList := by decide
  have unclosed : '>' ∉ " <script".toList := by decide
  have ahead : withoutNuls "1 > 0\x00, " = "1 > 0, " := by decide
  have behind : withoutNuls " <script" = " <script" := by decide
  obtain ⟨-, -, around⟩ := strip_deletes_locally "<i>and</i>"
  have split := around _ _ unopened unclosed
  rw [ahead, behind] at split
  exact ⟨unopened, unclosed, split⟩

end Intake.Markup
