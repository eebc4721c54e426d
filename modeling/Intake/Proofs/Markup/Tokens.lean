import Intake.Proofs.Markup.Reach
import Mathlib.Data.List.Flatten

/-!
# Texts cut into tokens

Where an opening bracket never follows another one before a closing bracket has come, brackets do
not nest, and a text falls apart into groups in brackets and single characters between them. An
opening bracket that is never closed is one of these characters, and so is a closing bracket that
has nothing to close.

`exists_cuts` says that such a text can be cut, and `Cuts.unique` that there is one way to do it.
`Cuts.exists_group` finds every word in brackets among the groups.
-/

namespace Intake.Markup

/-- A piece of a text: a character on its own, or what stands between two brackets. -/
inductive Token where
  | text (c : Char)
  | group (inner : List Char)
  deriving DecidableEq, Repr

/-- The characters of a piece. -/
def Token.chars : Token → List Char
  | .text c => [c]
  | .group inner => '<' :: (inner ++ ['>'])

theorem Token.chars_group_append (x s : List Char) :
    (Token.group x).chars ++ s = '<' :: (x ++ '>' :: s) := by
  simp [Token.chars]

/-- The tokens that a text is cut into. No bracket stands inside of a group, and an opening bracket
stands on its own only where no closing bracket follows. -/
inductive Cuts : List Token → List Char → Prop
  | nil : Cuts [] []
  | text {c : Char} {ts : List Token} {s : List Char} :
    (c = '<' → '>' ∉ s) → Cuts ts s → Cuts (.text c :: ts) (c :: s)
  | group {x : List Char} {ts : List Token} {s : List Char} :
    '<' ∉ x → '>' ∉ x → Cuts ts s → Cuts (.group x :: ts) ('<' :: (x ++ '>' :: s))

/-- Between any two opening brackets there is a closing one. -/
def Unnested (s : List Char) : Prop := ∀ u, '<' :: (u ++ ['<']) <:+: s → '>' ∈ u

theorem Unnested.suffix {s t : List Char} (unnested : Unnested s) (suffix : t <:+ s) : Unnested t :=
  fun u inside => unnested u (inside.trans suffix.isInfix)

instance (s : List Char) : Decidable (Unnested s) :=
  decidable_of_iff
    (∀ v ∈ s.tails, ∀ w ∈ v.inits, w.head? = some '<' → w.tail.getLast? = some '<' →
      '>' ∈ w.tail.dropLast) <| by
    refine ⟨?_, ?_⟩
    · intro checked u inside
      obtain ⟨v, front, suffix⟩ := List.infix_iff_prefix_suffix.1 inside
      have found := checked v ((List.mem_tails _ _).2 suffix) _ ((List.mem_inits _ _).2 front) rfl
      simpa using found
    · intro unnested v suffix w front begins ends
      obtain ⟨t, rfl⟩ := List.head?_eq_some_iff.1 begins
      obtain ⟨u, same⟩ := List.getLast?_eq_some_iff.1 ends
      rw [List.tail_cons] at same ⊢
      subst same
      rw [List.dropLast_concat]
      exact unnested u (List.infix_iff_prefix_suffix.2
        ⟨v, (List.mem_inits _ _).1 front, (List.mem_tails _ _).1 suffix⟩)

/-! ## One way to cut -/

/-- What stands before the first closing bracket is told from what follows it. -/
theorem eq_of_first_closing {x y s t : List Char} (insideLeft : '>' ∉ x) (insideRight : '>' ∉ y)
    (same : x ++ '>' :: s = y ++ '>' :: t) : x = y ∧ s = t := by
  rcases List.append_eq_append_iff.1 same with ⟨rest, rfl, split⟩ | ⟨rest, rfl, split⟩
  · cases rest with
    | nil => exact ⟨(List.append_nil x).symm, (List.cons.inj split).2⟩
    | cons c rest =>
      obtain ⟨rfl, -⟩ := List.cons.inj split
      exact absurd (List.mem_append_right x List.mem_cons_self) insideRight
  · cases rest with
    | nil => exact ⟨List.append_nil y, (List.cons.inj split).2.symm⟩
    | cons c rest =>
      obtain ⟨rfl, -⟩ := List.cons.inj split
      exact absurd (List.mem_append_right y List.mem_cons_self) insideLeft

/-- A group is told from what follows it. -/
theorem Token.eq_of_group_append {x y s t : List Char} (insideLeft : '>' ∉ x)
    (insideRight : '>' ∉ y) (same : (Token.group x).chars ++ t = '<' :: (y ++ '>' :: s)) :
    x = y ∧ t = s := by
  rw [Token.chars_group_append] at same
  exact eq_of_first_closing insideLeft insideRight (List.cons.inj same).2

theorem exists_cuts {s : List Char} (unnested : Unnested s) : ∃ ts, Cuts ts s := by
  induction length : s.length using Nat.strongRecOn generalizing s with
  | ind n ih =>
    subst length
    cases s with
    | nil => exact ⟨[], .nil⟩
    | cons c s =>
      by_cases closed : c = '<' ∧ '>' ∈ s
      · obtain ⟨rfl, found⟩ := closed
        obtain ⟨x, r, rfl, outside⟩ := List.eq_append_cons_of_mem found
        have flat : '<' ∉ x := by
          intro nested
          obtain ⟨u, v, rfl⟩ := List.append_of_mem nested
          have between : '>' ∈ u := unnested u ⟨[], v ++ '>' :: r, by simp⟩
          exact outside (List.mem_append_left _ between)
        have later : r <:+ '<' :: (x ++ '>' :: r) := ⟨'<' :: (x ++ ['>']), by simp⟩
        have shorter : r.length < ('<' :: (x ++ '>' :: r)).length := by
          simp only [List.length_cons, List.length_append]
          omega
        obtain ⟨ts, cut⟩ := ih r.length shorter (unnested.suffix later) rfl
        exact ⟨.group x :: ts, .group flat outside cut⟩
      · obtain ⟨ts, cut⟩ :=
          ih s.length (Nat.lt_succ_self _) (unnested.suffix (List.suffix_cons c s)) rfl
        exact ⟨.text c :: ts, .text (fun opens found => closed ⟨opens, found⟩) cut⟩

theorem Cuts.unique {ts us : List Token} {s : List Char} (cut : Cuts ts s) (another : Cuts us s) :
    ts = us := by
  induction cut generalizing us with
  | nil =>
    cases another
    rfl
  | @text c ts s unclosed cut ih =>
    cases another with
    | text _ another => rw [ih another]
    | group => exact absurd (List.mem_append_right _ List.mem_cons_self) (unclosed rfl)
  | @group x ts s flat inside cut ih =>
    generalize whole : '<' :: (x ++ '>' :: s) = t at another
    cases another with
    | nil => cases whole
    | text unclosed another =>
      obtain ⟨rfl, rfl⟩ := List.cons.inj whole
      exact absurd (List.mem_append_right x List.mem_cons_self) (unclosed rfl)
    | group _ insideToo another =>
      obtain ⟨rfl, rfl⟩ := eq_of_first_closing inside insideToo (List.cons.inj whole).2
      rw [ih another]

/-! ## Pieces of a text -/

theorem Cuts.eq_flatMap {ts : List Token} {s : List Char} (cut : Cuts ts s) :
    s = ts.flatMap Token.chars := by
  induction cut with
  | nil => rfl
  | text _ _ ih =>
    rw [List.flatMap_cons, ← ih]
    rfl
  | group _ _ _ ih => rw [List.flatMap_cons, ← ih, Token.chars_group_append]

/-- Fewer tokens make up a shorter text. -/
theorem Cuts.sublist {ts us : List Token} {s t : List Char} (cut : Cuts ts s) (left : Cuts us t)
    (fewer : us.Sublist ts) : t.Sublist s := by
  rw [left.eq_flatMap, cut.eq_flatMap]
  exact fewer.flatMap Token.chars

theorem Cuts.split {ts us : List Token} {s : List Char} (cut : Cuts (ts ++ us) s) :
    ∃ u v, s = u ++ v ∧ Cuts ts u ∧ Cuts us v := by
  induction ts generalizing s with
  | nil => exact ⟨[], s, rfl, .nil, cut⟩
  | cons t ts ih =>
    cases cut with
    | text unclosed cut =>
      obtain ⟨u, v, rfl, first, second⟩ := ih cut
      exact ⟨_ :: u, v, rfl,
        .text (fun opens found => unclosed opens (List.mem_append_left v found)) first, second⟩
    | @group x _ _ flat inside cut =>
      obtain ⟨u, v, rfl, first, second⟩ := ih cut
      exact ⟨'<' :: (x ++ '>' :: u), v, by simp, .group flat inside first, second⟩

/-- A word in brackets at the front of a text is its first group. -/
theorem Cuts.exists_first {ts : List Token} {s w : List Char} (cut : Cuts ts s)
    (bracketed : IsBracketed w) (front : w <+: s) :
    ∃ x us, ts = .group x :: us ∧ w = (Token.group x).chars := by
  obtain ⟨inner, rfl, -, inside⟩ := bracketed
  obtain ⟨r, split⟩ := front
  cases cut with
  | nil => cases split
  | text unclosed cut =>
    obtain ⟨rfl, rfl⟩ := List.cons.inj split
    exact absurd (by simp) (unclosed rfl)
  | @group x us s _ insideToo cut =>
    obtain ⟨rfl, -⟩ := Token.eq_of_group_append inside insideToo split
    exact ⟨inner, us, rfl, rfl⟩

/-- Every word in brackets is one of the groups. -/
theorem Cuts.exists_group {ts : List Token} {s w : List Char} (cut : Cuts ts s)
    (bracketed : IsBracketed w) (found : w <:+: s) :
    ∃ x, .group x ∈ ts ∧ w = (Token.group x).chars := by
  induction cut with
  | nil =>
    obtain ⟨inner, rfl, -⟩ := bracketed
    exact absurd (List.infix_nil.1 found) (List.cons_ne_nil _ _)
  | @text c ts s unclosed cut ih =>
    rcases List.infix_cons_iff.1 found with front | later
    · obtain ⟨x, us, same, whole⟩ := (Cuts.text unclosed cut).exists_first bracketed front
      exact ⟨x, same ▸ List.mem_cons_self, whole⟩
    · obtain ⟨x, listed, whole⟩ := ih later
      exact ⟨x, List.mem_cons_of_mem _ listed, whole⟩
  | @group y ts s flat inside cut ih =>
    rcases List.infix_cons_iff.1 found with front | later
    · obtain ⟨x, us, same, whole⟩ := (Cuts.group flat inside cut).exists_first bracketed front
      exact ⟨x, same ▸ List.mem_cons_self, whole⟩
    · have unopened : '<' ∉ y ++ ['>'] := by simp [flat]
      have behind : w <:+: s := by
        apply bracketed.infix_of_append unopened
        simpa using later
      obtain ⟨x, listed, whole⟩ := ih behind
      exact ⟨x, List.mem_cons_of_mem _ listed, whole⟩

end Intake.Markup
