import Intake.Markup.Strip
import Mathlib.Data.List.Basic

/-!
# The walk of a deletion

`Pattern.deleteAll` walks over a text and either leaves out a match or keeps one character.
`Pattern.walk` is induction over these two steps. It gives what holds of every pattern: nothing is
added or moved, a text stays as it is exactly if nothing in it matches, and the walk over two texts
one after the other is the walk over each, unless a match reaches across.
-/

namespace Intake.Markup.Pattern

variable (p : Pattern)

/-- Induction over the steps of a walk. -/
@[elab_as_elim]
theorem walk {motive : List Char → Prop} (nil : motive [])
    (found : ∀ s r, p.after? s = some r → motive r → motive s)
    (missed : ∀ c s, p.after? (c :: s) = none → motive s → motive (c :: s)) (s : List Char) :
    motive s := by
  induction length : s.length using Nat.strongRecOn generalizing s with
  | ind n ih =>
    subst length
    cases s with
    | nil => exact nil
    | cons c t =>
      cases read : p.after? (c :: t) with
      | some r => exact found (c :: t) r read (ih r.length (p.length_lt read) r rfl)
      | none => exact missed c t read (ih t.length (Nat.lt_succ_self _) t rfl)

theorem after?_suffix {p : Pattern} {s r : List Char} (read : p.after? s = some r) : r <:+ s := by
  obtain ⟨c, t, rfl, suffix⟩ := p.consumes read
  exact suffix.trans (List.suffix_cons c t)

theorem deleteAll_sublist (s : List Char) : (p.deleteAll s).Sublist s := by
  induction s using p.walk with
  | nil => rw [deleteAll_nil]
  | found s r read ih =>
    rw [deleteAll_of_match read]
    exact ih.trans (after?_suffix read).sublist
  | missed c s unread ih =>
    rw [deleteAll_of_noMatch unread]
    exact ih.cons_cons c

/-- A text stays as it is exactly if there is no match anywhere in it. -/
theorem deleteAll_eq_self_iff {s : List Char} :
    p.deleteAll s = s ↔ ∀ v, v <:+ s → p.after? v = none := by
  induction s with
  | nil =>
    refine ⟨fun _ v suffix => ?_, fun _ => p.deleteAll_nil⟩
    obtain rfl := List.suffix_nil.1 suffix
    cases read : p.after? [] with
    | none => rfl
    | some r =>
      obtain ⟨c, t, same, -⟩ := p.consumes read
      cases same
  | cons c s ih =>
    apply Iff.intro
    · intro kept
      cases read : p.after? (c :: s) with
      | some r =>
        -- Where something matches, the text gets shorter.
        have shorter : (p.deleteAll (c :: s)).length < (c :: s).length := by
          rw [deleteAll_of_match read]
          exact Nat.lt_of_le_of_lt (p.deleteAll_sublist r).length_le (p.length_lt read)
        rw [kept] at shorter
        exact absurd shorter (Nat.lt_irrefl _)
      | none =>
        rw [deleteAll_of_noMatch read] at kept
        intro v suffix
        rcases List.suffix_cons_iff.1 suffix with rfl | later
        · exact read
        · exact ih.1 (List.cons.inj kept).2 v later
    · intro unread
      rw [deleteAll_of_noMatch (unread _ (List.suffix_refl _)),
        ih.2 fun v suffix => unread v (suffix.trans (List.suffix_cons c s))]

/-- Two texts are walked over one after the other if no match reaches from the one into the
other. -/
theorem deleteAll_append {s t : List Char}
    (apart : ∀ v, v <:+ s → v ≠ [] → p.after? (v ++ t) = (p.after? v).map (· ++ t)) :
    p.deleteAll (s ++ t) = p.deleteAll s ++ p.deleteAll t := by
  induction s using p.walk with
  | nil => rw [deleteAll_nil, List.nil_append, List.nil_append]
  | found s r read ih =>
    have something : s ≠ [] := by
      intro same
      subst same
      obtain ⟨c, u, same, -⟩ := p.consumes read
      cases same
    have both : p.after? (s ++ t) = some (r ++ t) := by
      rw [apart s (List.suffix_refl s) something, read]
      rfl
    rw [deleteAll_of_match both, deleteAll_of_match read]
    exact ih fun v suffix => apart v (suffix.trans (after?_suffix read))
  | missed c s unread ih =>
    have neither : p.after? (c :: (s ++ t)) = none := by
      rw [← List.cons_append, apart _ (List.suffix_refl _) (List.cons_ne_nil c s), unread]
      rfl
    rw [List.cons_append, deleteAll_of_noMatch neither, deleteAll_of_noMatch unread,
      ih fun v suffix => apart v (suffix.trans (List.suffix_cons c s)), List.cons_append]

end Intake.Markup.Pattern
