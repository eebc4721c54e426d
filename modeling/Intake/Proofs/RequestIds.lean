import Intake.RequestId
import Mathlib.Data.List.Basic
import Mathlib.Data.List.Induction
import Mathlib.Data.List.Shortlex
import Mathlib.Order.RelClasses

/-!
# Request ids, and numbers in base 36

The digits of a number are found by dividing it again and again, with the last one first:
`Division.Ends` says with what digits this ends. Turned around they are `base36` of the number
(`Division.ends_of_ne_zero`).

A text is the number that it stands for in base 36 (`base36Value`) written down if its characters
are digits and the first one is no idle zero: `IsBase36`. These texts and the numbers correspond to
each other (`base36Value_base36`, `base36_base36Value`), and so do their orders, if texts are
compared by their lengths first (`shortlex_base36_iff`).

No digit is the low line that an id has between the time and the random text, so that an id can be
taken apart again. `request_ids_are_unambiguous` puts this together.
-/

namespace Intake

/-! ## Digits -/

/-- The digits, each in the place that is its value. -/
def base36Alphabet : List Char := "0123456789abcdefghijklmnopqrstuvwxyz".toList

/-- The value of a digit. -/
def base36DigitValue (c : Char) : Nat := base36Alphabet.idxOf c

theorem getElem?_base36Alphabet {n : Nat} (small : n < 36) :
    base36Alphabet[n]? = some (base36Digit n) := by
  have all : ∀ n < 36, base36Alphabet[n]? = some (base36Digit n) := by decide
  exact all n small

theorem base36Digit_mem {n : Nat} (small : n < 36) : base36Digit n ∈ base36Alphabet :=
  List.mem_of_getElem? (getElem?_base36Alphabet small)

theorem base36DigitValue_base36Digit {n : Nat} (small : n < 36) :
    base36DigitValue (base36Digit n) = n := by
  have all : ∀ n < 36, base36DigitValue (base36Digit n) = n := by decide
  exact all n small

theorem base36DigitValue_lt {c : Char} (digit : c ∈ base36Alphabet) : base36DigitValue c < 36 :=
  List.idxOf_lt_length_of_mem digit

theorem base36Digit_base36DigitValue {c : Char} (digit : c ∈ base36Alphabet) :
    base36Digit (base36DigitValue c) = c := by
  have place : base36Alphabet[base36DigitValue c]? = some c := List.getElem?_idxOf digit
  rw [getElem?_base36Alphabet (base36DigitValue_lt digit)] at place
  exact Option.some.inj place

theorem toNat_base36Digit {n : Nat} (small : n < 36) :
    (base36Digit n).toNat = if n < 10 then 48 + n else 87 + n := by
  have all : ∀ n < 36, (base36Digit n).toNat = if n < 10 then 48 + n else 87 + n := by decide
  exact all n small

/-- Digits are ordered as their values are. -/
theorem base36Digit_lt {m n : Nat} (less : m < n) (small : n < 36) :
    base36Digit m < base36Digit n := by
  have codes : (base36Digit m).toNat < (base36Digit n).toNat := by
    rw [toNat_base36Digit small, toNat_base36Digit (less.trans small)]
    split <;> split <;> omega
  exact codes

theorem base36Digit_eq_zero_iff {n : Nat} (small : n < 36) : base36Digit n = '0' ↔ n = 0 := by
  have all : ∀ n < 36, base36Digit n = '0' ↔ n = 0 := by decide
  exact all n small

/-! ## Numbers -/

theorem base36_of_lt {n : Nat} (small : n < 36) : base36 n = [base36Digit n] := by
  rw [base36, if_pos small]

theorem base36_zero : base36 0 = ['0'] := base36_of_lt (by decide)

theorem base36_of_le {n : Nat} (large : 36 ≤ n) :
    base36 n = base36 (n / 36) ++ [base36Digit (n % 36)] := by
  rw [base36, if_neg (Nat.not_lt.2 large)]

theorem base36_ne_nil (n : Nat) : base36 n ≠ [] := by
  fun_cases base36 n <;> simp

theorem mem_base36Alphabet_of_mem_base36 (n : Nat) : ∀ c ∈ base36 n, c ∈ base36Alphabet := by
  induction n using base36.induct with
  | case1 n small =>
    intro c listed
    rw [base36_of_lt small, List.mem_singleton] at listed
    subst listed
    exact base36Digit_mem small
  | case2 n large ih =>
    intro c listed
    rw [base36_of_le (Nat.not_lt.1 large), List.mem_append, List.mem_singleton] at listed
    rcases listed with earlier | rfl
    · exact ih c earlier
    · exact base36Digit_mem (Nat.mod_lt n (by decide))

/-- Only zero begins with a zero. -/
theorem head?_base36_of_ne_zero {n : Nat} (positive : n ≠ 0) : (base36 n).head? ≠ some '0' := by
  induction n using base36.induct with
  | case1 n small =>
    rw [base36_of_lt small, List.head?_cons, ne_eq, Option.some.injEq,
      base36Digit_eq_zero_iff small]
    exact positive
  | case2 n large ih =>
    rw [base36_of_le (Nat.not_lt.1 large), List.head?_append_of_ne_nil _ (base36_ne_nil _)]
    exact ih (by omega)

/-! ## Division -/

/-- A number that is being divided: what is left of it, and the digits that have been taken off it,
the last one first. -/
structure Division where
  left : Nat
  digits : List Char

namespace Division

/-- One round: the last digit of what is left is taken off. -/
def round (division : Division) : Division :=
  ⟨division.left / 36, division.digits ++ [base36Digit (division.left % 36)]⟩

/-- Dividing goes on, round after round, until nothing is left. This is how it ends, if it ends. -/
inductive Ends : Division → List Char → Prop
  | over (digits : List Char) : Ends ⟨0, digits⟩ digits
  | onward {division : Division} {digits : List Char} (something : division.left ≠ 0)
      (later : Ends division.round digits) : Ends division digits

/-- Dividing ends, with the digits of the number behind those that were there before. -/
theorem ends_of_ne_zero {n : Nat} (something : n ≠ 0) (earlier : List Char) :
    Ends ⟨n, earlier⟩ (earlier ++ (base36 n).reverse) := by
  induction n using base36.induct generalizing earlier with
  | case1 n small =>
    refine .onward something ?_
    have nothing : n / 36 = 0 := Nat.div_eq_of_lt small
    have whole : n % 36 = n := Nat.mod_eq_of_lt small
    rw [round, nothing, whole, base36_of_lt small]
    exact .over _
  | case2 n large ih =>
    refine .onward something ?_
    have split := ih (by omega) (earlier ++ [base36Digit (n % 36)])
    rw [base36_of_le (Nat.not_lt.1 large), List.reverse_concat, List.append_cons]
    exact split

end Division

/-! ## Values -/

/-- The number that digits stand for, leading ones first. -/
def base36Value (s : List Char) : Nat :=
  s.foldl (fun n c => 36 * n + base36DigitValue c) 0

theorem base36Value_concat (s : List Char) (c : Char) :
    base36Value (s ++ [c]) = 36 * base36Value s + base36DigitValue c := by
  rw [base36Value, List.foldl_concat]
  rfl

theorem base36Value_base36 (n : Nat) : base36Value (base36 n) = n := by
  induction n using base36.induct with
  | case1 n small =>
    rw [base36_of_lt small, ← List.nil_append [base36Digit n], base36Value_concat,
      base36DigitValue_base36Digit small]
    exact Nat.zero_add n
  | case2 n large ih =>
    rw [base36_of_le (Nat.not_lt.1 large), base36Value_concat, ih,
      base36DigitValue_base36Digit (Nat.mod_lt n (by decide))]
    exact Nat.div_add_mod n 36

/-- A text that is a number in base 36: some digits, of which the first one is no zero unless it is
the only one. -/
structure IsBase36 (s : List Char) : Prop where
  digits : ∀ c ∈ s, c ∈ base36Alphabet
  nonempty : s ≠ []
  leading : s.head? = some '0' → s = ['0']

theorem isBase36_base36 (n : Nat) : IsBase36 (base36 n) := by
  refine ⟨mem_base36Alphabet_of_mem_base36 n, base36_ne_nil n, fun zero => ?_⟩
  by_cases nothing : n = 0
  · subst nothing
    exact base36_zero
  · exact absurd zero (head?_base36_of_ne_zero nothing)

/-- What stands ahead of the last digit is a number, unless there is nothing, and it is not zero. -/
theorem IsBase36.of_concat {s : List Char} {c : Char} (number : IsBase36 (s ++ [c]))
    (some : s ≠ []) : IsBase36 s ∧ s ≠ ['0'] := by
  have leading : s.head? ≠ .some '0' := by
    intro zero
    have single := congrArg List.length
      (number.leading ((List.head?_append_of_ne_nil s some).trans zero))
    simp [some] at single
  refine ⟨⟨fun d listed => number.digits d (List.mem_append_left _ listed), some,
    fun zero => absurd zero leading⟩, ?_⟩
  rintro rfl
  exact leading rfl

theorem base36_base36Value {s : List Char} (number : IsBase36 s) : base36 (base36Value s) = s := by
  -- The last digit is the remainder, and the text ahead of it the quotient.
  induction s using List.reverseRecOn with
  | nil => exact absurd rfl number.nonempty
  | append_singleton s c ih =>
    have digit : c ∈ base36Alphabet := number.digits c (by simp)
    have small := base36DigitValue_lt digit
    rw [base36Value_concat]
    by_cases single : s = []
    · subst single
      have value : 36 * base36Value [] + base36DigitValue c = base36DigitValue c :=
        Nat.zero_add _
      rw [value, base36_of_lt small, base36Digit_base36DigitValue digit]
      rfl
    · obtain ⟨front, something⟩ := number.of_concat single
      have restored := ih front
      have positive : base36Value s ≠ 0 := by
        intro zero
        rw [zero, base36_zero] at restored
        exact something restored.symm
      have quotient : (36 * base36Value s + base36DigitValue c) / 36 = base36Value s := by omega
      have remainder : (36 * base36Value s + base36DigitValue c) % 36 = base36DigitValue c := by
        omega
      rw [base36_of_le (by omega), quotient, remainder, restored,
        base36Digit_base36DigitValue digit]

/-! ## Order -/

section Shortlex

variable {α : Type} {r : α → α → Prop} {s t : List α}

/-- Lists of one length that differ early differ whatever follows. -/
theorem lex_append_of_lex (lex : List.Lex r s t) (lengths : s.length = t.length)
    (later other : List α) : List.Lex r (s ++ later) (t ++ other) := by
  induction lex with
  | nil => cases lengths
  | cons _ ih => exact .cons (ih (Nat.succ.inj lengths))
  | rel less => exact .rel less

theorem shortlex_concat_of_shortlex (less : List.Shortlex r s t) (a b : α) :
    List.Shortlex r (s ++ [a]) (t ++ [b]) := by
  rcases List.shortlex_def.1 less with shorter | ⟨lengths, lex⟩
  · exact .of_length_lt (by simpa using shorter)
  · exact .of_lex (by simpa using lengths) (lex_append_of_lex lex lengths [a] [b])

theorem shortlex_concat_of_rel (s : List α) {a b : α} (less : r a b) :
    List.Shortlex r (s ++ [a]) (s ++ [b]) :=
  .append_left ((List.shortlex_singleton_iff a b).2 less) s

end Shortlex

/-- A smaller number has fewer digits, or as many of which the first different one is smaller. -/
theorem shortlex_base36_of_lt {m n : Nat} (less : m < n) :
    List.Shortlex (· < ·) (base36 m) (base36 n) := by
  induction n using base36.induct generalizing m with
  | case1 n small =>
    rw [base36_of_lt small, base36_of_lt (less.trans small)]
    exact (List.shortlex_singleton_iff _ _).2 (base36Digit_lt less small)
  | case2 n large ih =>
    rw [base36_of_le (Nat.not_lt.1 large)]
    by_cases single : m < 36
    · rw [base36_of_lt single]
      refine .of_length_lt ?_
      have some := List.length_pos_of_ne_nil (base36_ne_nil (n / 36))
      simpa using some
    · rw [base36_of_le (Nat.not_lt.1 single)]
      rcases Nat.lt_or_ge (m / 36) (n / 36) with lower | higher
      · exact shortlex_concat_of_shortlex (ih lower) _ _
      · have same : m / 36 = n / 36 := by omega
        have last : m % 36 < n % 36 := by omega
        rw [same]
        exact shortlex_concat_of_rel _ (base36Digit_lt last (Nat.mod_lt n (by decide)))

theorem shortlex_base36_iff {m n : Nat} :
    List.Shortlex (· < ·) (base36 m) (base36 n) ↔ m < n := by
  refine ⟨fun less => ?_, shortlex_base36_of_lt⟩
  rcases Nat.lt_trichotomy m n with lower | rfl | higher
  · exact lower
  · exact absurd less (Std.Asymm.asymm _ _ less)
  · exact absurd less (Std.Asymm.asymm _ _ (shortlex_base36_of_lt higher))

/-! ## Ids -/

theorem toList_requestId (clock : Clock) :
    clock.requestId.toList =
      "req_".toList ++ (base36 clock.milliseconds ++ '_' :: clock.random.toList) := by
  simp [Clock.requestId, String.toList_append]

/-- The time ends at the first low line, since no digit is one. -/
theorem takeWhile_base36_append (n : Nat) (s : List Char) :
    (base36 n ++ '_' :: s).takeWhile (· ≠ '_') = base36 n := by
  have other : '_' ∉ base36Alphabet := by decide
  have digits : ∀ c ∈ base36 n, decide (c ≠ '_') = true := by
    intro c listed
    refine decide_eq_true ?_
    rintro rfl
    exact other (mem_base36Alphabet_of_mem_base36 n _ listed)
  rw [List.takeWhile_append_of_pos digits]
  simp

theorem requestId_injective {clock other : Clock} (same : clock.requestId = other.requestId) :
    clock = other := by
  have letters := congrArg String.toList same
  rw [toList_requestId, toList_requestId] at letters
  have parts := List.append_cancel_left letters
  have times : base36 clock.milliseconds = base36 other.milliseconds := by
    rw [← takeWhile_base36_append clock.milliseconds clock.random.toList, parts,
      takeWhile_base36_append]
  have milliseconds : clock.milliseconds = other.milliseconds := by
    rw [← base36Value_base36 clock.milliseconds, times, base36Value_base36]
  have texts : clock.random = other.random := by
    rw [times] at parts
    exact String.toList_inj.1 (List.cons.inj (List.append_cancel_left parts)).2
  cases clock
  cases other
  cases milliseconds
  cases texts
  rfl

/-- Request ids are unambiguous. Zero is written as a zero, and dividing any other number ends, with
its digits the other way around. The digits of a number are a number in base 36, and stand for the
number that they were found for; and every number in base 36 is written as its value is. Numbers are
ordered as their digits are, shorter ones ahead of longer ones. So an id tells the time and the
random text that it was made from. -/
theorem request_ids_are_unambiguous :
    (base36 0 = ['0'] ∧ ∀ n, n ≠ 0 → Division.Ends ⟨n, []⟩ (base36 n).reverse) ∧
    (∀ n, IsBase36 (base36 n) ∧ base36Value (base36 n) = n) ∧
    (∀ s, IsBase36 s → base36 (base36Value s) = s) ∧
    (∀ m n, m < n ↔ (base36 m).length < (base36 n).length ∨
      (base36 m).length = (base36 n).length ∧ base36 m < base36 n) ∧
    ∀ clock other : Clock, clock.requestId = other.requestId →
      clock.milliseconds = other.milliseconds ∧ clock.random = other.random := by
  refine ⟨⟨base36_zero, fun n something => ?_⟩, fun n => ?_, fun s number => ?_, fun m n => ?_,
    fun clock other same => ?_⟩
  · exact Division.ends_of_ne_zero something []
  · exact ⟨isBase36_base36 n, base36Value_base36 n⟩
  · exact base36_base36Value number
  · rw [← shortlex_base36_iff, List.shortlex_def]
    rfl
  · cases requestId_injective same
    exact ⟨rfl, rfl⟩

/-- The last number of two digits, and an id in which the random text holds a low line as well. -/
theorem request_ids_are_unambiguous_sample :
    IsBase36 ['z', 'z'] ∧ base36 1295 = ['z', 'z'] ∧
      Division.Ends ⟨1295, []⟩ (base36 1295).reverse ∧
      ∀ clock : Clock, clock.requestId = (⟨1295, "0_a"⟩ : Clock).requestId →
        clock.milliseconds = 1295 ∧ clock.random = "0_a" := by
  obtain ⟨⟨-, ends⟩, -, restored, -, told⟩ := request_ids_are_unambiguous
  have digits : ∀ c ∈ ['z', 'z'], c ∈ base36Alphabet := by
    intro c listed
    have same : c = 'z' := by simpa using listed
    subst same
    decide
  have number : IsBase36 ['z', 'z'] := ⟨digits, by decide, by decide⟩
  exact ⟨number, restored _ number, ends 1295 (by decide), fun clock same => told clock _ same⟩

end Intake
