import Intake.Proofs.Reading
import Intake.Specifier.Grammar

/-!
# Keys and their parts

The grammar of specifiers and the reader of specifiers are two definitions of one little language.
Between them stand the `Parts` of a key: a source, a star or none, a name and a question mark or
none. `Parts.key` writes them down, and `IsName` says which names the grammar admits.

A key keeps to the grammar exactly when it is the key of parts with such a name
(`isValid_text_iff`). No two of these have the same key (`Parts.eq_of_key`), and reading the key
gives the parts back (`Parts.compile_key`).
-/

namespace Intake.Specifier

/-- What a key is put together from. -/
structure Parts where
  source : Source
  sanitize : Bool
  name : List Char
  optional : Bool
  deriving DecidableEq, Repr

/-- The key that is put together from parts. -/
def Parts.key (parts : Parts) : String :=
  String.ofList (Specifier.key [parts.source.letter] parts.sanitize parts.name parts.optional)

/-- A name that the grammar admits. -/
structure IsName (name : List Char) : Prop where
  short : name.length ≤ 100
  regular : ∀ c ∈ name, ('A' ≤ c ∧ c ≤ 'Z') ∨ ('a' ≤ c ∧ c ≤ 'z') ∨ ('0' ≤ c ∧ c ≤ '9') ∨
    c = '_' ∨ c = '-'

/-! ## Markers -/

/-- A star, or none. -/
def star (sanitize : Bool) : List Char := if sanitize then ['*'] else []

/-- A question mark, or none. -/
def question (optional : Bool) : List Char := if optional then ['?'] else []

theorem Parts.toList_key (parts : Parts) :
    parts.key.toList =
      parts.source.letter :: (star parts.sanitize ++ (parts.name ++ question parts.optional)) := by
  simp [Parts.key, Specifier.key, star, question]

theorem isNameCharacter_iff {c : Char} :
    isNameCharacter c = true ↔
      ('A' ≤ c ∧ c ≤ 'Z') ∨ ('a' ≤ c ∧ c ≤ 'z') ∨ ('0' ≤ c ∧ c ≤ '9') ∨ c = '_' ∨ c = '-' := by
  change (decide (c.val ≥ 'A'.val ∧ c.val ≤ 'Z'.val) ||
    (decide (c.val ≥ 'a'.val) && decide (c.val ≤ 'z'.val)) ||
    (decide (c.val ≥ '0'.val) && decide (c.val ≤ '9'.val)) || c == '_' || c == '-') = true ↔ _
  simp only [Bool.or_eq_true, Bool.and_eq_true, decide_eq_true_eq, beq_iff_eq, or_assoc]
  rfl

theorem IsName.characters {name : List Char} (proper : IsName name) :
    ∀ c ∈ name, isNameCharacter c = true :=
  fun c listed => isNameCharacter_iff.2 (proper.regular c listed)

theorem isName_iff {name : List Char} :
    IsName name ↔ name.length ≤ maxNameLength ∧ ∀ c ∈ name, isNameCharacter c = true := by
  apply Iff.intro
  · intro proper
    exact ⟨proper.short, proper.characters⟩
  · rintro ⟨short, characters⟩
    exact ⟨short, fun c listed => isNameCharacter_iff.1 (characters c listed)⟩

/-- No marker can stand in a name. -/
theorem IsName.not_mem {name : List Char} (proper : IsName name) : '*' ∉ name ∧ '?' ∉ name := by
  refine ⟨fun listed => ?_, fun listed => ?_⟩
  · have regular := proper.characters _ listed
    revert regular
    decide
  · have regular := proper.characters _ listed
    revert regular
    decide

/-- A star in front is told from what follows it. -/
theorem splitStar_append (sanitize : Bool) {rest : List Char} (unstarred : rest.head? ≠ some '*') :
    splitStar (star sanitize ++ rest) = (sanitize, rest) := by
  cases sanitize with
  | true => rfl
  | false =>
    have plain : splitStar rest = (false, rest) := by
      rw [splitStar_eq]
      simp [unstarred]
    exact plain

/-- A question mark at the end is told from what stands before it. -/
theorem splitQuestion_append (optional : Bool) {s : List Char}
    (unquestioned : s.getLast? ≠ some '?') :
    splitQuestion (s ++ question optional) = (optional, s) := by
  cases optional with
  | true => simp [splitQuestion, question]
  | false => simp [splitQuestion, question, unquestioned]

theorem star_append_splitStar (s : List Char) : star (splitStar s).1 ++ (splitStar s).2 = s := by
  unfold splitStar
  split <;> rfl

theorem dropStar_eq (s : List Char) : dropStar s = (splitStar s).2 := by
  unfold dropStar
  split
  · rfl
  · next plain =>
    have unstarred : s.head? ≠ some '*' := fun first =>
      (List.head?_eq_some_iff.1 first).elim plain
    rw [splitStar_eq, if_neg unstarred]

namespace IsName

variable {name : List Char} (proper : IsName name)

include proper

theorem head?_ne (optional : Bool) : (name ++ question optional).head? ≠ some '*' := by
  intro first
  have listed : '*' ∈ name ++ question optional := List.mem_of_head? first
  rcases List.mem_append.1 listed with inside | behind
  · exact proper.not_mem.1 inside
  · cases optional <;> simp [question] at behind

/-- A star does not make a question mark of the last character. -/
theorem getLast?_ne (sanitize : Bool) : (star sanitize ++ name).getLast? ≠ some '?' := by
  intro last
  have listed : '?' ∈ star sanitize ++ name := List.mem_of_getLast? last
  rcases List.mem_append.1 listed with ahead | inside
  · cases sanitize <;> simp [star] at ahead
  · exact proper.not_mem.2 inside

theorem splitQuestion_eq (optional : Bool) :
    splitQuestion (name ++ question optional) = (optional, name) :=
  splitQuestion_append optional (proper.getLast?_ne false)

theorem takeWhile_eq (optional : Bool) :
    (name ++ question optional).takeWhile isNameCharacter = name ∧
      (name ++ question optional).dropWhile isNameCharacter = question optional := by
  rw [List.takeWhile_append_of_pos proper.characters,
    List.dropWhile_append_of_pos proper.characters]
  cases optional with
  | true => exact ⟨List.append_nil name, rfl⟩
  | false => exact ⟨List.append_nil name, rfl⟩

end IsName

/-! ## The grammar -/

theorem isMarkedName_iff {s : List Char} :
    isMarkedName s = true ↔ ∃ name optional, IsName name ∧ s = name ++ question optional := by
  apply Iff.intro
  · intro marked
    simp only [isMarkedName, Bool.and_eq_true, decide_eq_true_eq, Bool.or_eq_true, beq_iff_eq]
      at marked
    obtain ⟨short, rest⟩ := marked
    have proper : IsName (s.takeWhile isNameCharacter) :=
      isName_iff.2 ⟨short, List.all_eq_true.1 List.all_takeWhile⟩
    have whole := List.takeWhile_append_dropWhile (p := isNameCharacter) (l := s)
    rcases rest with none | mark
    · rw [none] at whole
      exact ⟨_, false, proper, whole.symm⟩
    · rw [mark] at whole
      exact ⟨_, true, proper, whole.symm⟩
  · rintro ⟨name, optional, proper, rfl⟩
    obtain ⟨taken, left⟩ := proper.takeWhile_eq optional
    have short : name.length ≤ maxNameLength := proper.short
    simp only [isMarkedName, taken, left, decide_eq_true short, Bool.true_and]
    cases optional <;> rfl

theorem ofLetter?_isSome_iff {c : Char} :
    (Source.ofLetter? c).isSome = true ↔ ∃ source : Source, c = source.letter := by
  rw [Option.isSome_iff_exists]
  exact exists_congr fun source => Source.ofLetter?_eq_some_iff

/-- A key keeps to the grammar exactly when it is put together from parts with a name that the
grammar admits. -/
theorem isValid_text_iff {key : String} :
    isValid (.text key) = true ↔ ∃ parts : Parts, IsName parts.name ∧ key = parts.key := by
  have written : ∀ parts : Parts, key = parts.key ↔ key.toList = parts.key.toList := fun parts =>
    String.toList_inj.symm
  simp only [isValid, written, Parts.toList_key]
  cases key.toList with
  | nil => simp [isWellFormed]
  | cons c s =>
    simp only [isWellFormed, Bool.and_eq_true, ofLetter?_isSome_iff, isMarkedName_iff,
      dropStar_eq, List.cons.injEq]
    apply Iff.intro
    · rintro ⟨⟨source, rfl⟩, name, optional, proper, rest⟩
      refine ⟨⟨source, (splitStar s).1, name, optional⟩, proper, rfl, ?_⟩
      dsimp only
      rw [← rest, star_append_splitStar]
    · rintro ⟨⟨source, sanitize, name, optional⟩, proper, rfl, rfl⟩
      rw [splitStar_append sanitize (proper.head?_ne optional)]
      exact ⟨⟨source, rfl⟩, name, optional, proper, rfl⟩

/-- What keeps to the grammar is a text. -/
theorem exists_text_of_isValid {key : Payload} (valid : isValid key = true) :
    ∃ s, key = .text s := by
  cases key with
  | text s => exact ⟨s, rfl⟩
  | _ => cases valid

/-! ## Reading a key -/

namespace Parts

variable {parts other : Parts}

/-- Parts can be told from their key. -/
theorem eq_of_key (proper : IsName parts.name) (properToo : IsName other.name)
    (same : parts.key = other.key) : parts = other := by
  have characters := congrArg String.toList same
  rw [toList_key, toList_key] at characters
  obtain ⟨letter, rest⟩ := List.cons.inj characters
  have source : some parts.source = some other.source := by
    rw [← Source.ofLetter?_eq_some_iff.2 letter, Source.ofLetter?_eq_some_iff.2 rfl]
  have marked := congrArg splitStar rest
  rw [splitStar_append _ (proper.head?_ne _), splitStar_append _ (properToo.head?_ne _)] at marked
  obtain ⟨sanitize, behind⟩ := Prod.mk.inj marked
  have named := congrArg splitQuestion behind
  rw [proper.splitQuestion_eq, properToo.splitQuestion_eq] at named
  obtain ⟨optional, name⟩ := Prod.mk.inj named
  cases parts
  cases other
  cases source
  simp_all

theorem sourceOf_key (parts : Parts) : sourceOf parts.key.toList = some parts.source := by
  rw [toList_key]
  exact Source.ofLetter?_eq_some_iff.2 rfl

/-- A key is read as its parts. Where it asks for the principal a star counts as the beginning of
the name; anywhere else a star is rejected unless there is a sanitizer. -/
theorem compile_key (parts : Parts) (proper : IsName parts.name) (canSanitize : Bool) :
    compile canSanitize (.text parts.key) =
      if parts.source = .auth then
        .ok ⟨parts.key, some .auth, false, parts.optional,
          String.ofList (star parts.sanitize ++ parts.name)⟩
      else if parts.sanitize && !canSanitize then
        .error (.rejection (sanitizerNotSet parts.key))
      else
        .ok ⟨parts.key, some parts.source, parts.sanitize, parts.optional,
          String.ofList parts.name⟩ := by
  simp only [compile, ofText, sourceOf_key, Option.some.injEq]
  rw [toList_key, List.tail_cons]
  by_cases auth : parts.source = .auth
  · -- The question mark is looked for behind the star.
    rw [if_pos auth, if_pos auth, ← List.append_assoc,
      splitQuestion_append _ (proper.getLast?_ne _), auth]
    rfl
  · rw [if_neg auth, if_neg auth, splitStar_append _ (proper.head?_ne _)]
    simp only [proper.splitQuestion_eq]
    by_cases vain : (parts.sanitize && !canSanitize) = true
    · rw [if_pos vain, if_pos vain]
      rfl
    · rw [if_neg vain, if_neg vain]
      rfl

end Parts

end Intake.Specifier
