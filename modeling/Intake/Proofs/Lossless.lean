import Intake.Config
import Intake.Proofs.Keys

/-!
# Nothing of a key is lost

Keys that a configuration always carries out need not keep to the grammar, and neither need any
where the grammar is switched off. Such a key may be empty, be made of markers alone, or repeat
them. Whatever it is, compiling it takes off one letter, at most one star and at most one question
mark, and no character is taken off twice.

`Restores` says what a specifier has to tell for its key to be written down from it.
`compile_is_lossless` says that every key is compiled to such a specifier, unless it asks for a
sanitizer that there is none of, and that no other key has the same parts.
-/

namespace Intake.Specifier

/-- A specifier tells all of a key: the text itself, its source, and the parts that it is written
with. A marker that is left in the name has been read in its place, or has no place there. -/
structure Restores (spec : Specifier) (key : String) : Prop where
  raw : spec.raw = key
  source : ∀ source, spec.source = some source ↔ key.toList.head? = some source.letter
  written : key.toList =
    Specifier.key (key.toList.take 1) spec.sanitize spec.fieldName.toList spec.optional
  question : spec.fieldName.toList.getLast? = some '?' → spec.optional = true
  star : spec.source ≠ some .auth → spec.fieldName.toList.head? = some '*' → spec.sanitize = true

/-- A key asks for a sanitizer that there is none of. -/
structure AsksInVain (config : Config) (key : String) : Prop where
  unprincipled : key.toList.head? ≠ some 'A'
  starred : key.toList[1]? = some '*'
  unset : config.sanitizer = .null

/-! ## Taking markers off -/

theorem splitQuestion_append_question (s : List Char) :
    (splitQuestion s).2 ++ question (splitQuestion s).1 = s := by
  unfold splitQuestion
  by_cases last : s.getLast? = some '?'
  · rw [if_pos last]
    obtain ⟨t, rfl⟩ := List.getLast?_eq_some_iff.1 last
    simp [question]
  · rw [if_neg last]
    exact List.append_nil s

theorem question_of_splitQuestion {s : List Char}
    (last : (splitQuestion s).2.getLast? = some '?') : (splitQuestion s).1 = true := by
  unfold splitQuestion at last ⊢
  by_cases question : s.getLast? = some '?'
  · rw [if_pos question]
  · rw [if_neg question] at last
    exact absurd last question

theorem splitQuestion_prefix (s : List Char) : (splitQuestion s).2 <+: s :=
  ⟨_, splitQuestion_append_question s⟩

theorem star_of_splitStar {s : List Char} (first : (splitStar s).2.head? = some '*') :
    (splitStar s).1 = true := by
  rw [splitStar_eq] at first ⊢
  by_cases star : s.head? = some '*'
  · simp [star]
  · simp [star] at first

theorem sourceOf_eq_some_iff {s : List Char} {source : Source} :
    sourceOf s = some source ↔ s.head? = some source.letter := by
  cases s with
  | nil => simp [sourceOf]
  | cons c s =>
    rw [sourceOf, Source.ofLetter?_eq_some_iff, List.head?_cons, Option.some.injEq]

theorem key_eq (letter : List Char) (sanitize : Bool) (name : List Char) (optional : Bool) :
    Specifier.key letter sanitize name optional =
      letter ++ (star sanitize ++ (name ++ question optional)) := by
  simp [Specifier.key, star, question]

/-! ## Reading any text -/

section OfText

variable {canSanitize : Bool} {key : String}

/-- What is read of a text, if anything, tells all of it. -/
theorem restores_of_ofText {spec : Specifier} (read : ofText canSanitize key = .ok spec) :
    spec.Restores key := by
  have whole : key.toList.take 1 ++ key.toList.tail = key.toList := by
    rw [← List.drop_one, List.take_append_drop]
  simp only [ofText] at read
  by_cases auth : sourceOf key.toList = some .auth
  · rw [if_pos auth] at read
    cases read
    refine ⟨rfl, fun source => sourceOf_eq_some_iff, ?_, ?_, fun other => absurd auth other⟩
    · -- No star is taken off, so one that is there belongs to the name.
      rw [key_eq, String.toList_ofList, splitQuestion_append_question]
      exact whole.symm
    · rw [String.toList_ofList]
      exact question_of_splitQuestion
  · rw [if_neg auth] at read
    by_cases refused : ((splitStar key.toList.tail).1 && !canSanitize) = true
    · rw [if_pos refused] at read
      cases read
    · rw [if_neg refused] at read
      cases read
      refine ⟨rfl, fun source => sourceOf_eq_some_iff, ?_, ?_, fun _ first => ?_⟩
      · rw [key_eq, String.toList_ofList, splitQuestion_append_question, star_append_splitStar]
        exact whole.symm
      · rw [String.toList_ofList]
        exact question_of_splitQuestion
      · -- The name begins as what stands behind the star does.
        rw [String.toList_ofList] at first
        obtain ⟨rest, begins⟩ := List.head?_eq_some_iff.1 first
        have front := splitQuestion_prefix (splitStar key.toList.tail).2
        rw [begins, List.cons_prefix_iff] at front
        obtain ⟨t, behind, -⟩ := front
        exact star_of_splitStar (behind ▸ rfl)

theorem ofText_eq_error_iff {rejection : Rejection} :
    ofText canSanitize key = .error rejection ↔
      (key.toList.head? ≠ some 'A' ∧ key.toList[1]? = some '*' ∧ canSanitize = false) ∧
        rejection = sanitizerNotSet key := by
  have principal : sourceOf key.toList = some .auth ↔ key.toList.head? = some 'A' :=
    sourceOf_eq_some_iff
  have star : (splitStar key.toList.tail).1 = true ↔ key.toList[1]? = some '*' := by
    rw [splitStar_eq, List.head?_tail, beq_iff_eq]
  simp only [ofText]
  by_cases auth : sourceOf key.toList = some .auth
  · rw [if_pos auth]
    simp [principal.1 auth]
  · rw [if_neg auth, ← star]
    by_cases refused : ((splitStar key.toList.tail).1 && !canSanitize) = true
    · rw [if_pos refused, Except.error.injEq]
      rw [Bool.and_eq_true, Bool.not_eq_true'] at refused
      exact ⟨fun same => ⟨⟨mt principal.2 auth, refused⟩, same.symm⟩, fun found => found.2.symm⟩
    · rw [if_neg refused]
      apply Iff.intro
      · intro read
        cases read
      · rintro ⟨⟨-, lacking⟩, -⟩
        rw [Bool.and_eq_true, Bool.not_eq_true'] at refused
        exact absurd lacking refused

end OfText

/-- Keys with the same parts are the same. -/
theorem Restores.key_eq {spec another : Specifier} {key other : String}
    (restores : spec.Restores key) (restoresToo : another.Restores other)
    (letter : key.toList.take 1 = other.toList.take 1) (sanitize : spec.sanitize = another.sanitize)
    (optional : spec.optional = another.optional) (name : spec.fieldName = another.fieldName) :
    key = other := by
  rw [← String.toList_inj, restores.written, restoresToo.written, letter, sanitize, optional, name]

theorem canSanitize_eq_false_iff {config : Config} :
    config.canSanitize = false ↔ config.sanitizer = .null := by
  rw [Config.canSanitize, Bool.not_eq_false']
  cases config.sanitizer <;> simp [Payload.isNull]

/-- Every key is compiled to a specifier that tells all of it, unless it asks for a sanitizer that
there is none of; then it is rejected for this and nothing else. No two keys are compiled to the
same parts. -/
theorem compile_is_lossless (config : Config) (key : String) :
    (AsksInVain config key →
        compile config.canSanitize (.text key) =
          .error (.rejection ⟨.configuration "sanitizeFunction_not_set",
            ⟨some "compile_specifier", some key, none⟩⟩)) ∧
      (¬ AsksInVain config key →
        ∃ spec, compile config.canSanitize (.text key) = .ok spec ∧ spec.Restores key) ∧
      ∀ (setting : Config) (other : String) (spec another : Specifier),
        compile config.canSanitize (.text key) = .ok spec →
        compile setting.canSanitize (.text other) = .ok another →
        key.toList.take 1 = other.toList.take 1 → spec.sanitize = another.sanitize →
        spec.optional = another.optional → spec.fieldName = another.fieldName → key = other := by
  refine ⟨fun vain => ?_, fun fair => ?_, ?_⟩
  · have rejected := ofText_eq_error_iff.2
      ⟨⟨vain.unprincipled, vain.starred, canSanitize_eq_false_iff.2 vain.unset⟩, rfl⟩
    exact compile_text_eq_error_iff.2 ⟨_, rejected, rfl⟩
  · cases read : compile config.canSanitize (.text key) with
    | ok spec => exact ⟨spec, rfl, restores_of_ofText (compile_text_eq_ok_iff.1 read)⟩
    | error e =>
      obtain ⟨r, rejected, -⟩ := compile_text_eq_error_iff.1 read
      obtain ⟨⟨unprincipled, starred, unset⟩, -⟩ := ofText_eq_error_iff.1 rejected
      exact absurd ⟨unprincipled, starred, canSanitize_eq_false_iff.1 unset⟩ fair
  · intro setting other spec another read readToo
    rw [compile_text_eq_ok_iff] at read readToo
    exact (restores_of_ofText read).key_eq (restores_of_ofText readToo)

/-- Markers alone make a key as well, and it depends on the first of them whether a star asks for a
sanitizer. -/
theorem compile_is_lossless_sample :
    AsksInVain (.default false) "?*?" ∧ ¬ AsksInVain (.default false) "A*?" ∧
      compile false (.text "?*?") =
        .error (.rejection ⟨.configuration "sanitizeFunction_not_set",
          ⟨some "compile_specifier", some "?*?", none⟩⟩) ∧
      ∃ spec, compile false (.text "A*?") = .ok spec ∧ spec.Restores "A*?" := by
  have vain : AsksInVain (.default false) "?*?" := ⟨by decide, by decide, rfl⟩
  have fair : ¬ AsksInVain (.default false) "A*?" := fun vain => vain.unprincipled (by decide)
  obtain ⟨rejected, -⟩ := compile_is_lossless (.default false) "?*?"
  obtain ⟨-, read, -⟩ := compile_is_lossless (.default false) "A*?"
  exact ⟨vain, fair, rejected vain, read fair⟩

end Intake.Specifier
