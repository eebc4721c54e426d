import Intake.ErrorCode
import Mathlib.Data.List.Infix

/-!
# Codes can be decoded

A `FailureCode` is what a failure is reported as, ahead of being written down: one of the fixed
codes, a key that the grammar refuses, or an error of a field. Each is written down in a form of its
own, as an opening and the text that it carries (`FailureCode.text_eq`).

No opening begins with another one (`CodeForm.eq_of_isPrefix`). So a text shows by its beginning
which form it has been written in, and by the rest what it carries, whatever that contains:
`FailureCode.ofText?` reads it, and `FailureCode.ofText?_eq_some_iff` says that it reads exactly
what has been written down. `FieldError.ofCode?` does the same for the errors of fields alone.
-/

namespace Intake

/-- What a failure is reported as. -/
inductive FailureCode where
  | fixed (code : ErrorCode)
  | grammar (key : String)
  | field (error : FieldError)
  deriving DecidableEq, Repr

namespace FailureCode

/-- A code as it is written down. -/
def text : FailureCode → String
  | .fixed code => code.text
  | .grammar key => grammarCode key
  | .field error => error.code

end FailureCode

/-! ## Forms -/

/-- The forms that codes are written down in. -/
inductive CodeForm where
  | fixed (code : ErrorCode)
  | grammar
  | unknownSource
  | missing (s : Section)
  deriving DecidableEq, Repr

namespace CodeForm

/-- The fixed codes. -/
def fixedCodes : List ErrorCode :=
  [.specifiersNotListed, .noRequest, .nothingRequested, .sanitizerNotSet, .authorizerNotSet,
    .immediateAuthorization, .fieldErrors, .noPrincipal]

/-- All forms. -/
def all : List CodeForm :=
  .grammar :: .unknownSource :: Section.all.map missing ++ fixedCodes.map fixed

theorem mem_all (form : CodeForm) : form ∈ all := by
  cases form with
  | fixed code => cases code <;> decide
  | missing s => cases s <;> decide
  | _ => decide

/-- What the codes of a form begin with. -/
def opening : CodeForm → String
  | .fixed code => code.text
  | .grammar => "regex_error_"
  | .unknownSource => "incorrectKey_"
  | .missing s => s.name ++ "_missing_"

/-- The code of a form that carries a text. The fixed ones carry none. -/
def fill : CodeForm → String → Option FailureCode
  | .fixed code, rest => if rest = "" then some (.fixed code) else none
  | .grammar, rest => some (.grammar rest)
  | .unknownSource, rest => some (.field (.unknownSource rest))
  | .missing s, rest => some (.field (.missing s rest))

/-- No opening begins with another one. -/
theorem eq_of_isPrefix {form other : CodeForm}
    (begins : form.opening.toList <+: other.opening.toList) : form = other := by
  have free : ∀ form ∈ all, ∀ other ∈ all,
      form.opening.toList <+: other.opening.toList → form = other := by
    decide
  exact free form form.mem_all other other.mem_all begins

/-- A text begins with one opening at most. -/
theorem eq_of_append_eq {form other : CodeForm} {rest otherRest : String}
    (same : form.opening ++ rest = other.opening ++ otherRest) :
    form = other ∧ rest = otherRest := by
  have letters : form.opening.toList ++ rest.toList =
      other.opening.toList ++ otherRest.toList := by
    rw [← String.toList_append, same, String.toList_append]
  have begins : form.opening.toList <+: form.opening.toList ++ rest.toList :=
    List.prefix_append _ _
  have beginsToo : other.opening.toList <+: form.opening.toList ++ rest.toList :=
    letters ▸ List.prefix_append _ _
  have forms : form = other := by
    rcases List.prefix_or_prefix_of_prefix begins beginsToo with shorter | longer
    · exact eq_of_isPrefix shorter
    · exact (eq_of_isPrefix longer).symm
  subst forms
  exact ⟨rfl, String.toList_inj.1 (List.append_cancel_left letters)⟩

end CodeForm

/-! ## Codes -/

namespace FailureCode

/-- The form that a code is written down in. -/
def form : FailureCode → CodeForm
  | .fixed code => .fixed code
  | .grammar _ => .grammar
  | .field (.unknownSource _) => .unknownSource
  | .field (.missing s _) => .missing s

/-- The text that a code carries. -/
def carried : FailureCode → String
  | .fixed _ => ""
  | .grammar key => key
  | .field (.unknownSource key) => key
  | .field (.missing _ name) => name

theorem text_eq (code : FailureCode) : code.text = code.form.opening ++ code.carried := by
  rcases code with code | key | ⟨key⟩ | ⟨s, name⟩
  · exact String.append_empty.symm
  · rfl
  · rfl
  · rfl

/-- The codes of a form are told apart by what they carry. -/
theorem fill_eq_some_iff {form : CodeForm} {rest : String} {code : FailureCode} :
    form.fill rest = some code ↔ form = code.form ∧ rest = code.carried := by
  apply Iff.intro
  · intro filled
    cases form with
    | fixed fixed =>
      by_cases nothing : rest = ""
      · simp only [CodeForm.fill, if_pos nothing, Option.some.injEq] at filled
        subst filled
        exact ⟨rfl, nothing⟩
      · simp [CodeForm.fill, nothing] at filled
    | _ => cases filled; exact ⟨rfl, rfl⟩
  · rintro ⟨rfl, rfl⟩
    rcases code with code | key | ⟨key⟩ | ⟨s, name⟩ <;> rfl

/-- No two codes are written down alike. -/
theorem text_injective {code other : FailureCode} (same : code.text = other.text) :
    code = other := by
  rw [text_eq, text_eq] at same
  obtain ⟨forms, texts⟩ := CodeForm.eq_of_append_eq same
  exact Option.some.inj ((fill_eq_some_iff.2 ⟨rfl, rfl⟩).symm.trans
    (fill_eq_some_iff.2 ⟨forms, texts⟩))

/-- Reads a text in a form. -/
def readAs (text : String) (form : CodeForm) : Option FailureCode :=
  (text.toList.dropPrefix? form.opening.toList).bind fun rest => form.fill (String.ofList rest)

theorem readAs_eq_some_iff {text : String} {form : CodeForm} {code : FailureCode} :
    readAs text form = some code ↔ code.text = text ∧ form = code.form := by
  simp only [readAs, Option.bind_eq_some_iff, List.dropPrefix?_eq_some_iff, beq_iff_eq,
    fill_eq_some_iff]
  apply Iff.intro
  · rintro ⟨rest, ⟨_, split, rfl⟩, rfl, carried⟩
    refine ⟨?_, rfl⟩
    rw [← String.toList_inj, text_eq, String.toList_append, ← carried, String.toList_ofList, split]
  · rintro ⟨rfl, rfl⟩
    refine ⟨code.carried.toList, ⟨_, ?_, rfl⟩, rfl, String.ofList_toList⟩
    rw [text_eq, String.toList_append]

/-- Reads a text as a code, if it is one. -/
def ofText? (text : String) : Option FailureCode :=
  CodeForm.all.findSome? (readAs text)

/-- What can be read as a code is what has been written down as it. -/
theorem ofText?_eq_some_iff {text : String} {code : FailureCode} :
    ofText? text = some code ↔ code.text = text := by
  apply Iff.intro
  · intro read
    obtain ⟨form, -, found⟩ := List.exists_of_findSome?_eq_some read
    exact (readAs_eq_some_iff.1 found).1
  · intro written
    -- Some form reads the text, and whichever does reads the one code that is written so.
    have found : (ofText? text).isSome = true := by
      rw [ofText?, List.findSome?_isSome_iff]
      exact ⟨code.form, code.form.mem_all,
        Option.isSome_of_eq_some (readAs_eq_some_iff.2 ⟨written, rfl⟩)⟩
    obtain ⟨other, read⟩ := Option.isSome_iff_exists.1 found
    obtain ⟨form, -, readToo⟩ := List.exists_of_findSome?_eq_some read
    have same : other = code := text_injective ((readAs_eq_some_iff.1 readToo).1.trans written.symm)
    rw [read, same]

end FailureCode

namespace FieldError

/-- Reads a text as the error of a field, if it is the code of one. -/
def ofCode? (text : String) : Option FieldError :=
  match FailureCode.ofText? text with
  | some (.field error) => some error
  | _ => none

theorem ofCode?_eq_some_iff {text : String} {error : FieldError} :
    ofCode? text = some error ↔ error.code = text := by
  have written : FailureCode.ofText? text = some (.field error) ↔ error.code = text :=
    FailureCode.ofText?_eq_some_iff
  rw [← written, ofCode?]
  cases FailureCode.ofText? text with
  | none => simp
  | some code => cases code <;> simp

end FieldError

end Intake
