import Intake.Gathering
import Intake.Proofs.Lookup
import Mathlib.Data.List.Induction

/-!
# Verdicts on the specifiers of a list

In a world that answers its queries, each specifier of a list comes to a verdict of its own: it
stops the list, it asks for the principal, it stores a value, or it is wrong in a way that is only
noted down. The verdict does not depend on what has been gathered before. Visiting a specifier
settles its verdict (`Dialogue.run_visit`), so that gathering a list is settling the verdicts one
after the other (`Dialogue.run_gather`), with the events of the specifiers up to the first that
stops the list.

`Verdict.outcome` says what a list of verdicts comes to without going through it: the first verdict
that stops decides, and if none does, values, errors and demands are each read off on their own.
`Verdict.foldlM_settle` says that settling them one after the other comes to the same.
-/

namespace Intake

/-! ## Verdicts -/

/-- What a specifier of a list comes to. -/
inductive Verdict where
  | stopped (stop : Stop)
  | demanded (optional : Bool)
  | stored (s : Section) (name : String) (value : Payload)
  | refused (error : FieldError)

namespace Verdict

/-- Why the list is stopped, if it is. -/
def stop? : Verdict → Option Stop
  | .stopped stop => some stop
  | _ => none

/-- Whether a demand of the principal is optional, if there is one. -/
def demand? : Verdict → Option Bool
  | .demanded optional => some optional
  | _ => none

/-- The error that is noted down, if there is one. -/
def error? : Verdict → Option FieldError
  | .refused error => some error
  | _ => none

/-- The name and the value that are stored in a section, if they are. -/
def stored? (s : Section) : Verdict → Option (String × Payload)
  | .stored other name value => if other = s then some (name, value) else none
  | _ => none

/-- The sections that verdicts store their values in. -/
def extraction (verdicts : List Verdict) : Extraction where
  body := Fields.ofPairs (verdicts.filterMap (stored? .body))
  params := Fields.ofPairs (verdicts.filterMap (stored? .params))
  headers := Fields.ofPairs (verdicts.filterMap (stored? .headers))
  query := Fields.ofPairs (verdicts.filterMap (stored? .query))
  authorization := .null

/-- The one demand that several come to, if there is any. -/
def demandOf : List Bool → Option Demand
  | [] => none
  | demands => some ⟨demands.any id⟩

/-- What verdicts come to when none of them stops the list. -/
def gathered (verdicts : List Verdict) : Gathered :=
  ⟨extraction verdicts, verdicts.filterMap error?, demandOf (verdicts.filterMap demand?)⟩

/-- What a list of verdicts comes to. -/
def outcome (verdicts : List Verdict) : Except Stop Gathered :=
  match verdicts.findSome? stop? with
  | some stop => .error stop
  | none => .ok (gathered verdicts)

theorem outcome_eq_ok_iff {verdicts : List Verdict} {result : Gathered} :
    outcome verdicts = .ok result ↔
      (∀ verdict ∈ verdicts, verdict.stop? = none) ∧ gathered verdicts = result := by
  unfold outcome
  cases stops : verdicts.findSome? stop? with
  | some stop =>
    obtain ⟨verdict, found, stopped⟩ := List.exists_of_findSome?_eq_some stops
    refine ⟨nofun, fun ⟨free, _⟩ => ?_⟩
    rw [free verdict found] at stopped
    cases stopped
  | none =>
    have free : ∀ verdict ∈ verdicts, verdict.stop? = none := List.findSome?_eq_none_iff.1 stops
    apply Iff.intro
    · intro same
      cases same
      exact ⟨free, rfl⟩
    · intro found
      rcases found with ⟨-, rfl⟩
      rfl

/-- The first verdict that stops a list decides why it is stopped. -/
theorem outcome_eq_error_iff {verdicts : List Verdict} {stop : Stop} :
    outcome verdicts = .error stop ↔ verdicts.findSome? stop? = some stop := by
  unfold outcome
  cases verdicts.findSome? stop? <;> simp

end Verdict

/-- What has been gathered, and then a verdict. -/
def Gathered.settle (gathered : Gathered) : Verdict → Except Stop Gathered
  | .stopped stop => .error stop
  | .demanded optional => .ok { gathered with demand := some (.join optional gathered.demand) }
  | .stored s name value => .ok { gathered with result := gathered.result.store s name value }
  | .refused error => .ok { gathered with errors := gathered.errors ++ [error] }

/-! ## Verdicts one after the other -/

namespace Verdict

theorem demandOf_concat (demands : List Bool) (optional : Bool) :
    demandOf (demands ++ [optional]) = some (.join optional (demandOf demands)) := by
  cases demands with
  | nil => simp [demandOf, Demand.join]
  | cons first rest =>
    have last : (first || (rest ++ [optional]).any id) =
        (optional || (first || rest.any id)) := by
      rw [List.any_append, ← Bool.or_assoc, Bool.or_comm]
      simp
    simpa [demandOf, Demand.join] using last

theorem extraction_concat_stored (verdicts : List Verdict) (s : Section) (name : String)
    (value : Payload) :
    extraction (verdicts ++ [.stored s name value]) =
      (extraction verdicts).store s name value := by
  cases s <;>
    simp [extraction, stored?, Extraction.store, Extraction.set, Extraction.get, Fields.ofPairs]

theorem extraction_concat_other (verdicts : List Verdict) {verdict : Verdict}
    (elsewhere : ∀ s, stored? s verdict = none) :
    extraction (verdicts ++ [verdict]) = extraction verdicts := by
  simp [extraction, elsewhere]

/-- One more verdict settles what has been gathered from those before it. -/
theorem settle_gathered (verdicts : List Verdict) (verdict : Verdict) :
    (gathered verdicts).settle verdict =
      match verdict.stop? with
      | some stop => .error stop
      | none => .ok (gathered (verdicts ++ [verdict])) := by
  cases verdict with
  | stopped stop => rfl
  | demanded optional =>
    have kept : extraction (verdicts ++ [.demanded optional]) = extraction verdicts :=
      extraction_concat_other verdicts fun _ => rfl
    simp [Gathered.settle, gathered, stop?, kept, error?, demand?, demandOf_concat]
  | stored s name value =>
    have put := extraction_concat_stored verdicts s name value
    simp [Gathered.settle, gathered, stop?, put, List.filterMap_cons, error?, demand?]
  | refused error =>
    have kept : extraction (verdicts ++ [.refused error]) = extraction verdicts :=
      extraction_concat_other verdicts fun _ => rfl
    simp [Gathered.settle, gathered, stop?, kept, List.filterMap_cons, error?, demand?]

/-- Settling verdicts one after the other comes to what can be read off them. -/
theorem foldlM_settle (verdicts : List Verdict) :
    verdicts.foldlM Gathered.settle Gathered.empty = outcome verdicts := by
  -- The last verdict is settled on what the others come to.
  induction verdicts using List.reverseRecOn with
  | nil => rfl
  | append_singleton verdicts verdict ih =>
    rw [List.foldlM_append, ih, outcome, outcome, List.findSome?_append]
    cases earlier : verdicts.findSome? stop? with
    | some stop => rfl
    | none =>
      have single : [verdict].foldlM Gathered.settle (gathered verdicts) =
          (gathered verdicts).settle verdict := by
        simp
      refine single.trans ((settle_gathered verdicts verdict).trans ?_)
      cases stops : verdict.stop? <;> simp [stops]

end Verdict

end Intake
