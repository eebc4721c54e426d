import Intake.Lookup
import Intake.Proofs.Course

/-!
# What looking up a field comes to

A lookup asks for a section of the request and, if the value that it finds there is to be cleaned,
calls the sanitizer. In a world that answers both, it ends in a definite way, and the only thing
that it depends on in the request is `World.entry`: whether the section is there, and what it has
under the one name. `Dialogue.run_lookUp` is the course of a lookup; `World.fieldValue` is what it
ends with, and `World.fieldCalls` the calls on the way.
-/

namespace Intake

/-! ## The parts of a lookup -/

/-- What a section of the request has under a name. Where there is no section there is nothing to
ask; where reading the section is a fault, so is this. -/
def World.entry (world : World) (s : Section) (name : String) :
    Except Fault (Option (Option Payload)) :=
  (world.member s.name).map fun value => value.fields?.map (Fields.get? · name)

/-- The function that cleaning a value calls, if it calls one. -/
def Config.cleaner? (config : Config) (sanitize : Bool) (value : Payload) : Option FunctionRef :=
  if sanitize && !config.leavesAlone value then
    match config.sanitizer with
    | .function f => some f
    | _ => none
  else none

/-- What cleaning a value comes to, in a scope. -/
def World.cleaned (world : World) (scope : Option Scope) (config : Config) (sanitize : Bool)
    (value : Payload) : Except Fault Payload :=
  if sanitize && !config.leavesAlone value then
    match config.sanitizer with
    | .function f => world.answer scope (.call f value)
    | other => .error (.notCallable other.typeName)
  else .ok value

/-- What looking up a field comes to: a value, none if it is missing, or a fault. -/
def World.fieldValue (world : World) (scope : Option Scope) (config : Config) (s : Section)
    (name : String) (sanitize optional : Bool) : Except Fault (Option Payload) :=
  match world.entry s name with
  | .error e => .error e
  | .ok none => .ok none
  | .ok (some none) => .ok (if optional then some .null else none)
  | .ok (some (some value)) => some <$> world.cleaned scope config sanitize value

/-- The calls that looking up a field makes. -/
def World.fieldCalls (world : World) (config : Config) (s : Section) (name : String)
    (sanitize : Bool) : List (FunctionRef × Payload) :=
  match world.entry s name with
  | .ok (some (some value)) => ((config.cleaner? sanitize value).map (·, value)).toList
  | _ => []

/-- A call as it is seen in a course. -/
def callEvent (scope : Option Scope) (call : FunctionRef × Payload) : Event :=
  .asked (.call call.1 call.2) scope

/-! ## Its course -/

namespace Dialogue

variable (world : World) (scopes : List Scope) (config : Config)

theorem run_readSection (s : Section) :
    (readSection (.field s)).run.run world scopes =
      ⟨[.asked (.member s.name) scopes.head?], scopes,
        (world.member s.name).map fun value =>
          if value.fields?.isSome then value else .null⟩ := by
  have asked := Action.run_query world scopes (.member s.name)
  cases read : world.member s.name with
  | error e =>
    simp only [World.answer, read] at asked
    exact run_bind_of_error asked _
  | ok value =>
    simp only [World.answer, read] at asked
    rw [readSection, Source.name, run_bind_of_ok asked, run_pure]
    rfl

theorem run_cleanValue (sanitize : Bool) (value : Payload) :
    (cleanValue config sanitize value).run.run world scopes =
      ⟨((config.cleaner? sanitize value).map (·, value)).toList.map (callEvent scopes.head?),
        scopes, world.cleaned scopes.head? config sanitize value⟩ := by
  unfold cleanValue Config.cleaner? World.cleaned
  by_cases marked : (sanitize && !config.leavesAlone value) = true
  · rw [if_pos marked, if_pos marked, if_pos marked]
    cases config.sanitizer <;> rfl
  · rw [if_neg marked, if_neg marked, if_neg marked]
    rfl

/-- An entry that is there is cleaned, and one that is not is found only if it is optional. -/
theorem run_cleanEntry (sanitize optional : Bool) (entry : Option Payload) :
    (cleanEntry config sanitize optional entry).run.run world scopes =
      ⟨(entry.bind fun value => (config.cleaner? sanitize value).map (·, value)).toList.map
          (callEvent scopes.head?),
        scopes,
        match entry with
        | none => .ok (if optional then some .null else none)
        | some value => some <$> world.cleaned scopes.head? config sanitize value⟩ := by
  cases entry with
  | none => rfl
  | some value => exact run_map_of_eq (run_cleanValue world scopes config sanitize value) some

/-- A lookup asks for its section, and then calls the sanitizer if there is a value to be cleaned;
it ends with what the entry comes to, and it leaves the scopes alone. -/
theorem run_lookUp (s : Section) (spec : Specifier) :
    (lookUp config (.field s) spec).run.run world scopes =
      ⟨.asked (.member s.name) scopes.head? ::
          (world.fieldCalls config s spec.lookupName spec.sanitize).map (callEvent scopes.head?),
        scopes,
        world.fieldValue scopes.head? config s spec.lookupName spec.sanitize spec.optional⟩ := by
  have asked := run_readSection world scopes s
  unfold World.fieldCalls World.fieldValue World.entry
  cases read : world.member s.name with
  | error e =>
    rw [read] at asked
    exact run_bind_of_error asked _
  | ok value =>
    rw [read] at asked
    rw [lookUp, run_bind_of_ok asked]
    cases stored : value.fields? with
    | none => simp [Except.map, stored, lookUpField, Payload.isNull]
    | some fields =>
      have present : value.isNull = false := by
        cases value with
        | null => cases stored
        | _ => rfl
      have entry := Payload.get?_of_fields stored spec.lookupName
      simp only [Except.map, stored, Option.isSome_some, if_true, lookUpField, present,
        Bool.false_eq_true, if_false, entry, Option.map_some]
      rw [run_bind_of_ok (run_mk_pure _), run_cleanEntry]
      cases fields.get? spec.lookupName <;> rfl

end Dialogue

end Intake
