import Intake.Authorization
import Intake.Proofs.Lookup

/-!
# The course of an authorization

The authorizer is called and waited for at most once, and what it answers decides everything else.
`World.awaited` is its answer, `settledPrincipal` what the answer comes to, and
`Dialogue.run_authorize` the course of the authorization in these terms.
-/

namespace Intake

/-- The payload of a section of the request, null where there is none. -/
def World.sectionPayload (world : World) (s : Section) : Except Fault Payload :=
  (world.member s.name).map fun value => if value.fields?.isSome then value else .null

/-- What the authorizer is given: the headers, or an empty record in their place. -/
def givenHeaders (headers : Payload) : Payload :=
  if headers.isNull then .record [] else headers

/-- What an authorizer answers. -/
def World.awaited (world : World) (scope : Option Scope) (authorizer given : Payload) : Answer :=
  match authorizer with
  | .function f => world.collaborators.respond f scope given
  | other => .error (.notCallable other.typeName)

/-- The call of an authorizer, which takes place only if it is a function. -/
def beginEvents (scope : Option Scope) (authorizer given : Payload) : List Event :=
  match authorizer with
  | .function f => [.asked (.begin f given) scope]
  | _ => []

/-- What happens before an authorizer answers, which is given something: the headers are read, and
it is called. -/
def consultingEvents (scope : Option Scope) (authorizer given : Payload) : List Event :=
  .asked (.member Section.headers.name) scope :: beginEvents scope authorizer given

/-- The call of an authorizer and the waiting for its answer. -/
def awaitEvents (scope : Option Scope) (authorizer given : Payload) : List Event :=
  match authorizer with
  | .function f => [.asked (.begin f given) scope, .asked (.await f given) scope]
  | _ => []

/-- The authorizer has been called by the time when it answers. -/
theorem consultingEvents_prefix (scope : Option Scope) (authorizer given : Payload)
    (later : List Event) :
    consultingEvents scope authorizer given <+:
      .asked (.member Section.headers.name) scope ::
        (awaitEvents scope authorizer given ++ later) := by
  refine (List.prefix_cons_inj _).2 ?_
  cases authorizer with
  | function f => exact (List.prefix_cons_inj _).2 List.nil_prefix
  | _ => exact List.nil_prefix

/-- What an answer of the authorizer comes to. -/
def settledPrincipal (log : Log) (optional : Bool) : Answer → Except Fault Payload
  | .error e =>
    if optional then (log.wording .debug e).map fun _ => .null else .error (wrapped e)
  | .ok principal =>
    if principal.isTruthy then .ok principal
    else if optional then .ok .null
    else .error (.rejection principalMissing)

/-- The note on a fault, if the log has words for it. -/
def Log.notes (log : Log) (level : Level) (e : Fault) (note : String → Note) : List Note :=
  match log.wording level e with
  | .ok words => [note words]
  | .error _ => []

theorem Log.mem_notes {log : Log} {level : Level} {e : Fault} {note : String → Note} {n : Note} :
    n ∈ log.notes level e note ↔ ∃ words, log.wording level e = .ok words ∧ n = note words := by
  rw [notes]
  cases log.wording level e <;> simp

/-- The fault of an authorizer has to be put into words, to be noted if authorization is optional
and to be wrapped if it is required, and that raises another fault. -/
def Log.Wordless (log : Log) (optional : Bool) (e instead : Fault) : Prop :=
  if optional then log.wording .debug e = .error instead else e.message = .error instead

/-- What an answer of the authorizer fails with. -/
theorem settledPrincipal_eq_error {log : Log} {optional : Bool} {answer : Answer} {e : Fault}
    (settled : settledPrincipal log optional answer = .error e) :
    (∃ inner, e = .authFailure inner) ∨ e = .rejection principalMissing ∨
      ∃ inner, answer = .error inner ∧ log.Wordless optional inner e := by
  cases answer with
  | error inner =>
    cases optional with
    | true =>
      rw [settledPrincipal, if_pos rfl] at settled
      cases worded : log.wording .debug inner with
      | ok words => rw [worded] at settled; cases settled
      | error instead =>
        rw [worded] at settled
        cases settled
        exact .inr (.inr ⟨inner, rfl, worded⟩)
    | false =>
      rw [settledPrincipal, if_neg Bool.false_ne_true, wrapped] at settled
      cases said : inner.message with
      | ok words => rw [said] at settled; cases settled; exact .inl ⟨inner, rfl⟩
      | error instead =>
        rw [said] at settled
        cases settled
        exact .inr (.inr ⟨inner, rfl, said⟩)
  | ok principal =>
    unfold settledPrincipal at settled
    cases truthy : principal.isTruthy with
    | true => simp [truthy] at settled
    | false =>
      cases optional with
      | true => simp [truthy] at settled
      | false => simp [truthy] at settled; exact .inr (.inl settled.symm)

/-- The notes that an answer of the authorizer gives rise to. -/
def authorizationNotes (log : Log) (optional : Bool) : Answer → List Note
  | .error e => if optional then log.notes .debug e authorizationFailedNote else []
  | .ok _ => []

/-- A note as it is seen in a course. -/
def noteEvent (scope : Option Scope) (n : Note) : Event :=
  .recorded ⟨n, scope⟩

namespace Dialogue

variable (world : World) (scopes : List Scope) (log : Log)

theorem run_await (authorizer given : Payload) :
    (Action.await authorizer given).run.run world scopes =
      ⟨awaitEvents scopes.head? authorizer given, scopes,
        world.awaited scopes.head? authorizer given⟩ := by
  cases authorizer <;> rfl

/-- A report leaves its note, or raises what the log raises instead. -/
theorem run_report (level : Level) (e : Fault) (note : String → Note) :
    (Action.report log level e note).run.run world scopes =
      ⟨(log.notes level e note).map (noteEvent scopes.head?), scopes,
        (log.wording level e).map fun _ => ()⟩ := by
  unfold Action.report Log.notes
  cases log.wording level e <;> rfl

theorem run_withoutAnswer (optional : Bool) (e : Fault) :
    (withoutAnswer log optional e).run.run world scopes =
      ⟨(authorizationNotes log optional (.error e)).map (noteEvent scopes.head?), scopes,
        settledPrincipal log optional (.error e)⟩ := by
  cases optional with
  | false => rfl
  | true =>
    have reports : withoutAnswer log true e =
        (fun _ => .null) <$> Action.report log .debug e authorizationFailedNote :=
      (map_eq_pure_bind _ _).symm
    rw [reports, run_map_of_eq (run_report world scopes log .debug e authorizationFailedNote)]
    cases worded : log.wording .debug e <;> simp only [settledPrincipal, worded] <;> rfl

theorem run_withAnswer (optional : Bool) (principal : Payload) :
    (withAnswer optional principal).run.run world scopes =
      ⟨[], scopes, settledPrincipal log optional (.ok principal)⟩ := by
  cases truthy : principal.isTruthy <;> cases optional <;>
    simp [withAnswer, settledPrincipal, truthy]

/-- An authorization waits for the authorizer and settles what it answers. -/
theorem run_authorize (authorizer headers : Payload) (optional : Bool) :
    (authorize log authorizer headers optional).run.run world scopes =
      ⟨awaitEvents scopes.head? authorizer (givenHeaders headers) ++
          (authorizationNotes log optional
            (world.awaited scopes.head? authorizer (givenHeaders headers))).map
              (noteEvent scopes.head?),
        scopes,
        settledPrincipal log optional
          (world.awaited scopes.head? authorizer (givenHeaders headers))⟩ := by
  have observed := Action.run_observe (run_await world scopes authorizer (givenHeaders headers))
  unfold authorize
  apply (run_bind_of_ok observed _).trans
  cases answer : world.awaited scopes.head? authorizer (givenHeaders headers) with
  | error e => rw [run_withoutAnswer]; rfl
  | ok principal => rw [run_withAnswer _ _ log]; rfl

end Dialogue

end Intake
