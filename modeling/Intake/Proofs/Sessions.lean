import Intake.Proofs.Parse
import Intake.Proofs.Turns
import Intake.Session

/-!
# Sessions step by step

`Session.after` is what a session has become after some steps, and `Session.getElem?_run` says that
a step in the middle of a run is carried out there. What a step can change is told once, in
`Session.next_step`: a creation may put a parser under its id, scopes are opened and closed, and a
variable or the clock is set. A parse changes nothing, in whatever way it is called for and whatever
becomes of it.

`Host.parseScheduled_eq` says that a parse that is put among other jobs, and then waited for, does
what a parse that waits does.
-/

namespace Intake

/-! ## A job that is waited for -/

namespace Crew

variable {α : Type}

/-- A job on its own does in each of its turns what it does in a turn. -/
theorem run_alone (world : World) (job : Job α) (count : Nat) :
    Crew.run [(world, job)] (roundRobinOrder 1 count) =
      ((job.turns world count).events.map fun event => (0, event),
        [(world, (job.turns world count).job)]) := by
  induction count generalizing job with
  | zero => rfl
  | succ count ih =>
    have order : roundRobinOrder 1 (count + 1) = 0 :: roundRobinOrder 1 count := by
      simp [roundRobinOrder, List.replicate_succ]
    have first : Crew.turn [(world, job)] 0 =
        ((job.turn world).events.map fun event => (0, event),
          [(world, (job.turn world).job)]) := rfl
    rw [order, run, first]
    dsimp only
    rw [ih, Job.turns, Turn.after_events, Turn.after_job, List.map_append]

theorem roundRobin_alone (world : World) (job : Job α) :
    (Crew.roundRobin [(world, job)]).1 = (job.ahead world).map fun event => (0, event) := by
  have rounds : roundsLeft [(world, job)] = job.turnsLeft world := Nat.max_zero _
  rw [roundRobin, rounds, List.length_singleton, run_alone]
  dsimp only
  rw [Job.turns_of_enough world (Nat.le_refl _)]

end Crew

/-- A parse that is put among other jobs, and then waited for, does what a parse that waits does. -/
theorem Host.parseScheduled_eq (host : Host) (scopes : List Scope) (config : Config) (call : Call)
    (callback : Option Callback) :
    host.parseScheduled scopes config call callback =
      ⟨[], (host.parseWaiting scopes config call callback).events,
        (host.parseWaiting scopes config call callback).value⟩ := by
  have waits := Crew.roundRobin_alone (host.world call.request callback)
    (.ready scopes (host.dialogue config call callback))
  unfold parseScheduled
  simp only [schedule, waits, List.map_map]
  exact congrArg (Scheduled.mk [] · _) (List.map_id _)

namespace Session

variable (collaborators : Collaborators) (session : Session)

/-! ## Steps one after the other -/

/-- What a session has become after some steps. -/
def after (steps : List Step) : Session :=
  steps.foldl (fun session step => (session.step collaborators step).next) session

@[simp] theorem after_nil : session.after collaborators [] = session := rfl

theorem after_cons (step : Step) (rest : List Step) :
    session.after collaborators (step :: rest) =
      (session.step collaborators step).next.after collaborators rest := rfl

theorem after_append (earlier later : List Step) :
    session.after collaborators (earlier ++ later) =
      (session.after collaborators earlier).after collaborators later :=
  List.foldl_append

theorem after_concat (steps : List Step) (step : Step) :
    session.after collaborators (steps ++ [step]) =
      ((session.after collaborators steps).step collaborators step).next := by
  rw [after_append]
  rfl

/-- A step in the middle of a run is carried out in the session that those before it have left. -/
theorem getElem?_run (past future : List Step) (step : Step) :
    (session.run collaborators (past ++ step :: future))[past.length]? =
      some ((session.after collaborators past).step collaborators step) := by
  induction past generalizing session with
  | nil => rfl
  | cons first past ih => exact ih (session.step collaborators first).next

/-! ## One step -/

/-- The parsers after a step. Only a creation that succeeds changes one. -/
def Step.parsers (environment : Environment) (parsers : Fields Config) : Step → Fields Config
  | .create id settings =>
    match settings.buildParser environment with
    | .ok (config, _) => parsers.put id config
    | .error _ => parsers
  | _ => parsers

/-- The scopes that are open after a step. -/
def Step.scopes (clock : Clock) (scopes : List Scope) : Step → List Scope
  | .openScope id operation => .opening clock id operation :: scopes
  | .closeScope => scopes.tail
  | _ => scopes

/-- The environment after a step. -/
def Step.environment (environment : Environment) : Step → Environment
  | .assignVariable name value => environment.assign name value
  | _ => environment

/-- The clock after a step. -/
def Step.clock (clock : Clock) : Step → Clock
  | .setClock later => later
  | _ => clock

theorem scopes_enter (host : Host) (scopes : List Scope) (config : Config) (call : Call)
    (entry : Entry) : (enter host scopes config call entry).scopes = scopes := by
  cases entry with
  | immediate => rw [enter, Host.parseNow_eq]
  | waiting callback => rw [enter, Host.parseWaiting_eq]
  | scheduled callback => rfl

/-- A parse that is carried out. -/
theorem step_parse_of_ok {id : String} {config : Config} (entry : Entry) (call : Call)
    (found : session.parser id = .ok config) :
    session.step collaborators (.parse id entry (.ok call)) =
      let course := enter (session.host collaborators) session.scopes config call entry
      ⟨course.events, course.value, session⟩ := by
  have carried : session.step collaborators (.parse id entry (.ok call)) =
      let course := enter (session.host collaborators) session.scopes config call entry
      ⟨course.events, course.value, { session with scopes := course.scopes }⟩ := by
    rw [step, found]
    rfl
  rw [carried]
  dsimp only
  rw [scopes_enter]

/-- A parse leaves the session as it is. -/
theorem next_parse (id : String) (entry : Entry) (call : Except Fault Call) :
    (session.step collaborators (.parse id entry call)).next = session := by
  cases found : session.parser id with
  | error e => rw [step, found]; rfl
  | ok config =>
    cases call with
    | error e => rw [step, found]; rfl
    | ok call => rw [session.step_parse_of_ok collaborators entry call found]

/-- What a step can change. -/
theorem next_step (step : Step) :
    (session.step collaborators step).next =
      ⟨step.parsers session.environment session.parsers,
        step.scopes session.clock session.scopes,
        step.environment session.environment, step.clock session.clock⟩ := by
  cases step with
  | create id settings =>
    rw [Session.step, Step.parsers]
    cases settings.buildParser session.environment <;> rfl
  | showConfig id =>
    rw [Session.step]
    cases session.parser id <;> rfl
  | assignField id field =>
    rw [Session.step]
    cases session.parser id <;> rfl
  | parse id entry call => exact session.next_parse collaborators id entry call
  | _ => rfl

end Session

end Intake
