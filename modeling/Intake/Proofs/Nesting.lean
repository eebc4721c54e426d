import Intake.Proofs.Sessions
import Intake.Proofs.Shelter

/-!
# Scopes are nested

Steps are balanced if every scope that they open is closed again (`Session.Balanced`). Balanced
steps leave the scopes of a session as they were (`Session.scopes_after_balanced`), so that a scope
that is current is the one that was opened ahead of balanced steps
(`Session.current_after_eq_some_iff`), and closing it brings back what was current before.

Parses do not come into that: they leave the session as it is. What happens in a parse happens in
the scope that the parse has opened for itself, and the callback is told outside.
`scopes_are_nested` puts both together.
-/

namespace Intake.Session

/-- Whether a step opens or closes a scope. -/
def Step.movesScopes : Step → Bool
  | .openScope _ _ => true
  | .closeScope => true
  | _ => false

/-- Steps that close every scope that they open, and no other. -/
inductive Balanced : List Step → Prop
  | nil : Balanced []
  | cons {step : Step} {rest : List Step} (stays : step.movesScopes = false)
      (later : Balanced rest) : Balanced (step :: rest)
  | enclosed {id operation : Option String} {inside rest : List Step}
      (closed : Balanced inside) (later : Balanced rest) :
      Balanced (.openScope id operation :: (inside ++ .closeScope :: rest))

theorem Balanced.append {first second : List Step} (ahead : Balanced first)
    (behind : Balanced second) : Balanced (first ++ second) := by
  induction ahead with
  | nil => exact behind
  | cons stays _ ih => exact .cons stays ih
  | enclosed closed _ _ ih =>
    rw [List.cons_append, List.append_assoc, List.cons_append]
    exact .enclosed closed ih

variable (collaborators : Collaborators) (session : Session)

theorem scopes_step (step : Step) :
    (session.step collaborators step).next.scopes = step.scopes session.clock session.scopes := by
  rw [next_step]

theorem scopes_of_stays {step : Step} (stays : step.movesScopes = false) (clock : Clock)
    (scopes : List Scope) : step.scopes clock scopes = scopes := by
  cases step with
  | openScope id operation => cases stays
  | closeScope => cases stays
  | _ => rfl

/-- Balanced steps leave the scopes as they were. -/
theorem scopes_after_balanced {steps : List Step} (balanced : Balanced steps) :
    (session.after collaborators steps).scopes = session.scopes := by
  induction balanced generalizing session with
  | nil => rfl
  | cons stays _ ih => rw [after_cons, ih, scopes_step, scopes_of_stays stays]
  | enclosed _ _ ih later =>
    rw [after_cons, after_append, after_cons, later, scopes_step]
    dsimp only [Step.scopes]
    rw [ih, scopes_step]
    rfl

/-- Closing a scope brings back the scopes from before it was opened. -/
theorem scopes_after_closed {inside : List Step} (closed : Balanced inside)
    (id operation : Option String) :
    (session.after collaborators (.openScope id operation :: (inside ++ [.closeScope]))).scopes =
      session.scopes :=
  scopes_after_balanced collaborators session (.enclosed closed .nil)

/-- What was opened ahead of balanced steps is the innermost scope. -/
theorem scopes_after_opened (before : List Step) (id operation : Option String)
    {inside : List Step} (closed : Balanced inside) :
    (session.after collaborators (before ++ .openScope id operation :: inside)).scopes =
      .opening (session.after collaborators before).clock id operation ::
        (session.after collaborators before).scopes := by
  rw [after_append, after_cons, scopes_after_balanced collaborators _ closed, scopes_step]
  rfl

/-- The innermost scope was opened ahead of balanced steps, and the others were open then. -/
theorem exists_opening {environment : Environment} {clock : Clock} {steps : List Step}
    {scope : Scope} {others : List Scope}
    (opened : ((initial environment clock).after collaborators steps).scopes = scope :: others) :
    ∃ before id operation inside, steps = before ++ .openScope id operation :: inside ∧
      Balanced inside ∧
      scope = .opening ((initial environment clock).after collaborators before).clock id
        operation ∧
      ((initial environment clock).after collaborators before).scopes = others := by
  -- A step that closes the innermost scope uncovers one that was opened before it: the induction is
  -- on how many steps there are, to be taken up again ahead of where the closed scope was opened.
  induction count : steps.length using Nat.strongRecOn generalizing steps scope others with
  | ind count ih =>
    rcases List.eq_nil_or_concat steps with rfl | ⟨earlier, last, rfl⟩
    · cases opened
    · rw [List.concat_eq_append] at opened count ⊢
      rw [List.length_append, List.length_singleton] at count
      rw [after_concat, scopes_step] at opened
      by_cases stays : last.movesScopes = false
      · rw [scopes_of_stays stays] at opened
        obtain ⟨before, id, operation, inside, rfl, closed, first, below⟩ :=
          ih earlier.length (by omega) opened rfl
        refine ⟨before, id, operation, inside ++ [last], by simp, ?_, first, below⟩
        exact closed.append (.cons stays .nil)
      · cases last with
        | openScope id operation =>
          obtain ⟨rfl, rfl⟩ := List.cons.inj opened
          exact ⟨earlier, id, operation, [], rfl, .nil, rfl, rfl⟩
        | closeScope =>
          cases covered : ((initial environment clock).after collaborators earlier).scopes with
          | nil => rw [covered] at opened; cases opened
          | cons top rest =>
            rw [covered] at opened
            have rest : rest = scope :: others := opened
            subst rest
            obtain ⟨middle, id, operation, inside, rfl, closed, -, uncovered⟩ :=
              ih earlier.length (by omega) covered rfl
            rw [List.length_append, List.length_cons] at count
            obtain ⟨before, id', operation', inside', rfl, closed', first, below⟩ :=
              ih middle.length (by omega) uncovered rfl
            refine ⟨before, id', operation',
              inside' ++ .openScope id operation :: (inside ++ [.closeScope]), by simp, ?_, first,
              below⟩
            exact closed'.append (.enclosed closed .nil)
        | _ => exact absurd rfl stays

/-- The current scope is the one that was opened ahead of balanced steps. -/
theorem current_after_eq_some_iff {environment : Environment} {clock : Clock} {steps : List Step}
    {scope : Scope} :
    ((initial environment clock).after collaborators steps).current = some scope ↔
      ∃ before id operation inside, steps = before ++ .openScope id operation :: inside ∧
        Balanced inside ∧
        scope = .opening ((initial environment clock).after collaborators before).clock id
          operation := by
  unfold current
  constructor
  · intro current
    obtain ⟨others, opened⟩ := List.head?_eq_some_iff.1 current
    obtain ⟨before, id, operation, inside, same, closed, first, -⟩ :=
      exists_opening collaborators opened
    exact ⟨before, id, operation, inside, same, closed, first⟩
  · rintro ⟨before, id, operation, inside, rfl, closed, rfl⟩
    rw [scopes_after_opened collaborators _ before id operation closed]
    rfl

/-! ## Parses -/

/-- The mode that a parse is called for in. -/
def Entry.mode : Entry → Mode
  | .immediate => .immediate
  | .waiting _ => .awaiting
  | .scheduled _ => .awaiting

theorem sheltered_enter (host : Host) (scopes : List Scope) (config : Config) (call : Call)
    (entry : Entry) :
    ∀ event ∈ (enter host scopes config call entry).events,
      event.Sheltered (some ⟨host.clock.requestId, some entry.mode.operation⟩) scopes.head? := by
  cases entry with
  | immediate =>
    rw [enter, ← Scene.parseNow_still]
    exact Scene.sheltered_parseNow _ scopes config call.needed
  | waiting callback =>
    rw [enter, ← Scene.parseWaiting_still]
    exact Scene.sheltered_parseWaiting _ scopes config call.needed callback
  | scheduled callback =>
    rw [enter, Host.parseScheduled_eq, ← Scene.parseWaiting_still]
    exact Scene.sheltered_parseWaiting _ scopes config call.needed callback

/-- A parse in a session happens in the scope that it opens, whatever scope is current. -/
theorem sheltered_parse (id : String) (entry : Entry) (call : Except Fault Call) :
    ∀ event ∈ (session.step collaborators (.parse id entry call)).events,
      event.Sheltered (some ⟨session.clock.requestId, some entry.mode.operation⟩)
        session.current := by
  cases found : session.parser id with
  | error e =>
    rw [step, found]
    exact fun event listed => absurd listed List.not_mem_nil
  | ok config =>
    cases call with
    | error e =>
      rw [step, found]
      exact fun event listed => absurd listed List.not_mem_nil
    | ok call =>
      rw [step_parse_of_ok collaborators session entry call found]
      exact sheltered_enter (session.host collaborators) session.scopes config call entry

/-- Scopes are nested. After any steps of a session, the scope that is current is the one that was
opened ahead of balanced steps, under the id that was given then or an id made then, and there is
none if there was no such step; closing a scope brings back the scopes from before it was opened;
and a parse leaves the session as it is. What happens in a parse happens in the scope that it has
opened for itself, under an id made by then, except that the callback is told outside. So it is in
every scene, for a parse that takes turns whatever it finds in any of them, and for a parse among
others whatever turns they get. -/
theorem scopes_are_nested (environment : Environment) (clock : Clock) (steps : List Step) :
    let start := initial environment clock
    let session := start.after collaborators steps
    (∀ scope, session.current = some scope ↔
        ∃ before id operation inside, steps = before ++ .openScope id operation :: inside ∧
          Balanced inside ∧
          scope = .opening (start.after collaborators before).clock id operation) ∧
      (∀ id operation inside, Balanced inside →
        (session.after collaborators
          (.openScope id operation :: (inside ++ [.closeScope]))).scopes = session.scopes) ∧
      (∀ id entry call,
        let stride := session.step collaborators (.parse id entry call)
        stride.next = session ∧
          ∀ event ∈ stride.events,
            event.Sheltered (some ⟨session.clock.requestId, some entry.mode.operation⟩)
              session.current) ∧
      (∀ (scene : Scene) (scopes : List Scope) (config : Config) (needed : Payload)
          (callback : Option Callback),
        let now := scene.parseNow scopes config needed
        let waiting := scene.parseWaiting scopes config needed callback
        now.scopes = scopes ∧ waiting.scopes = scopes ∧
          (∀ event ∈ now.events, event.Sheltered
            (some ⟨(scene.host []).clock.requestId, some "parse_sync"⟩) scopes.head?) ∧
          ∀ event ∈ waiting.events, event.Sheltered
            (some ⟨(scene.host []).clock.requestId, some "parse"⟩) scopes.head?) ∧
      ∀ (host : Host) (scopes : List Scope) (config : Config) (call : Call)
          (callback : Option Callback),
        let job := host.job scopes config call callback
        (∀ (first : Surroundings) (later : List Surroundings),
          ∀ event ∈ (job.turnsAmid (first :: later)).events, event.Sheltered
            (some ⟨(first []).clock.requestId, some "parse"⟩) scopes.head?) ∧
          ∀ (crew : Crew (Except Fault Outcome)) (number : Nat) (order : List Nat),
            crew[number]? = some (host.world call.request callback, job) →
              ∀ event ∈ Crew.eventsOf number (crew.run order).1, event.Sheltered
                (some ⟨host.clock.requestId, some "parse"⟩) scopes.head? := by
  intro start session
  refine ⟨fun scope => current_after_eq_some_iff collaborators,
    fun id operation inside closed => scopes_after_closed collaborators session closed id operation,
    fun id entry call => ⟨next_parse collaborators session id entry call,
      sheltered_parse collaborators session id entry call⟩, ?_, ?_⟩
  · intro scene scopes config needed callback now waiting
    refine ⟨?_, ?_, scene.sheltered_parseNow scopes config needed,
      scene.sheltered_parseWaiting scopes config needed callback⟩
    · rw [show now = _ from scene.parseNow_eq scopes config needed]
    · rw [show waiting = _ from scene.parseWaiting_eq scopes config needed callback]
  · intro host scopes config call callback job
    exact ⟨host.sheltered_turnsAmid scopes config call callback,
      fun crew number order listed =>
        host.sheltered_run scopes config call callback listed order⟩

/-- A scope is current again once the one inside it was closed, and a parse that waits among others
is sheltered in the scope that it has opened itself. -/
theorem scopes_are_nested_sample :
    let steps := [.openScope (some "job") (some "work"), .openScope none none, .closeScope]
    let session := (initial .unset ⟨0, ""⟩).after wrappingHost.collaborators steps
    let errand := sampleErrand 1 [.text "B*a", .text "A?"]
    let run := Crew.run [(sampleErrand 3 [.text "A"]).job, errand.job] [0, 1, 0, 1]
    session.current = some ⟨"job", some "work"⟩ ∧
      (session.after wrappingHost.collaborators [.openScope none none, .closeScope]).scopes =
        session.scopes ∧
      ∀ event ∈ Crew.eventsOf 1 run.1,
        event.Sheltered (some ⟨errand.host.clock.requestId, some "parse"⟩) none := by
  intro steps session errand run
  obtain ⟨current, closing, -, -, parses⟩ :=
    scopes_are_nested wrappingHost.collaborators .unset ⟨0, ""⟩ steps
  obtain ⟨-, sheltered⟩ := parses errand.host errand.scopes errand.config errand.call
    (some errand.callback)
  refine ⟨?_, closing none none [] .nil, sheltered _ 1 [0, 1, 0, 1] rfl⟩
  exact (current _).2 ⟨[], some "job", some "work", _, rfl, .enclosed .nil .nil, rfl⟩

end Intake.Session
