import Intake.Proofs.Likeness
import Intake.Proofs.Reading
import Intake.Proofs.Sessions

/-!
# Parsers in a session

A session holds under an id what the last creation under that id that succeeded has built, in the
environment of that moment (`Session.get?_parsers_after`). Everything else that happens in a session
passes a parser by: other creations and those that fail, parses and what becomes of them, scopes,
the clock, and the environment, whatever is assigned to it later.

A step that concerns the parser of an id goes alike in any two sessions that hold the same parser
under it (`Session.step_alike`): it asks the same queries and gives the same answer, and only what
is recorded, and the scopes that it is recorded in, can tell the sessions apart.
`parsers_are_isolated` compares the step with the one after a creation in a session of its own.
-/

namespace Intake

/-- A creation that succeeded: how the parser was described, in what environment, and what was
built. -/
structure Creation where
  settings : Settings
  environment : Environment
  config : Config
  notes : List Note
  built : settings.buildParser environment = .ok (config, notes)

/-- The creation of a parser, if it succeeds. -/
def Creation.of? (settings : Settings) (environment : Environment) : Option Creation :=
  match built : settings.buildParser environment with
  | .ok (config, notes) => some ⟨settings, environment, config, notes, built⟩
  | .error _ => none

theorem Creation.of?_of_ok {settings : Settings} {environment : Environment} {config : Config}
    {notes : List Note} (built : settings.buildParser environment = .ok (config, notes)) :
    of? settings environment = some ⟨settings, environment, config, notes, built⟩ := by
  unfold of?
  split
  · rename_i same
    cases built.symm.trans same
    rfl
  · rename_i fails
    cases built.symm.trans fails

theorem Creation.of?_of_error {settings : Settings} {environment : Environment} {e : Fault}
    (fails : settings.buildParser environment = .error e) : of? settings environment = none := by
  unfold of?
  split
  · rename_i built
    cases fails.symm.trans built
  · rfl

namespace Session

/-- The steps that concern the parser of an id: showing its configuration, assigning to a field of
it, and parses. -/
inductive Step.On (id : String) : Step → Prop
  | showConfig : On id (.showConfig id)
  | assignField (field : String) : On id (.assignField id field)
  | parse (entry : Entry) (call : Except Fault Call) : On id (.parse id entry call)

/-- Answers that are the same but for what is recorded, and in which scope. -/
inductive Reaction.Alike : Reaction → Reaction → Prop
  | same (reaction : Reaction) : Alike reaction reaction
  | scheduled {parse other : Scheduled}
      (before : Event.queries parse.before = Event.queries other.before)
      (events : Event.queries parse.events = Event.queries other.events)
      (ending : parse.ending = other.ending) : Alike (.scheduled parse) (.scheduled other)

/-- Steps that ask the same queries and give the same answer. -/
structure Stride.Alike (stride other : Stride) : Prop where
  queries : Event.queries stride.events = Event.queries other.events
  reaction : stride.reaction.Alike other.reaction

/-! ## The parser of an id -/

/-- The successful creation under an id that a step is, if it is one. -/
def Step.creation? (id : String) (environment : Environment) : Step → Option Creation
  | .create other settings => if other = id then Creation.of? settings environment else none
  | _ => none

/-- The successful creations under an id, in order, each with the environment of that moment. -/
def creations (id : String) : Environment → List Step → List Creation
  | _, [] => []
  | environment, step :: rest =>
    (step.creation? id environment).toList ++ creations id (step.environment environment) rest

/-- A step leaves the parser of an id alone unless it creates one under the id. -/
theorem get?_parsers_step (id : String) (environment : Environment) (parsers : Fields Config)
    (step : Step) :
    (step.parsers environment parsers).get? id =
      ((step.creation? id environment).map Creation.config).or (parsers.get? id) := by
  cases step with
  | create other settings =>
    rw [Step.parsers, Step.creation?]
    cases built : settings.buildParser environment with
    | error e =>
      rw [Creation.of?_of_error built, ite_self]
      rfl
    | ok found =>
      dsimp only
      rw [Creation.of?_of_ok built, Fields.get?_put]
      by_cases own : other = id
      · rw [if_pos own, if_pos own]
        rfl
      · rw [if_neg own, if_neg own]
        rfl
  | _ => rfl

variable (collaborators : Collaborators)

/-- The parser of an id is what the last successful creation under it has built. -/
theorem get?_parsers_after (session : Session) (id : String) (steps : List Step) :
    (session.after collaborators steps).parsers.get? id =
      (((creations id session.environment steps).getLast?).map Creation.config).or
        (session.parsers.get? id) := by
  induction steps generalizing session with
  | nil => rfl
  | cons step rest ih =>
    have later := ih (session.step collaborators step).next
    rw [next_step, get?_parsers_step] at later
    -- A creation in the rest of the steps decides, and only without one does the first step.
    rw [after_cons, next_step, later, creations, List.getLast?_append]
    cases (creations id (step.environment session.environment) rest).getLast? with
    | some creation => rfl
    | none => cases step.creation? id session.environment <;> rfl

theorem parser_after (environment : Environment) (clock : Clock) (id : String)
    (steps : List Step) :
    ((initial environment clock).after collaborators steps).parser id =
      match (creations id environment steps).getLast? with
      | some creation => .ok creation.config
      | none => .error (.raised .key (some id)) := by
  have stored := get?_parsers_after collaborators (initial environment clock) id steps
  rw [parser, stored, initial]
  cases (creations id environment steps).getLast? <;> rfl

/-! ## Steps that concern a parser -/

/-- A parse, in whatever way it is called for, depends on nothing of its host but the
collaborators. -/
theorem enter_alike {host other : Host} (same : host.collaborators = other.collaborators)
    (plain : host.collaborators.Plain) (scopes inner : List Scope) (config : Config) (call : Call)
    (entry : Entry) :
    Event.queries (enter host scopes config call entry).events =
        Event.queries (enter other inner config call entry).events ∧
      (enter host scopes config call entry).value.Alike
        (enter other inner config call entry).value := by
  cases entry with
  | immediate =>
    obtain ⟨queries, value⟩ := Host.parseNow_alike same plain scopes inner config call
    refine ⟨queries, ?_⟩
    rw [enter, enter, value]
    exact .same _
  | waiting callback =>
    obtain ⟨queries, value⟩ := Host.parseWaiting_alike same plain scopes inner config call callback
    refine ⟨queries, ?_⟩
    rw [enter, enter, value]
    exact .same _
  | scheduled callback =>
    obtain ⟨queries, value⟩ := Host.parseWaiting_alike same plain scopes inner config call callback
    rw [enter, enter, Host.parseScheduled_eq, Host.parseScheduled_eq]
    exact ⟨queries, .scheduled rfl queries value⟩

variable {collaborators} {session other : Session} {id : String} {step : Step}

/-- A step that concerns a parser changes nothing in the session. -/
theorem next_of_on (on : step.On id) (session : Session) :
    (session.step collaborators step).next = session := by
  rw [next_step]
  cases on <;> rfl

/-- A step that concerns a parser goes alike in sessions that hold the same parser. -/
theorem step_alike (plain : collaborators.Plain) (same : session.parser id = other.parser id)
    (on : step.On id) :
    (session.step collaborators step).Alike (other.step collaborators step) := by
  cases on with
  | showConfig =>
    rw [Session.step, Session.step, same]
    cases other.parser id <;> exact ⟨rfl, .same _⟩
  | assignField field =>
    rw [Session.step, Session.step, same]
    cases other.parser id <;> exact ⟨rfl, .same _⟩
  | parse entry call =>
    cases found : other.parser id with
    | error e =>
      rw [Session.step, Session.step, same, found]
      exact ⟨rfl, .same _⟩
    | ok config =>
      cases call with
      | error e =>
        rw [Session.step, Session.step, same, found]
        exact ⟨rfl, .same _⟩
      | ok call =>
        have hosts : (session.host collaborators).collaborators =
            (other.host collaborators).collaborators := rfl
        obtain ⟨queries, value⟩ :=
          enter_alike hosts plain session.scopes other.scopes config call entry
        rw [step_parse_of_ok collaborators session entry call (same.trans found),
          step_parse_of_ok collaborators other entry call found]
        exact ⟨queries, value⟩

/-- Parsers are isolated, and their configuration is fixed when they are created. In every run of a
session, a step that concerns the parser of an id changes nothing. If no creation under the id has
succeeded, there is no parser. If one has, the last of them decides: the step goes alike as after
that creation in a session of its own, at whatever time, in the environment as it was; and no field
of the configuration can be assigned to. -/
theorem parsers_are_isolated {collaborators : Collaborators} (plain : collaborators.Plain)
    (environment : Environment) (clock later : Clock) (past future : List Step) {id : String}
    {step : Step} (on : step.On id) :
    let session := (initial environment clock).after collaborators past
    let stride := session.step collaborators step
    ((initial environment clock).run collaborators (past ++ step :: future))[past.length]? =
        some stride ∧
      stride.next = session ∧
      match (creations id environment past).getLast? with
      | none => stride = session.failing (.raised .key (some id))
      | some creation =>
        let created := (initial creation.environment later).step collaborators
          (.create id creation.settings)
        created.reaction = .config creation.config ∧
          stride.Alike (created.next.step collaborators step) ∧
          ∀ field, session.step collaborators (.assignField id field) =
            session.failing (.frozenField field) := by
  intro session stride
  refine ⟨getElem?_run collaborators _ past future step, next_of_on on session, ?_⟩
  have parser : session.parser id = _ := parser_after collaborators environment clock id past
  cases last : (creations id environment past).getLast? with
  | none =>
    rw [last] at parser
    unfold stride
    cases on with
    | showConfig => rw [Session.step, parser]
    | assignField field => rw [Session.step, parser]
    | parse entry call => rw [Session.step, parser]; rfl
  | some creation =>
    rw [last] at parser
    have creates : (initial creation.environment later).step collaborators
        (.create id creation.settings) =
          ⟨creation.notes.map fun n => .recorded ⟨n, none⟩, .config creation.config,
            ⟨[(id, creation.config)], [], creation.environment, later⟩⟩ := by
      rw [Session.step]
      dsimp only [initial]
      rw [creation.built]
      rfl
    have fresh : session.parser id =
        (Session.mk [(id, creation.config)] [] creation.environment later).parser id := by
      rw [parser, Session.parser, Fields.get?_cons, if_pos rfl]
    dsimp only
    rw [creates]
    refine ⟨rfl, step_alike plain fresh on, fun field => ?_⟩
    rw [Session.step, parser]

/-- A session in which a parser is created, the grammar is switched off, and another creation under
the same id fails. -/
def samplePast : List Step :=
  [.create "p" (.options [("sanitizeFunction", .function ⟨"clean", 0, false⟩)] []),
    .assignVariable Environment.disableGrammarName (some "true"),
    .create "q" (.options [] []),
    .create "p" (.options [] [("self", .null)]),
    .openScope none (some "work"),
    .parse "p" .immediate (.error (.noMember "dict" "needed"))]

/-- The parser keeps to the grammar, as it did when it was created. -/
theorem parsers_are_isolated_sample :
    let session := (initial .unset ⟨0, ""⟩).after wrappingHost.collaborators samplePast
    let stride := session.step wrappingHost.collaborators
      (.parse "p" .immediate (.ok ⟨sampleRequest, .list [.text "Zid"]⟩))
    wrappingHost.collaborators.Plain ∧
      session.environment.grammarDisabled = true ∧
      stride.reaction = .outcome (.ofCode (grammarCode "Zid")) ∧
      stride.next = session := by
  intro session stride
  have plain : wrappingHost.collaborators.Plain := fun _ _ _ _ => rfl
  obtain ⟨-, unchanged, alike⟩ := parsers_are_isolated plain .unset ⟨0, ""⟩ ⟨0, ""⟩ samplePast []
    (.parse .immediate (.ok ⟨sampleRequest, .list [.text "Zid"]⟩) : Step.On "p" _)
  obtain ⟨-, same, -⟩ := alike
  refine ⟨plain, by decide, ?_, unchanged⟩
  have answered := same.reaction
  cases answered
  rfl

end Session

end Intake
