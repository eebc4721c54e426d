import Intake.Parser

/-!
Sessions: parsers, scopes and the environment over time. A session holds parsers under ids, the
scopes that are open, innermost first, and the environment and the clock as they are now. Each step
gives an answer, and the events that it caused.

A parser is built when it is created, from the environment of that moment, and nothing that happens
later changes it.
-/

namespace Intake

/-- The state of a session. -/
structure Session where
  parsers : Fields Config
  scopes : List Scope
  environment : Environment
  clock : Clock

namespace Session

/-- The state in which a session begins. -/
def initial (environment : Environment) (clock : Clock) : Session :=
  ⟨[], [], environment, clock⟩

/-- How a parse is called for. -/
inductive Entry where
  /-- At once. -/
  | immediate
  /-- Waiting, with or without a callback. -/
  | waiting (callback : Option Callback)
  /-- As a job among others, which is then waited for. -/
  | scheduled (callback : Option Callback)

/-- A step of a session. The arguments of a parse are put together only when its turn comes; that
can fail, and then it is the step that fails. -/
inductive Step where
  | create (id : String) (settings : Settings)
  | showConfig (id : String)
  | assignField (id field : String)
  | parse (id : String) (entry : Entry) (call : Except Fault Call)
  | assignVariable (name : String) (value : Option String)
  | setClock (clock : Clock)
  | openScope (id operation : Option String)
  | closeScope
  | showScope
  | log (message : String)

/-- The answer to a step. -/
inductive Reaction where
  | config (config : Config)
  | raised (e : Fault)
  | outcome (outcome : Outcome)
  | delivered (ending : Except Fault Outcome)
  | scheduled (parse : Scheduled)
  | debugging (on : Bool)
  | requestId (id : String)
  | scope (scope : Option Scope)
  | current (scope : Option Scope)
  | records (records : List Record)

/-- The reaction to a parse at once, by its ending. -/
def Reaction.ofEnding : Except Fault Outcome → Reaction
  | .ok ending => .outcome ending
  | .error e => .raised e

/-- The innermost scope that is open. -/
def current (session : Session) : Option Scope := session.scopes.head?

/-- What parsers of the session run with. -/
def host (session : Session) (collaborators : Collaborators) : Host :=
  ⟨collaborators, session.environment, session.clock⟩

/-- The parser of an id, or the fault that there is none. -/
def parser (session : Session) (id : String) : Except Fault Config :=
  match session.parsers.get? id with
  | some config => .ok config
  | none => .error (.raised .key (some id))

/-- The course of a parse, from the scopes that are open. A job that is waited for keeps its scopes
to itself. -/
def enter (host : Host) (scopes : List Scope) (config : Config) (call : Call) :
    Entry → Course Reaction
  | .immediate =>
    let course := host.parseNow scopes config call
    ⟨course.events, course.scopes, .ofEnding course.value⟩
  | .waiting callback =>
    let course := host.parseWaiting scopes config call callback
    ⟨course.events, course.scopes, .delivered course.value⟩
  | .scheduled callback =>
    let parse := host.parseScheduled scopes config call callback
    ⟨parse.before ++ parse.events, scopes, .scheduled parse⟩

/-- What a step leads to. -/
structure Stride where
  events : List Event
  reaction : Reaction
  next : Session

/-- A step that fails leaves the session as it is. -/
def failing (session : Session) (e : Fault) : Stride := ⟨[], .raised e, session⟩

/-- Carries out a step. -/
def step (collaborators : Collaborators) (session : Session) : Step → Stride
  | .create id settings =>
    match settings.buildParser session.environment with
    | .ok (config, notes) =>
      ⟨notes.map fun n => .recorded ⟨n, none⟩, .config config,
        { session with parsers := session.parsers.put id config }⟩
    | .error e => session.failing e
  | .showConfig id =>
    match session.parser id with
    | .ok config => ⟨[], .config config, session⟩
    | .error e => session.failing e
  | .assignField id field =>
    match session.parser id with
    | .ok _ => session.failing (.frozenField field)
    | .error e => session.failing e
  | .parse id entry call =>
    match Prod.mk <$> session.parser id <*> call with
    | .ok (config, call) =>
      let course := enter (session.host collaborators) session.scopes config call entry
      ⟨course.events, course.value, { session with scopes := course.scopes }⟩
    | .error e => session.failing e
  | .assignVariable name value =>
    let environment := session.environment.assign name value
    ⟨[], .debugging environment.debugging, { session with environment := environment }⟩
  | .setClock clock => ⟨[], .requestId clock.requestId, { session with clock := clock }⟩
  | .openScope id operation =>
    let scope := Scope.opening session.clock id operation
    ⟨[], .scope (some scope), { session with scopes := scope :: session.scopes }⟩
  | .closeScope =>
    let session := { session with scopes := session.scopes.tail }
    ⟨[], .scope session.current, session⟩
  | .showScope => ⟨[], .current session.current, session⟩
  | .log message =>
    let record : Record := ⟨.debug message, session.current⟩
    ⟨[.recorded record], .records [record], session⟩

/-- Carries out steps one after the other. -/
def run (collaborators : Collaborators) (session : Session) : List Step → List Stride
  | [] => []
  | first :: rest =>
    let stride := session.step collaborators first
    stride :: stride.next.run collaborators rest

end Session

end Intake
