import Intake.Config.Options
import Intake.Parse
import Intake.Request
import Intake.Job
import Intake.Environment

/-!
The ways into a parser. A parser is a configuration. It can parse at once, parse and wait, or be put
among other jobs; every parse opens a scope of its own, whatever scope it is called in. Whoever does
not wait can call for a parse that waits (`Host.callFor`), and is handed its ending or a task.
-/

namespace Intake

/-- How a configuration is described: by options and overrides, or by its fields. -/
inductive Settings where
  | options (options overrides : Fields Payload)
  | fields (fields : Fields Payload)

/-- The described configuration, with the notes that are made while it is built. -/
def Settings.build (environment : Environment) : Settings → Except Fault (Config × List Note)
  | .options given overriding => do
    Builder.options.check (fun _ => true) overriding.names
    Config.ofOptions environment.grammarDisabled given overriding
  | .fields given => do
    let config ← Config.ofFields? environment.grammarDisabled given
    return (config, [])

/-- The configuration of the described parser, with the notes that are made while it is built. A
parser hands overrides on, after refusing those that bear a name of its own. -/
def Settings.buildParser (environment : Environment) (settings : Settings) :
    Except Fault (Config × List Note) := do
  match settings with
  | .options _ overriding => Builder.parser.check (fun _ => true) overriding.names
  | .fields _ => pure ()
  settings.build environment

/-- What parsers depend on besides their configuration. -/
structure Host where
  collaborators : Collaborators
  environment : Environment
  clock : Clock

/-- What a callback does when it is told about an outcome. -/
abbrev Callback := Delivery → Answer

/-- The arguments of a parse. -/
structure Call where
  request : Request
  needed : Payload

/-- A parse that was put among other jobs: what had happened when it was handed over, what happened
while it was waited for, and how it ended. -/
structure Scheduled where
  before : List Event
  events : List Event
  ending : Except Fault Outcome

/-- What somebody who calls for a parse and does not wait for it is handed: the ending, with what
has happened by then, or a task, as it is ahead of its first turn. -/
inductive Handed where
  | ended (events : List Event) (ending : Except Fault Outcome)
  | task (world : World) (turn : Turn (Except Fault Outcome))

namespace Host

/-- How the log is kept. -/
def log (host : Host) : Log := ⟨host.environment.debugging, host.collaborators.wording⟩

/-- The world in which dialogues about a request are carried out. -/
def world (host : Host) (request : Request) (callback : Option Callback) : World where
  collaborators := host.collaborators
  clock := host.clock
  member := request.read
  receive := callback.getD fun _ => .ok .null

/-- Parses at once. -/
def parseNow (host : Host) (scopes : List Scope) (config : Config) (call : Call) :
    Course (Except Fault Outcome) :=
  (parse config .immediate host.log call.request.isPresent call.needed).run.run
    (host.world call.request none) scopes

/-- The parse that waits for its authorizer and then calls back, as a dialogue. -/
def dialogue (host : Host) (config : Config) (call : Call) (callback : Option Callback) :
    Dialogue (Except Fault Outcome) :=
  (parseThen config host.log call.request.isPresent callback.isSome call.needed).run

/-- Parses, waiting for the authorizer to the end. -/
def parseWaiting (host : Host) (scopes : List Scope) (config : Config) (call : Call)
    (callback : Option Callback) : Course (Except Fault Outcome) :=
  (host.dialogue config call callback).run (host.world call.request callback) scopes

/-- Puts a parse among other jobs. Nothing of it is carried out before its first turn. -/
def schedule (host : Host) (scopes : List Scope) (config : Config) (call : Call)
    (callback : Option Callback) : World × Turn (Except Fault Outcome) :=
  (host.world call.request callback, ⟨[], .ready scopes (host.dialogue config call callback)⟩)

/-- Puts a parse among other jobs, and then waits for it. -/
def parseScheduled (host : Host) (scopes : List Scope) (config : Config) (call : Call)
    (callback : Option Callback) : Scheduled :=
  let (world, turn) := host.schedule scopes config call callback
  let (events, _) := Crew.roundRobin [(world, turn.job)]
  ⟨turn.events, events.map (·.2), turn.job.result world⟩

/-- Calls for a parse without waiting for it. Where a loop is running, the parse becomes one of the
jobs there. Elsewhere it is carried out to its end, in a loop of its own. -/
def callFor (host : Host) (running : Bool) (scopes : List Scope) (config : Config) (call : Call)
    (callback : Option Callback) : Handed :=
  if running then
    let (world, turn) := host.schedule scopes config call callback
    .task world turn
  else
    let parse := host.parseScheduled scopes config call callback
    .ended (parse.before ++ parse.events) parse.ending

end Host

end Intake
