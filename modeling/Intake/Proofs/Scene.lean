import Intake.Proofs.Orderly
import Intake.Proofs.Parse

/-!
# The course of a parse in a scene

A `Scene` is what a parse takes place in: a host and a request, either of which may be another one
after every event. In a scene nothing can be said of an answer before it is given; what can be said
is how a parse goes on from there. `Scene.attempt_of_accepted` puts the course of a parse as far as
it can fail together from the course of gathering (`Scene.gathering`) and what follows it, and
`Scene.parseNow_eq` and `Scene.parseWaiting_eq` say what a parse makes of it.

The scene in which nothing changes is a host and a request (`Scene.parseNow_still`,
`Scene.parseWaiting_still`).
-/

namespace Intake

/-- A host and a request, as they are after everything that has happened. -/
structure Scene where
  host : List Event → Host
  request : List Event → Request

namespace Scene

/-- The surroundings of a parse in a scene. -/
def around (scene : Scene) (callback : Option Callback) : Surroundings :=
  fun past => (scene.host past).world (scene.request past) callback

/-- Parses at once. -/
def parseNow (scene : Scene) (scopes : List Scope) (config : Config) (needed : Payload) :
    Course (Except Fault Outcome) :=
  (parse config .immediate (scene.host []).log (scene.request []).isPresent needed).run.runAmid
    (scene.around none) scopes

/-- Parses with waiting, and then calls back. -/
def parseWaiting (scene : Scene) (scopes : List Scope) (config : Config) (needed : Payload)
    (callback : Option Callback) : Course (Except Fault Outcome) :=
  (parseThen config (scene.host []).log (scene.request []).isPresent callback.isSome
    needed).run.runAmid (scene.around callback) scopes

/-- The scene in which nothing changes. -/
def still (host : Host) (request : Request) : Scene := ⟨fun _ => host, fun _ => request⟩

theorem parseNow_still (host : Host) (scopes : List Scope) (config : Config) (call : Call) :
    (still host call.request).parseNow scopes config call.needed =
      host.parseNow scopes config call :=
  Dialogue.runAmid_const (host.world call.request none) scopes _

theorem parseWaiting_still (host : Host) (scopes : List Scope) (config : Config) (call : Call)
    (callback : Option Callback) :
    (still host call.request).parseWaiting scopes config call.needed callback =
      host.parseWaiting scopes config call callback :=
  Dialogue.runAmid_const (host.world call.request callback) scopes _

end Scene

/-! ## Authorizing -/

namespace Dialogue

variable (around : Surroundings) (scopes : List Scope) (config : Config) (log : Log)

theorem runAmid_readSection (s : Section) :
    (readSection (.field s)).run.runAmid around scopes =
      ⟨[.asked (.member s.name) scopes.head?], scopes, (around []).sectionPayload s⟩ := by
  have asked : (Action.query (.member s.name)).run.runAmid around scopes =
      ⟨[.asked (.member s.name) scopes.head?], scopes, (around []).member s.name⟩ := rfl
  unfold World.sectionPayload
  cases read : (around []).member s.name with
  | error e =>
    rw [read] at asked
    exact runAmid_bind_of_error asked _
  | ok value =>
    rw [read] at asked
    exact runAmid_bind_of_ok asked _

/-- The authorizer is called, and answers as things are by then. Nothing else is asked, and what the
answer comes to does not depend on what is around. -/
theorem runAmid_authorize (authorizer headers : Payload) (optional : Bool) :
    (authorize log authorizer headers optional).run.runAmid around scopes =
      let given := givenHeaders headers
      let answer := (around (beginEvents scopes.head? authorizer given)).awaited scopes.head?
        authorizer given
      ⟨awaitEvents scopes.head? authorizer given ++
          (authorizationNotes log optional answer).map (noteEvent scopes.head?),
        scopes, settledPrincipal log optional answer⟩ := by
  have observed : (Action.observe (Action.await authorizer (givenHeaders headers))).run.runAmid
      around scopes =
        ⟨awaitEvents scopes.head? authorizer (givenHeaders headers), scopes,
          .ok ((around (beginEvents scopes.head? authorizer (givenHeaders headers))).awaited
            scopes.head? authorizer (givenHeaders headers))⟩ := by
    cases authorizer <;> rfl
  apply (runAmid_bind_of_ok observed _).trans
  dsimp only
  cases (around (beginEvents scopes.head? authorizer (givenHeaders headers))).awaited
      scopes.head? authorizer (givenHeaders headers) with
  | error e =>
    rw [(silent_withoutAnswer log optional e).runAmid_of_silent _ _ (around []),
      run_withoutAnswer]
    rfl
  | ok principal =>
    rw [(silent_withAnswer optional principal).runAmid_of_silent _ _ (around []),
      run_withAnswer _ _ log]
    rfl

/-! ## After gathering -/

/-- The ways on from what has been gathered. A list that was stopped or is incomplete, and one that
demands nothing, end the parse. Otherwise the headers are read, and if that is no fault either, the
authorizer is called and waited for. -/
inductive Finished : Except Stop Gathered → Course (Except Fault Outcome) → Prop
  | fatal (code : ErrorCode) :
      Finished (.error (.fatal code)) ⟨[], scopes, .ok (.ofCode code.text)⟩
  | fault (e : Fault) : Finished (.error (.fault e)) ⟨[], scopes, .error e⟩
  | incomplete {gathered : Gathered} (missing : gathered.errors ≠ []) :
      Finished (.ok gathered) ⟨[], scopes, .ok (.ofFieldErrors gathered.errors)⟩
  | undemanding {gathered : Gathered} (complete : gathered.errors = [])
      (undemanded : gathered.demand = none) :
      Finished (.ok gathered) ⟨[], scopes, .ok (.success gathered.result)⟩
  | unread {gathered : Gathered} {demand : Demand} {e : Fault} (complete : gathered.errors = [])
      (demanded : gathered.demand = some demand)
      (unread : (around []).sectionPayload .headers = .error e) :
      Finished (.ok gathered)
        ⟨[.asked (.member Section.headers.name) scopes.head?], scopes, .error e⟩
  | authorized {gathered : Gathered} {demand : Demand} {headers : Payload} {answer : Answer}
      (complete : gathered.errors = []) (demanded : gathered.demand = some demand)
      (read : (around []).sectionPayload .headers = .ok headers)
      (answered : (around (consultingEvents scopes.head? config.authorizer
          (givenHeaders headers))).awaited scopes.head? config.authorizer
        (givenHeaders headers) = answer) :
      Finished (.ok gathered)
        ⟨.asked (.member Section.headers.name) scopes.head? ::
            (awaitEvents scopes.head? config.authorizer (givenHeaders headers) ++
              (authorizationNotes log demand.optional answer).map (noteEvent scopes.head?)),
          scopes,
          (settledPrincipal log demand.optional answer).map fun principal =>
            .success { gathered.result with authorization := principal }⟩

theorem finished_authorizeGathered {gathered : Gathered} (complete : gathered.errors = []) :
    Finished around scopes config log (.ok gathered)
      ((authorizeGathered config log gathered).run.runAmid around scopes) := by
  unfold authorizeGathered
  cases demanded : gathered.demand with
  | none => exact .undemanding complete demanded
  | some demand =>
    have asked := runAmid_readSection around scopes .headers
    cases read : (around []).sectionPayload .headers with
    | error e =>
      rw [read] at asked
      dsimp only
      rw [runAmid_bind_of_error asked]
      exact .unread complete demanded read
    | ok headers =>
      rw [read] at asked
      have authorized := runAmid_authorize
        (around.after [.asked (.member Section.headers.name) scopes.head?]) scopes log
        config.authorizer headers demand.optional
      dsimp only
      rw [runAmid_bind_of_ok asked, runAmid_map_of_eq authorized]
      exact .authorized complete demanded read rfl

theorem finished (ending : Except Stop Gathered) :
    Finished around scopes config log ending
      ((finishGathering config log ending).run.runAmid around scopes) := by
  cases ending with
  | error stop =>
    cases stop with
    | fatal code => exact .fatal code
    | fault e => exact .fault e
  | ok gathered =>
    by_cases complete : gathered.errors = []
    · have goesOn : finishGathering config log (.ok gathered) =
          authorizeGathered config log gathered :=
        if_pos (List.isEmpty_iff.2 complete)
      rw [goesOn]
      exact finished_authorizeGathered around scopes config log complete
    · have ends : finishGathering config log (.ok gathered) =
          pure (.ofFieldErrors gathered.errors) :=
        if_neg fun empty => complete (List.isEmpty_iff.1 empty)
      rw [ends]
      exact .incomplete complete

section Finished

variable {around scopes config log} {gathered : Gathered} {demand : Demand}
  {course : Course (Except Fault Outcome)}
  (finished : Finished around scopes config log (.ok gathered) course)
  (complete : gathered.errors = []) (demanded : gathered.demand = some demand)

include finished complete demanded

end Finished

end Dialogue

/-! ## The parses of a scene -/

namespace Scene

variable (scene : Scene) (scopes : List Scope) (config : Config) (needed : Payload)
  (callback : Option Callback) (mode : Mode)

/-- The scopes that are open in a parse, its own innermost. -/
def opened : List Scope :=
  .opening (scene.host []).clock none (some mode.operation) :: scopes

/-- The course of a list of keys being gathered in a parse. -/
def gathering (keys : List Payload) : Course (Except Stop Gathered) :=
  (gather config mode (scene.host []).log.tracing keys).run.runAmid (scene.around callback)
    (scene.opened scopes mode)

/-- The course of a parse as far as it can fail. -/
def attempt : Course (Except Fault Outcome) :=
  (Intake.attempt config mode (scene.host []).log (scene.request []).isPresent
    needed).run.runAmid (scene.around callback) (scene.opened scopes mode)

/-- A section is read of the request as it is by then. -/
theorem sectionPayload_after (past : List Event) (s : Section) :
    (((scene.around callback).after past) []).sectionPayload s =
      ((scene.request past).read s.name).map fun value =>
        if value.fields?.isSome then value else .null := by
  simp only [Surroundings.after, List.append_nil]
  rfl

theorem scopes_gathering (keys : List Payload) :
    (scene.gathering scopes config callback mode keys).scopes = scene.opened scopes mode :=
  (Dialogue.orderly_gather config mode _ keys).scopes_runAmid _ _

variable {scene config needed}

theorem attempt_of_refused {e : Fault}
    (refused : checkCall config (scene.request []).isPresent needed = .error e) :
    scene.attempt scopes config needed callback mode =
      ⟨[], scene.opened scopes mode, .error e⟩ := by
  rw [attempt, Intake.attempt, refused]
  rfl

/-- A call that is accepted is gathered, and then the parse goes on in one of the ways there are. -/
theorem attempt_of_accepted {keys : List Payload}
    (accepted : checkCall config (scene.request []).isPresent needed = .ok keys) :
    let gathering := scene.gathering scopes config callback mode (config.alwaysParsed ++ keys)
    ∃ finishing, scene.attempt scopes config needed callback mode =
        finishing.after gathering.events ∧
      Dialogue.Finished ((scene.around callback).after gathering.events)
        (scene.opened scopes mode) config (scene.host []).log gathering.value finishing := by
  intro gathering
  refine ⟨_, ?_, Dialogue.finished _ _ _ _ _⟩
  rw [attempt, Intake.attempt, accepted]
  dsimp only
  rw [ExceptT.run_bind_lift, Dialogue.runAmid_bind]
  have kept := scene.scopes_gathering scopes config callback mode (config.alwaysParsed ++ keys)
  dsimp only
  exact congrArg (fun opened => Course.after gathering.events
    ((finishGathering config (scene.host []).log gathering.value).run.runAmid
      ((scene.around callback).after gathering.events) opened)) kept

variable (scene config needed)

theorem parseNow_eq :
    scene.parseNow scopes config needed =
      let log := (scene.host []).log
      let attempt := scene.attempt scopes config needed none .immediate
      ⟨attempt.events ++ (outcomeNotes .immediate log attempt.value).map
          (noteEvent (scene.opened scopes .immediate).head?),
        scopes, outcomeOf log attempt.value⟩ :=
  Dialogue.runAmid_parse (scene.around none) scopes config _ .immediate _ needed

theorem parseWaiting_eq :
    scene.parseWaiting scopes config needed callback =
      let log := (scene.host []).log
      let attempt := scene.attempt scopes config needed callback .awaiting
      let ending := outcomeOf log attempt.value
      let events := attempt.events ++ (outcomeNotes .awaiting log attempt.value).map
        (noteEvent (scene.opened scopes .awaiting).head?)
      ⟨events ++ tellingEvents scopes.head? callback.isSome ending, scopes,
        ((scene.around callback) events).told callback.isSome ending⟩ := by
  rw [parseWaiting, Dialogue.runAmid_parseThen, Dialogue.runAmid_parse]
  rfl

end Scene

end Intake
