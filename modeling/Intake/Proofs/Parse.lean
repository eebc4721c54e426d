import Intake.Parser
import Intake.Proofs.Authorization
import Intake.Proofs.Gathering
import Intake.Proofs.Orderly

/-!
# The course of a parse

What a parse does in a world, from the check of the call to its outcome. `World.attemptEnding` and
`World.attemptEvents` say how far a parse gets and what happens on the way; `concluded` and
`conclusionNotes` say what a fault comes to in the end.

What follows an attempt does not depend on what is around, so that it is told amid any surroundings
(`Dialogue.runAmid_parse`, `Dialogue.runAmid_parseThen`); a world is the case in which nothing
changes. `Dialogue.run_parse` puts the two together: a parse leaves the scopes as it found them, and
it comes to an outcome wherever the log has words for what it met with.
-/

namespace Intake

/-! ## The call -/

/-- A call passes if it lists specifiers, if there is a request and something to parse, and if the
grammar does not stand in the way. -/
theorem checkCall_eq_ok_iff {config : Config} {hasRequest : Bool} {needed : Payload}
    {keys : List Payload} :
    checkCall config hasRequest needed = .ok keys ↔
      needed.sequence? = some keys ∧ hasRequest = true ∧ config.alwaysParsed ++ keys ≠ [] ∧
        (config.grammarDisabled = true ∨ ∀ key ∈ keys, Specifier.isValid key = true) := by
  unfold checkCall
  cases listed : needed.sequence? with
  | none => simp
  | some found =>
    cases hasRequest with
    | false => simp
    | true =>
      by_cases idle : (found.isEmpty && config.alwaysParsed.isEmpty) = true
      · have nothing : config.alwaysParsed ++ found = [] := by
          simpa [and_comm] using idle
        simp only [Bool.not_true, Bool.false_eq_true, if_false, if_pos idle, Option.some.injEq,
          reduceCtorEq, false_iff]
        intro found
        rcases found with ⟨rfl, -, something, -⟩
        exact something nothing
      · have something : config.alwaysParsed ++ found ≠ [] := by
          simpa [and_comm] using idle
        simp only [Bool.not_true, Bool.false_eq_true, if_false, if_neg idle, Option.some.injEq,
          true_and]
        by_cases free : config.grammarDisabled = true
        · rw [if_pos free]
          apply Iff.intro
          · intro same
            cases same
            exact ⟨rfl, something, .inl free⟩
          · intro found
            rcases found with ⟨rfl, -, -⟩
            rfl
        · rw [if_neg free]
          cases offending : found.find? fun key => !Specifier.isValid key with
          | some key =>
            simp only [reduceCtorEq, false_iff]
            intro found
            rcases found with ⟨rfl, -, disabled | valid⟩
            · exact free disabled
            · have invalid := List.find?_some offending
              rw [valid key (List.mem_of_find?_eq_some offending)] at invalid
              cases invalid
          | none =>
            have valid : ∀ key ∈ found, Specifier.isValid key = true := by
              simpa using List.find?_eq_none.1 offending
            refine ⟨?_, ?_⟩
            · intro same
              cases same
              exact ⟨rfl, something, .inr valid⟩
            · intro found
              rcases found with ⟨rfl, -, -⟩
              rfl

/-! ## After gathering -/

/-- The principal of a request. -/
def World.principal (world : World) (scope : Option Scope) (config : Config) (log : Log)
    (optional : Bool) : Except Fault Payload :=
  match world.sectionPayload .headers with
  | .error e => .error e
  | .ok headers =>
    settledPrincipal log optional (world.awaited scope config.authorizer (givenHeaders headers))

/-- What happens when the principal of a request is asked for. -/
def World.principalEvents (world : World) (scope : Option Scope) (config : Config) (log : Log)
    (optional : Bool) : List Event :=
  .asked (.member Section.headers.name) scope ::
    match world.sectionPayload .headers with
    | .error _ => []
    | .ok headers =>
      awaitEvents scope config.authorizer (givenHeaders headers) ++
        (authorizationNotes log optional
          (world.awaited scope config.authorizer (givenHeaders headers))).map (noteEvent scope)

/-- How a parse ends after its list has been gathered. -/
def World.finish (world : World) (scope : Option Scope) (config : Config) (log : Log) :
    Except Stop Gathered → Except Fault Outcome
  | .error (.fatal code) => .ok (.ofCode code.text)
  | .error (.fault e) => .error e
  | .ok gathered =>
    if gathered.errors.isEmpty then
      match gathered.demand with
      | none => .ok (.success gathered.result)
      | some demand =>
        (world.principal scope config log demand.optional).map fun principal =>
          .success { gathered.result with authorization := principal }
    else .ok (.ofFieldErrors gathered.errors)

/-- What happens after the list has been gathered. -/
def World.finishEvents (world : World) (scope : Option Scope) (config : Config) (log : Log) :
    Except Stop Gathered → List Event
  | .error _ => []
  | .ok gathered =>
    if gathered.errors.isEmpty then
      match gathered.demand with
      | none => []
      | some demand => world.principalEvents scope config log demand.optional
    else []

/-! ## The parse as far as it can fail -/

/-- What a list of keys comes to when it is gathered. -/
def World.gathering (world : World) (scope : Option Scope) (config : Config) (mode : Mode)
    (keys : List Payload) : Except Stop Gathered :=
  Verdict.outcome (keys.map (world.verdictOf scope config mode))

/-- How far a parse gets. -/
def World.attemptEnding (world : World) (scope : Option Scope) (config : Config) (mode : Mode)
    (log : Log) (hasRequest : Bool) (needed : Payload) : Except Fault Outcome :=
  match checkCall config hasRequest needed with
  | .error e => .error e
  | .ok keys =>
    world.finish scope config log
      (world.gathering scope config mode (config.alwaysParsed ++ keys))

/-- What happens on the way. -/
def World.attemptEvents (world : World) (scope : Option Scope) (config : Config) (mode : Mode)
    (log : Log) (hasRequest : Bool) (needed : Payload) : List Event :=
  match checkCall config hasRequest needed with
  | .error _ => []
  | .ok keys =>
    world.gatherEvents scope config mode log.tracing (config.alwaysParsed ++ keys) ++
      world.finishEvents scope config log
        (world.gathering scope config mode (config.alwaysParsed ++ keys))

theorem World.attemptEnding_of_ok (world : World) (scope : Option Scope) {config : Config}
    (mode : Mode) (log : Log) {hasRequest : Bool} {needed : Payload} {keys : List Payload}
    (checked : checkCall config hasRequest needed = .ok keys) :
    world.attemptEnding scope config mode log hasRequest needed =
      world.finish scope config log
        (world.gathering scope config mode (config.alwaysParsed ++ keys)) := by
  rw [attemptEnding, checked]

theorem World.attemptEvents_of_ok (world : World) (scope : Option Scope) {config : Config}
    (mode : Mode) (log : Log) {hasRequest : Bool} {needed : Payload} {keys : List Payload}
    (checked : checkCall config hasRequest needed = .ok keys) :
    world.attemptEvents scope config mode log hasRequest needed =
      world.gatherEvents scope config mode log.tracing (config.alwaysParsed ++ keys) ++
        world.finishEvents scope config log
          (world.gathering scope config mode (config.alwaysParsed ++ keys)) := by
  rw [attemptEvents, checked]

/-! ## The outcome -/

/-- Whether a fault is neither a rejection nor a failed authorization. -/
def Fault.isUnexpected : Fault → Bool
  | .rejection _ => false
  | .authFailure _ => false
  | _ => true

/-- The outcome that a fault comes to, or what the log raises instead. -/
def concluded (log : Log) : Fault → Except Fault Outcome
  | .rejection r => .ok (.ofCode r.code)
  | .authFailure e => .ok (.failure (.fault e) [])
  | e => (log.wording .warning e).map fun _ => .failure (.fault e) []

/-- The notes that a fault gives rise to. -/
def conclusionNotes (mode : Mode) (log : Log) : Fault → List Note
  | .rejection _ => []
  | .authFailure _ => []
  | e => log.notes .warning e (unexpectedNote mode e)

section Unexpected

variable {e : Fault} (unexpected : e.isUnexpected = true) (mode : Mode) (log : Log)

include unexpected

theorem conclude_of_unexpected : conclude mode log e = warn mode log e := by
  cases e <;> first | rfl | cases unexpected

theorem concluded_of_unexpected :
    concluded log e = (log.wording .warning e).map fun _ => .failure (.fault e) [] := by
  cases e <;> first | rfl | cases unexpected

theorem conclusionNotes_of_unexpected :
    conclusionNotes mode log e = log.notes .warning e (unexpectedNote mode e) := by
  cases e <;> first | rfl | cases unexpected

end Unexpected

/-- A fault is a rejection, a failed authorization, or unexpected. -/
theorem Fault.sorted (e : Fault) :
    (∃ r, e = .rejection r) ∨ (∃ inner, e = .authFailure inner) ∨ e.isUnexpected = true := by
  cases e with
  | rejection r => exact .inl ⟨r, rfl⟩
  | authFailure inner => exact .inr (.inl ⟨inner, rfl⟩)
  | _ => exact .inr (.inr rfl)

/-- A fault is concluded from by making the notes that it gives rise to. -/
theorem conclude_eq (mode : Mode) (log : Log) (e : Fault) :
    (conclude mode log e).run =
      (conclusionNotes mode log e).foldr .note (.done (concluded log e)) := by
  rcases e.sorted with ⟨r, rfl⟩ | ⟨inner, rfl⟩ | unexpected
  · rfl
  · rfl
  · rw [conclude_of_unexpected unexpected, conclusionNotes_of_unexpected unexpected,
      concluded_of_unexpected unexpected, warn, Action.report, Log.notes]
    cases log.wording .warning e <;> rfl

/-- How a parse ends that gets so far. -/
def outcomeOf (log : Log) : Except Fault Outcome → Except Fault Outcome
  | .ok outcome => .ok outcome
  | .error e => concluded log e

/-- The notes on a parse that gets so far. -/
def outcomeNotes (mode : Mode) (log : Log) : Except Fault Outcome → List Note
  | .ok _ => []
  | .error e => conclusionNotes mode log e

/-- A fault that is concluded from comes to a failure. -/
theorem exists_failure_of_concluded {log : Log} {e : Fault} {outcome : Outcome}
    (ended : concluded log e = .ok outcome) : ∃ cause, outcome = .failure cause [] := by
  rcases e.sorted with ⟨r, rfl⟩ | ⟨inner, rfl⟩ | unexpected
  · exact ⟨_, (Except.ok.inj ended).symm⟩
  · exact ⟨_, (Except.ok.inj ended).symm⟩
  · rw [concluded_of_unexpected unexpected] at ended
    cases worded : log.wording .warning e with
    | error instead => rw [worded] at ended; cases ended
    | ok words => rw [worded] at ended; exact ⟨_, (Except.ok.inj ended).symm⟩

theorem outcomeOf_eq_success_iff {log : Log} {ending : Except Fault Outcome}
    {result : Extraction} :
    outcomeOf log ending = .ok (.success result) ↔ ending = .ok (.success result) := by
  cases ending with
  | ok outcome => rfl
  | error e =>
    refine iff_of_false (fun ended => ?_) nofun
    obtain ⟨_, same⟩ := exists_failure_of_concluded ended
    cases same

/-- The callback being told about an outcome, if there is a callback. -/
def deliveryEvents (scope : Option Scope) (callsBack : Bool) (outcome : Outcome) : List Event :=
  if callsBack then [.asked (.deliver outcome.delivery) scope] else []

/-- What an outcome comes to once the callback has been told about it. -/
def World.delivered (world : World) (callsBack : Bool) (outcome : Outcome) :
    Except Fault Outcome :=
  if callsBack then (world.receive outcome.delivery).map fun _ => outcome else .ok outcome

/-- The callback may raise a fault, but it has no say in the outcome. -/
theorem eq_of_delivered {world : World} {callsBack : Bool} {outcome found : Outcome}
    (ended : world.delivered callsBack outcome = .ok found) : found = outcome := by
  unfold World.delivered at ended
  cases callsBack with
  | false => exact (Except.ok.inj ended).symm
  | true =>
    cases told : world.receive outcome.delivery with
    | error e => rw [told] at ended; cases ended
    | ok reply => rw [told] at ended; exact (Except.ok.inj ended).symm

/-- The callback being told about the outcome of a parse, if it has come to one. -/
def tellingEvents (scope : Option Scope) (callsBack : Bool) : Except Fault Outcome → List Event
  | .ok outcome => deliveryEvents scope callsBack outcome
  | .error _ => []

/-- What a parse comes to once the callback has been told about its outcome. -/
def World.told (world : World) (callsBack : Bool) (ending : Except Fault Outcome) :
    Except Fault Outcome :=
  ending.bind (world.delivered callsBack)

/-- Telling the callback does not change what a parse comes to. -/
theorem eq_of_told {world : World} {callsBack : Bool} {ending : Except Fault Outcome}
    {found : Outcome} (ended : world.told callsBack ending = .ok found) : ending = .ok found := by
  cases ending with
  | error e => cases ended
  | ok outcome => exact congrArg Except.ok (eq_of_delivered ended).symm

/-! ## Courses amid surroundings -/

namespace Dialogue

variable (around : Surroundings) (scopes : List Scope) (config : Config) (log : Log)

theorem runAmid_conclude (mode : Mode) (e : Fault) :
    (conclude mode log e).run.runAmid around scopes =
      ⟨(conclusionNotes mode log e).map (noteEvent scopes.head?), scopes, concluded log e⟩ := by
  rw [conclude_eq]
  induction conclusionNotes mode log e generalizing around with
  | nil => rfl
  | cons n notes ih => exact congrArg (Course.after _) (ih _)

/-- A parse opens a scope, gets as far as it can, and closes the scope again; it ends with what it
got to. -/
theorem runAmid_parse (mode : Mode) (hasRequest : Bool) (needed : Payload) :
    (parse config mode log hasRequest needed).run.runAmid around scopes =
      let opened := (around []).opening mode.operation :: scopes
      let attempted := (attempt config mode log hasRequest needed).run.runAmid around opened
      ⟨attempted.events ++ (outcomeNotes mode log attempted.value).map (noteEvent opened.head?),
        scopes, outcomeOf log attempted.value⟩ := by
  have kept := (orderly_attempt config mode log hasRequest needed).scopes_runAmid around
    ((around []).opening mode.operation :: scopes)
  unfold parse within
  rw [ExceptT.run_mk, runAmid, bind_bind, runAmid_bind]
  dsimp only
  cases attempted : (attempt config mode log hasRequest needed).run.runAmid around
      ((around []).opening mode.operation :: scopes) with
  | mk events opened ending =>
    rw [attempted] at kept
    subst kept
    cases ending with
    | ok outcome => rfl
    | error e =>
      dsimp only
      rw [runAmid_bind, runAmid_conclude]
      simp [outcomeNotes, outcomeOf, runAmid, Course.after]

theorem runAmid_callBack (callsBack : Bool) (outcome : Outcome) :
    (callBack callsBack outcome).run.runAmid around scopes =
      ⟨deliveryEvents scopes.head? callsBack outcome, scopes,
        ((around []).delivered callsBack outcome).map fun _ => ()⟩ := by
  cases callsBack with
  | false => rfl
  | true =>
    have asks : (callBack true outcome).run =
        .ask (.deliver outcome.delivery) fun answer => .done (answer.map fun _ => ()) :=
      congrArg (Dialogue.ask _) (funext fun answer => by cases answer <;> rfl)
    rw [asks, runAmid]
    unfold World.delivered
    cases answer : (around []).receive outcome.delivery <;>
      simp [World.answer, answer, runAmid, deliveryEvents, Course.after, Except.map]

/-- A parse that waits is a parse, after which the callback is told about the outcome. -/
theorem runAmid_parseThen (hasRequest callsBack : Bool) (needed : Payload) :
    (parseThen config log hasRequest callsBack needed).run.runAmid around scopes =
      let parsed := (parse config .awaiting log hasRequest needed).run.runAmid around scopes
      ⟨parsed.events ++ tellingEvents scopes.head? callsBack parsed.value, scopes,
        (around parsed.events).told callsBack parsed.value⟩ := by
  have kept :
      ((parse config .awaiting log hasRequest needed).run.runAmid around scopes).scopes =
        scopes := by
    rw [runAmid_parse]
  unfold parseThen
  cases parsed : (parse config .awaiting log hasRequest needed).run.runAmid around scopes with
  | mk events opened ending =>
    rw [parsed] at kept
    obtain rfl : opened = scopes := kept
    cases ending with
    | error e =>
      rw [runAmid_bind_of_error parsed]
      simp [tellingEvents, World.told, Except.bind]
    | ok outcome =>
      have told := runAmid_callBack (around.after events) opened callsBack outcome
      have later : (around.after events) [] = around events := by simp [Surroundings.after]
      rw [later] at told
      rw [runAmid_bind_of_ok parsed, runAmid_map_of_eq told fun _ => outcome]
      unfold World.told World.delivered
      cases callsBack with
      | false => rfl
      | true => cases answer : (around events).receive outcome.delivery <;>
          simp [Except.bind, answer, tellingEvents, Course.after] <;> rfl

end Dialogue

/-! ## Courses in a world -/

namespace Dialogue

variable (world : World) (scopes : List Scope) (config : Config) (log : Log)

theorem run_authorizeGathered (gathered : Gathered) :
    (authorizeGathered config log gathered).run.run world scopes =
      match gathered.demand with
      | none => ⟨[], scopes, .ok (.success gathered.result)⟩
      | some demand =>
        ⟨world.principalEvents scopes.head? config log demand.optional, scopes,
          (world.principal scopes.head? config log demand.optional).map fun principal =>
            .success { gathered.result with authorization := principal }⟩ := by
  unfold authorizeGathered
  cases gathered.demand with
  | none => rfl
  | some demand =>
    have asked : (readSection (.field .headers)).run.run world scopes =
        ⟨[.asked (.member Section.headers.name) scopes.head?], scopes,
          world.sectionPayload .headers⟩ :=
      run_readSection world scopes .headers
    unfold World.principalEvents World.principal
    cases read : world.sectionPayload .headers with
    | error e =>
      rw [read] at asked
      exact run_bind_of_error asked _
    | ok headers =>
      rw [read] at asked
      have authorized := run_authorize world scopes log config.authorizer headers
        demand.optional
      apply (run_bind_of_ok asked _).trans
      dsimp only
      cases settled : settledPrincipal log demand.optional
          (world.awaited scopes.head? config.authorizer (givenHeaders headers)) with
      | error e =>
        rw [settled] at authorized
        rw [run_bind_of_error authorized]
        rfl
      | ok principal =>
        rw [settled] at authorized
        rw [run_bind_of_ok authorized, run_pure, Course.after_mk, Course.after_mk,
          List.append_nil]
        rfl

theorem run_finishGathering (ending : Except Stop Gathered) :
    (finishGathering config log ending).run.run world scopes =
      ⟨world.finishEvents scopes.head? config log ending, scopes,
        world.finish scopes.head? config log ending⟩ := by
  cases ending with
  | error stop => cases stop <;> rfl
  | ok gathered =>
    unfold finishGathering World.finishEvents World.finish
    by_cases found : gathered.errors.isEmpty = true
    · simp only [found, if_true, run_authorizeGathered]
      cases gathered.demand <;> rfl
    · simp only [found]
      rfl

theorem run_attempt (mode : Mode) (hasRequest : Bool) (needed : Payload) :
    (attempt config mode log hasRequest needed).run.run world scopes =
      ⟨world.attemptEvents scopes.head? config mode log hasRequest needed, scopes,
        world.attemptEnding scopes.head? config mode log hasRequest needed⟩ := by
  unfold attempt World.attemptEvents World.attemptEnding
  cases checkCall config hasRequest needed with
  | error e => rfl
  | ok keys =>
    have collected : (ExceptT.lift
        (gather config mode log.tracing (config.alwaysParsed ++ keys)).run :
          Action (Except Stop Gathered)).run.run world scopes = _ := run_lift _
    rw [run_gather] at collected
    apply (run_bind_of_ok collected _).trans
    rw [run_finishGathering]
    rfl

/-- A parse in a world that does not change: it ends with what it got to in that world. -/
theorem run_parse (mode : Mode) (hasRequest : Bool) (needed : Payload) :
    (parse config mode log hasRequest needed).run.run world scopes =
      let scope := some (world.opening mode.operation)
      let ending := world.attemptEnding scope config mode log hasRequest needed
      ⟨world.attemptEvents scope config mode log hasRequest needed ++
          (outcomeNotes mode log ending).map (noteEvent scope),
        scopes, outcomeOf log ending⟩ := by
  have amid := runAmid_parse (fun _ => world) scopes config log mode hasRequest needed
  simp only [runAmid_const, run_attempt] at amid
  exact amid

/-- A parse that waits is a parse, after which the callback is told, in a world as well. -/
theorem run_parseThen (hasRequest callsBack : Bool) (needed : Payload) :
    (parseThen config log hasRequest callsBack needed).run.run world scopes =
      let course := (parse config .awaiting log hasRequest needed).run.run world scopes
      ⟨course.events ++ tellingEvents scopes.head? callsBack course.value, scopes,
        world.told callsBack course.value⟩ := by
  have amid := runAmid_parseThen (fun _ => world) scopes config log hasRequest callsBack needed
  simp only [runAmid_const] at amid
  exact amid

end Dialogue

/-! ## The parses of a host -/

namespace Host

variable (host : Host) (scopes : List Scope) (config : Config) (call : Call)

/-- The scope that a parse opens. -/
def scope (mode : Mode) : Option Scope :=
  some (.opening host.clock none (some mode.operation))

/-- How far a parse gets. -/
def ending (callback : Option Callback) (mode : Mode) : Except Fault Outcome :=
  (host.world call.request callback).attemptEnding (host.scope mode) config mode host.log
    call.request.isPresent call.needed

/-- What happens in a parse. -/
def parseEvents (callback : Option Callback) (mode : Mode) : List Event :=
  (host.world call.request callback).attemptEvents (host.scope mode) config mode host.log
      call.request.isPresent call.needed ++
    (outcomeNotes mode host.log (host.ending config call callback mode)).map
      (noteEvent (host.scope mode))

theorem parseNow_eq :
    host.parseNow scopes config call =
      ⟨host.parseEvents config call none .immediate, scopes,
        outcomeOf host.log (host.ending config call none .immediate)⟩ :=
  Dialogue.run_parse (host.world call.request none) scopes config host.log .immediate
    call.request.isPresent call.needed

theorem parseWaiting_eq (callback : Option Callback) :
    host.parseWaiting scopes config call callback =
      ⟨host.parseEvents config call callback .awaiting ++
          tellingEvents scopes.head? callback.isSome
            (outcomeOf host.log (host.ending config call callback .awaiting)),
        scopes,
        (host.world call.request callback).told callback.isSome
          (outcomeOf host.log (host.ending config call callback .awaiting))⟩ := by
  refine (Dialogue.run_parseThen (host.world call.request callback) scopes config host.log
    call.request.isPresent callback.isSome call.needed).trans ?_
  rw [Dialogue.run_parse]
  rfl

end Host

end Intake
