import Intake.Proofs.Checking
import Intake.Proofs.Codes
import Intake.Proofs.Collecting
import Intake.Proofs.Faults
import Intake.Proofs.Sanitizing

/-!
# What the codes of a failure tell

A key fails in the world that it finds if its first letter stands for no source, or if it names a
field that is missing there: `World.Fails` says so, with the error that this is. A parse that fails
over its fields goes through all of its keys, and lists a code for each key that fails, from which
the error can be read: `Explains` walks along the keys and the codes side by side.

No other failure lists any codes (`Scene.Decodes.listed`). Conversely, the code of failures over
fields stands alone only if it has come from outside, with a rejection that the sanitizer or a
member of the request raised, or one that was raised over the words for a fault of the authorizer
(`Scene.Decodes.unlisted`). For that, a list that is stopped by a rejection is followed to the query
that was answered with it (`Surroundings.raisesLast_tour`).

`failures_can_be_decoded` is the main statement.
-/

namespace Intake

/-! ## Keys that fail -/

/-- A field is missing if its section is absent, or if it is required and the section does not have
it. -/
def World.Lacks (world : World) (s : Section) (name : String) (optional : Bool) : Prop :=
  world.entry s (Reading.lookupName s name) = .ok none ∨
    world.entry s (Reading.lookupName s name) = .ok (some none) ∧ optional = false

/-- Why a key, which is a text, fails in the world that it finds. -/
inductive World.Fails (world : World) (config : Config) (mode : Mode) :
    Payload → FieldError → Prop
  | unknownSource {key : String} (reads : Reading.ofKey config mode (.text key) = .unknown key) :
      Fails world config mode (.text key) (.unknownSource key)
  | missing {key name : String} {s : Section} {sanitize optional : Bool}
      (reads : Reading.ofKey config mode (.text key) = .field s sanitize optional name)
      (lacks : world.Lacks s name optional) :
      Fails world config mode (.text key) (.missing s name)

/-- A text of an unknown source is told in full. -/
theorem Reading.eq_of_unknown {config : Config} {mode : Mode} {key told : String}
    (reads : ofKey config mode (.text key) = .unknown told) : told = key := by
  cases letters : key.toList with
  | nil =>
    rw [ofKey, letters] at reads
    exact (Reading.unknown.inj reads).symm
  | cons letter rest =>
    by_cases principal : letter = 'A'
    · subst principal
      simp only [ofKey, letters, ofCharacters] at reads
      split at reads
      · cases reads
      · split at reads <;> cases reads
    · rw [ofKey, letters, ofCharacters_other config mode key principal] at reads
      split at reads
      · cases reads
      · split at reads <;> cases reads
        rfl

/-- A field is refused when it is missing. -/
theorem Reading.error?_verdict_field {world : World} {scope : Option Scope} {config : Config}
    {s : Section} {sanitize optional : Bool} {name : String} {error : FieldError} :
    ((Reading.field s sanitize optional name).verdict world scope config).error? = some error ↔
      world.Lacks s name optional ∧ error = .missing s name := by
  unfold World.Lacks
  rcases entry : world.entry s (lookupName s name) with e | _ | _ | value
  · rw [verdict_of_unread entry]
    simp [Verdict.error?]
  · rw [verdict_of_sectionless entry]
    simp [Verdict.error?, eq_comm]
  · rw [verdict_of_missing entry]
    cases optional <;> simp [Verdict.error?, eq_comm]
  · rw [verdict_of_value entry]
    cases world.cleaned scope config sanitize value <;> simp [Verdict.error?]

theorem World.fails_text_iff {world : World} {config : Config} {mode : Mode}
    (scope : Option Scope) {key : String} {error : FieldError} :
    world.Fails config mode (.text key) error ↔
      (world.verdictOf scope config mode (.text key)).error? = some error := by
  rw [World.verdictOf_eq]
  apply Iff.intro
  · intro fails
    cases fails with
    | unknownSource reads => rw [reads]; rfl
    | missing reads lacks =>
      rw [reads]
      exact Reading.error?_verdict_field.2 ⟨lacks, rfl⟩
  · intro refused
    cases reads : Reading.ofKey config mode (.text key) with
    | unmet code => rw [reads] at refused; cases refused
    | unreadable e => rw [reads] at refused; cases refused
    | principal optional => rw [reads] at refused; cases refused
    | unknown told =>
      cases Reading.eq_of_unknown reads
      rw [reads] at refused
      cases refused
      exact .unknownSource reads
    | field s sanitize optional name =>
      rw [reads] at refused
      obtain ⟨lacks, rfl⟩ := Reading.error?_verdict_field.1 refused
      exact .missing reads lacks

/-- Keys and codes side by side: there is a code for every key that fails, from which the error can
be read, and no code for any other key. -/
inductive Explains (config : Config) (mode : Mode) : List (World × Payload) → List String → Prop
  | nil : Explains config mode [] []
  | provided {world : World} {key : Payload} {visits : List (World × Payload)}
      {codes : List String} (fine : ∀ error, ¬ world.Fails config mode key error)
      (later : Explains config mode visits codes) :
      Explains config mode ((world, key) :: visits) codes
  | failed {world : World} {key : Payload} {error : FieldError} {code : String}
      {visits : List (World × Payload)} {codes : List String}
      (fails : world.Fails config mode key error)
      (decoded : FieldError.ofCode? code = some error)
      (later : Explains config mode visits codes) :
      Explains config mode ((world, key) :: visits) (code :: codes)

/-- The codes of the errors that are noted down explain which keys failed. -/
theorem explains_verdicts (scope : Option Scope) (config : Config) (mode : Mode)
    {visits : List (World × Payload)} (texts : ∀ visit ∈ visits, ∃ key, visit.2 = .text key) :
    Explains config mode visits
      (((visits.map fun visit => visit.1.verdictOf scope config mode visit.2).filterMap
        Verdict.error?).map FieldError.code) := by
  induction visits with
  | nil => exact .nil
  | cons visit visits ih =>
    obtain ⟨world, key⟩ := visit
    obtain ⟨⟨key, rfl⟩, others⟩ := List.forall_mem_cons.1 texts
    have later := ih others
    rw [List.map_cons]
    cases refused : (world.verdictOf scope config mode (.text key)).error? with
    | none =>
      rw [List.filterMap_cons_none refused]
      refine .provided (fun error fails => ?_) later
      rw [World.fails_text_iff scope, refused] at fails
      cases fails
    | some error =>
      rw [List.filterMap_cons_some refused, List.map_cons]
      exact .failed ((World.fails_text_iff scope).2 refused)
        (FieldError.ofCode?_eq_some_iff.2 rfl) later

/-! ## Rejections from outside -/

theorem World.visitEvents_of_reads (world : World) (scope : Option Scope) {config : Config}
    (tracing : Bool) {key : Payload} {s : Section} {spec : Specifier}
    (reads : config.Reads key (some (.field s)) spec) :
    world.visitEvents scope config tracing key =
      traceEvents scope tracing spec ++ .asked (.member s.name) scope ::
        (world.fieldCalls config s spec.lookupName spec.sanitize).map (callEvent scope) := by
  unfold visitEvents specifierEvents specifierCalls
  rw [reads.compiled]
  dsimp only
  rw [reads.source]
  rfl

/-- A section whose entries are a fault has been answered with it. -/
theorem World.member_of_entry_eq_error {world : World} {s : Section} {name : String} {e : Fault}
    (entry : world.entry s name = .error e) : world.member s.name = .error e := by
  unfold World.entry at entry
  cases read : world.member s.name with
  | error other => rw [read] at entry; cases entry; rfl
  | ok value => rw [read] at entry; cases entry

/-- A rejection that the sanitizer yields is its answer when it is called. -/
theorem World.answer_of_sanitized {world : World} {scope : Option Scope} {config : Config}
    {value : Payload} {r : Rejection}
    (answered : world.sanitized scope config value = .error (.rejection r)) :
    ∃ f, config.sanitizer = .function f ∧
      world.answer scope (.call f value) = .error (.rejection r) := by
  unfold World.sanitized at answered
  cases sanitizer : config.sanitizer with
  | function f =>
    rw [sanitizer] at answered
    exact ⟨f, rfl, answered⟩
  | _ => rw [sanitizer] at answered; cases answered

namespace Surroundings

variable {around : Surroundings} {scope : Option Scope} {scopes : List Scope} {config : Config}
  {mode : Mode} {tracing : Bool} {key : Payload} {keys : List Payload} {events : List Event}
  {r : Rejection}

/-- The last event asks a member of the request, or the sanitizer, which raises a fault. -/
def RaisesLast (around : Surroundings) (scope : Option Scope) (config : Config)
    (events : List Event) (e : Fault) : Prop :=
  ∃ before q, events = before ++ [.asked q scope] ∧ q.Gathers config ∧
    (around before).answer scope q = .error e

theorem RaisesLast.after {e : Fault} (earlier : List Event)
    (raises : (around.after earlier).RaisesLast scope config events e) :
    around.RaisesLast scope config (earlier ++ events) e := by
  obtain ⟨before, q, rfl, gathers, answered⟩ := raises
  exact ⟨earlier ++ before, q, (List.append_assoc _ _ _).symm, gathers, answered⟩

theorem facing_of_reads (around : Surroundings) (scope : Option Scope) (tracing : Bool)
    {s : Section} {spec : Specifier} (reads : config.Reads key (some (.field s)) spec) :
    around.facing scope config tracing key =
      (around.after (traceEvents scope tracing spec)).forField scope s := by
  unfold facing forSpecifier
  rw [reads.compiled]
  dsimp only
  rw [reads.source]

/-- A key that stops a list with a rejection has been answered with it. -/
theorem raisesLast_visit
    (stops : ((around.facing scope config tracing key).verdictOf scope config mode key).stop? =
      some (.fault (.rejection r))) :
    around.RaisesLast scope config
      ((around.facing scope config tracing key).visitEvents scope config tracing key)
      (.rejection r) := by
  have handled := (around.facing scope config tracing key).handles scope config mode key
  generalize (around.facing scope config tracing key).verdictOf scope config mode key = verdict,
    (around.facing scope config tracing key).occasion? config key = occasion at handled stops
  cases handled with
  | @unread spec s e reads entry =>
    cases stops
    -- The section was the last that was asked for.
    rw [World.visitEvents_of_reads _ _ _ reads, World.fieldCalls, entry]
    refine ⟨traceEvents scope tracing spec, .member s.name, rfl, trivial, ?_⟩
    rw [facing_of_reads _ _ _ reads] at entry
    have read : (around (traceEvents scope tracing spec ++ [])).member s.name =
        .error (.rejection r) := World.member_of_entry_eq_error entry
    rwa [List.append_nil] at read
  | @raised spec s value e reads entry marked present exposed answered =>
    cases stops
    -- The sanitizer was called after the section had been read.
    obtain ⟨f, sanitizer, response⟩ := World.answer_of_sanitized answered
    have cleaner : config.cleaner? spec.sanitize value = some f := by
      simp [Config.cleaner?, Config.leavesAlone, marked, present, exposed, sanitizer]
    rw [World.visitEvents_of_reads _ _ _ reads, World.fieldCalls, entry]
    refine ⟨traceEvents scope tracing spec ++ [.asked (.member s.name) scope], .call f value, ?_,
      sanitizer, ?_⟩
    · simp [cleaner, callEvent]
    · rw [facing_of_reads _ _ _ reads] at response
      exact response
  | untold untold =>
    cases stops
    cases Payload.asText_eq_error untold
  | _ => cases stops

/-- A list that is stopped by a rejection has been answered with it, and nothing was asked after
that. -/
theorem raisesLast_tour
    (stops : (around.verdicts scopes config mode tracing keys).findSome? Verdict.stop? =
      some (.fault (.rejection r))) :
    around.RaisesLast scopes.head? config
      ((around.tour scopes.head? config mode tracing keys).flatMap fun visit =>
        visit.1.visitEvents scopes.head? config tracing visit.2)
      (.rejection r) := by
  induction keys generalizing around with
  | nil => cases stops
  | cons key rest ih =>
    rw [verdicts, tour, List.map_cons, List.findSome?_cons] at stops
    rw [tour, List.flatMap_cons]
    cases stop : ((around.facing scopes.head? config tracing key).verdictOf scopes.head? config mode
        key).stop? with
    | some first =>
      simp only [stop] at stops ⊢
      cases stops
      rw [List.flatMap_nil, List.append_nil]
      exact raisesLast_visit stop
    | none =>
      simp only [stop] at stops ⊢
      exact (ih stops).after _

end Surroundings

/-! ## Failures -/

/-- A rejection of the call is not reported as a failure over fields. -/
theorem Call.Refused.code_ne_fieldErrors {config : Config} {call : Call} {r : Rejection}
    (refused : call.Refused config (.rejection r)) : r.code ≠ ErrorCode.fieldErrors.text := by
  generalize raised : Fault.rejection r = e at refused
  have other : ∀ code : FailureCode, code ≠ .fixed .fieldErrors →
      code.text ≠ ErrorCode.fieldErrors.text :=
    fun code differ same => differ (FailureCode.text_injective same)
  cases refused with
  | unlisted => cases raised; exact other (.fixed .specifiersNotListed) (by decide)
  | absent => cases raised; exact other (.fixed .noRequest) (by decide)
  | idle => cases raised; exact other (.fixed .nothingRequested) (by decide)
  | @improper _ _ key =>
    rcases refusedKey_cases key with ⟨text, shown, -, refuses⟩ | ⟨-, fails⟩
    · cases raised.trans refuses
      exact other (.grammar text) nofun
    · cases raised.trans fails

/-- No list is stopped for good under the code of failures over fields. -/
theorem World.ne_fieldErrors_of_fatal {world : World} {scope : Option Scope} {config : Config}
    {mode : Mode} {key : Payload} {code : ErrorCode}
    (stops : (world.verdictOf scope config mode key).stop? = some (.fatal code)) :
    code ≠ .fieldErrors := by
  have handled := world.handles scope config mode key
  generalize world.verdictOf scope config mode key = verdict,
    world.occasion? config key = occasion at handled stops
  cases handled with
  | fatal fatal => cases stops; cases fatal <;> decide
  | _ => cases stops

theorem text_eq_of_failure_eq {code other : String} {codes others : List String}
    (same : Outcome.failure (.code code) codes = .failure (.code other) others) :
    code = other := by
  injection same with cause
  injection cause with value
  injection value

namespace Scene

variable (scene : Scene) (scopes : List Scope) (config : Config) (needed : Payload)
  (callback : Option Callback) (mode : Mode)

/-- The keys of a parse that are visited, those that are always carried out ahead of those listed,
each with the world that it finds. -/
def visits (keys : List Payload) : List (World × Payload) :=
  (scene.around callback).tour (scene.opened scopes mode).head? config mode
    (scene.host []).log.tracing (config.alwaysParsed ++ keys)

/-- A fault is raised from outside: a member of the request, or the sanitizer, raises it when it is
asked, or it is raised when a fault of the authorizer is put into words. -/
inductive Raised (events : List Event) : Fault → Prop
  | answered {before later : List Event} {q : Query} {scope : Option Scope} {e : Fault}
      (split : events = before ++ .asked q scope :: later) (gathers : q.Gathers config)
      (answered : (scene.around callback before).answer scope q = .error e) : Raised events e
  | wording {past : List Event} {scope : Option Scope} {given : Payload} {optional : Bool}
      {inner e : Fault} (passed : past <+: events)
      (answered : (scene.around callback past).awaited scope config.authorizer given = .error inner)
      (wordless : (scene.host []).log.Wordless optional inner e) : Raised events e

/-- What can be told from the codes of a parse. -/
structure Decodes (outcome : Outcome) (events : List Event) : Prop where
  /-- The codes of fields explain, key by key, which of the keys failed, and why. -/
  explained : ∀ keys, needed.Lists keys →
    (∀ key ∈ config.alwaysParsed ++ keys, ∃ text, key = .text text) →
    ∀ cause codes, outcome = .failure cause codes → codes ≠ [] →
      (scene.visits scopes config callback mode keys).map Prod.snd = config.alwaysParsed ++ keys ∧
        Explains config mode (scene.visits scopes config callback mode keys) codes
  /-- Only a failure over fields lists codes of fields. -/
  listed : ∀ cause codes, outcome = .failure cause codes → codes ≠ [] →
    cause = .code "parser_error"
  /-- A failure over fields lists codes of fields, unless its code comes from outside. -/
  unlisted : outcome = .failure (.code "parser_error") [] →
    ∃ r, r.code = "parser_error" ∧ scene.Raised config callback events (.rejection r)

variable {scene scopes config needed callback mode} {events : List Event}

theorem Raised.append {e : Fault} (raised : scene.Raised config callback events e)
    (more : List Event) : scene.Raised config callback (events ++ more) e := by
  cases raised with
  | @answered before later q scope e split gathers answered =>
    have further : events ++ more = before ++ .asked q scope :: (later ++ more) := by
      rw [split, List.append_assoc, List.cons_append]
    exact .answered further gathers answered
  | wording passed answered wordless =>
    exact .wording (passed.trans (List.prefix_append _ _)) answered wordless

theorem Decodes.append {outcome : Outcome}
    (decodes : scene.Decodes scopes config needed callback mode outcome events)
    (more : List Event) :
    scene.Decodes scopes config needed callback mode outcome (events ++ more) := by
  refine ⟨decodes.explained, decodes.listed, fun alone => ?_⟩
  obtain ⟨r, code, raised⟩ := decodes.unlisted alone
  exact ⟨r, code, raised.append more⟩

/-- An outcome that lists nothing has nothing to explain. -/
theorem decodes_of_silent {outcome : Outcome}
    (silent : ∀ cause codes, outcome = .failure cause codes → codes = [])
    (outside : outcome = .failure (.code "parser_error") [] →
      ∃ r, r.code = "parser_error" ∧ scene.Raised config callback events (.rejection r)) :
    scene.Decodes scopes config needed callback mode outcome events where
  explained _ _ _ cause codes same listed := absurd (silent cause codes same) listed
  listed cause codes same listed := absurd (silent cause codes same) listed
  unlisted := outside

theorem decodes_success (result : Extraction) :
    scene.Decodes scopes config needed callback mode (.success result) events :=
  decodes_of_silent nofun nofun

theorem decodes_code {code : ErrorCode} (other : code ≠ .fieldErrors) :
    scene.Decodes scopes config needed callback mode (.ofCode code.text) events := by
  refine decodes_of_silent (fun cause codes same => ?_) fun same => ?_
  · cases same
    rfl
  · have text : code.text = ErrorCode.fieldErrors.text := text_eq_of_failure_eq same
    exact absurd (ErrorCode.text_injective text) other

/-- If the code that a fault comes to is that of failures over fields, it has come from outside. -/
theorem decodes_concluded {log : Log} {e : Fault} {outcome : Outcome}
    (ended : concluded log e = .ok outcome)
    (outside : ∀ r, e = .rejection r → r.code = "parser_error" →
      scene.Raised config callback events (.rejection r)) :
    scene.Decodes scopes config needed callback mode outcome events := by
  obtain ⟨cause, rfl⟩ := exists_failure_of_concluded ended
  refine decodes_of_silent (fun other codes same => ?_) fun same => ?_
  · cases same
    rfl
  · cases same
    rcases e.sorted with ⟨r, rfl⟩ | ⟨inner, rfl⟩ | unexpected
    · have code : r.code = "parser_error" := text_eq_of_failure_eq (Except.ok.inj ended)
      exact ⟨r, code, outside r rfl code⟩
    · cases ended
    · rw [concluded_of_unexpected unexpected] at ended
      cases worded : log.wording .warning e <;> rw [worded] at ended <;> cases ended

/-! ### After gathering -/

/-- Gathering goes through the visits, and comes to the outcome of the verdicts on them. -/
theorem gathering_eq (scene : Scene) (scopes : List Scope) (config : Config)
    (callback : Option Callback) (mode : Mode) (keys : List Payload) :
    scene.gathering scopes config callback mode (config.alwaysParsed ++ keys) =
      ⟨(scene.visits scopes config callback mode keys).flatMap fun visit =>
          visit.1.visitEvents (scene.opened scopes mode).head? config
            (scene.host []).log.tracing visit.2,
        scene.opened scopes mode,
        Verdict.outcome (scene.verdicts scopes config callback mode keys)⟩ :=
  Dialogue.runAmid_gather (scene.around callback) (scene.opened scopes mode) config mode _ _

/-- All keys are visited if no verdict stops the list. -/
theorem map_snd_visits {keys : List Payload}
    (onward : ∀ verdict ∈ scene.verdicts scopes config callback mode keys, verdict.stop? = none) :
    (scene.visits scopes config callback mode keys).map Prod.snd = config.alwaysParsed ++ keys := by
  rcases ((scene.around callback).toured (scene.opened scopes mode) config mode
    (scene.host []).log.tracing (config.alwaysParsed ++ keys)).ends with
    all | ⟨verdict, last, stops⟩
  · exact all
  · rw [onward verdict (List.mem_of_getLast? last)] at stops
    cases stops

/-- A list that was gathered in full explains its errors. -/
theorem decodes_incomplete {keys : List Payload} {gathered : Gathered}
    (listed : needed.Lists keys)
    (collected : (scene.gathering scopes config callback mode (config.alwaysParsed ++ keys)).value =
      .ok gathered)
    (missing : gathered.errors ≠ []) :
    scene.Decodes scopes config needed callback mode (.ofFieldErrors gathered.errors) events := by
  rw [gathering_eq] at collected
  obtain ⟨onward, rfl⟩ := Verdict.outcome_eq_ok_iff.1 collected
  have all := map_snd_visits onward
  refine ⟨fun others lists texts cause codes same _ => ?_, fun cause codes same _ => ?_,
    fun same => ?_⟩
  · cases lists.unique listed
    cases same
    refine ⟨all, explains_verdicts _ config mode fun visit visited => texts visit.2 ?_⟩
    rw [← all]
    exact List.mem_map_of_mem visited
  · cases same
    rfl
  · injection same with _ nothing
    exact absurd (List.map_eq_nil_iff.1 nothing) missing

/-- A list that was stopped for good was not stopped under the code of failures over fields. -/
theorem ne_fieldErrors_of_gathering {keys : List Payload} {code : ErrorCode}
    (stopped : (scene.gathering scopes config callback mode (config.alwaysParsed ++ keys)).value =
      .error (.fatal code)) :
    code ≠ .fieldErrors := by
  rw [gathering_eq] at stopped
  obtain ⟨verdict, judged, stops⟩ :=
    List.exists_of_findSome?_eq_some (Verdict.outcome_eq_error_iff.1 stopped)
  obtain ⟨visit, -, rfl⟩ := List.mem_map.1 judged
  exact World.ne_fieldErrors_of_fatal stops

/-- A list that was stopped by a rejection was answered with it. -/
theorem raised_of_gathering {keys : List Payload} {r : Rejection}
    (stopped : (scene.gathering scopes config callback mode (config.alwaysParsed ++ keys)).value =
      .error (.fault (.rejection r))) :
    scene.Raised config callback
      (scene.gathering scopes config callback mode (config.alwaysParsed ++ keys)).events
      (.rejection r) := by
  rw [gathering_eq] at stopped ⊢
  obtain ⟨before, q, split, gathers, answered⟩ :=
    Surroundings.raisesLast_tour (Verdict.outcome_eq_error_iff.1 stopped)
  exact .answered split gathers answered

/-- Headers that cannot be read were answered with a fault. -/
theorem raised_of_unread {scope : Option Scope} {e : Fault}
    (unread : (((scene.around callback).after events) []).sectionPayload .headers = .error e) :
    scene.Raised config callback (events ++ [.asked (.member Section.headers.name) scope]) e := by
  refine .answered rfl (q := .member Section.headers.name) trivial ?_
  rw [sectionPayload_after] at unread
  cases read : (scene.request events).read Section.headers.name with
  | error other => rw [read] at unread; cases unread; exact read
  | ok value => rw [read] at unread; cases unread

theorem decodes_attempt {outcome : Outcome}
    (ended : outcomeOf (scene.host []).log
      (scene.attempt scopes config needed callback mode).value = .ok outcome) :
    scene.Decodes scopes config needed callback mode outcome
      (scene.attempt scopes config needed callback mode).events := by
  cases checked : checkCall config (scene.request []).isPresent needed with
  | error fault =>
    rw [attempt_of_refused scopes callback mode checked] at ended
    refine decodes_concluded ended fun r same code => ?_
    subst same
    have refused : Call.Refused config ⟨scene.request [], needed⟩ (.rejection r) :=
      checkCall_eq_error_iff.1 checked
    exact absurd code refused.code_ne_fieldErrors
  | ok keys =>
    obtain ⟨finishing, course, finished⟩ := attempt_of_accepted scopes callback mode checked
    have listed := Payload.sequence?_eq_some_iff.1 (checkCall_eq_ok_iff.1 checked).1
    rw [course, Course.after_value] at ended
    rw [course, Course.after_events]
    generalize collected : (scene.gathering scopes config callback mode
      (config.alwaysParsed ++ keys)).value = ending at finished
    cases finished with
    | fatal code =>
      cases ended
      exact decodes_code (ne_fieldErrors_of_gathering collected)
    | fault e =>
      refine decodes_concluded ended fun r same _ => ?_
      subst same
      exact (raised_of_gathering collected).append _
    | incomplete missing =>
      cases ended
      exact decodes_incomplete listed collected missing
    | undemanding =>
      cases ended
      exact decodes_success _
    | unread complete demanded unread =>
      exact decodes_concluded ended fun r same _ => same ▸ raised_of_unread unread
    | @authorized _ demand headers answer complete demanded read answered =>
      cases settled : settledPrincipal (scene.host []).log demand.optional answer with
      | ok principal =>
        rw [settled] at ended
        cases ended
        exact decodes_success _
      | error e =>
        rw [settled] at ended
        refine decodes_concluded ended fun r same code => ?_
        subst same
        rcases settledPrincipal_eq_error settled with ⟨inner, same⟩ | same | ⟨inner, rfl, wordless⟩
        · cases same
        · cases same
          exact absurd code (by decide)
        · refine .wording ((List.prefix_append_right_inj _).2 ?_) answered wordless
          exact consultingEvents_prefix _ _ _ _

end Scene

/-- Failures can be decoded from their codes. No two codes are written down alike, whatever they
carry, and reading one gives back what was written. In every scene, so whatever the collaborators
and the members of the request answer, the codes that a parse at once or a parse that waits lists
explain key by key which of the keys failed, and why; only a failure over fields lists any; and it
always does, unless its code was raised from outside. -/
theorem failures_can_be_decoded :
    (∀ code other : FailureCode, code.text = other.text → code = other) ∧
    (∀ text code, FailureCode.ofText? text = some code ↔ code.text = text) ∧
    ∀ (scene : Scene) (scopes : List Scope) (config : Config) (needed : Payload)
      (callback : Option Callback),
      let now := scene.parseNow scopes config needed
      let waiting := scene.parseWaiting scopes config needed callback
      (∀ outcome, now.value = .ok outcome →
          scene.Decodes scopes config needed none .immediate outcome now.events) ∧
        ∀ outcome, waiting.value = .ok outcome →
          scene.Decodes scopes config needed callback .awaiting outcome waiting.events := by
  refine ⟨fun code other => FailureCode.text_injective,
    fun text code => FailureCode.ofText?_eq_some_iff, ?_⟩
  intro scene scopes config needed callback now waiting
  have nowRun : now = ⟨_, _, _⟩ := scene.parseNow_eq scopes config needed
  have waitingRun : waiting = ⟨_, _, _⟩ := scene.parseWaiting_eq scopes config needed callback
  rw [nowRun, waitingRun]
  refine ⟨fun outcome ended => (Scene.decodes_attempt ended).append _, fun outcome ended => ?_⟩
  exact ((Scene.decodes_attempt (eq_of_told ended)).append _).append _

/-- The request has neither the first field nor the section of the last one. The names are made up
to look like codes, which does not matter. -/
theorem failures_can_be_decoded_sample :
    let scene := Scene.still wrappingHost sampleRequest
    let keys : List Payload := [.text "Bx_missing_y", .text "Zbody_missing_x", .text "Ba",
      .text "Qregex_error_"]
    let now := scene.parseNow [] sampleConfig (.list keys)
    let codes := ["body_missing_x_missing_y", "incorrectKey_Zbody_missing_x",
      "query_missing_regex_error_"]
    now.value = .ok (.failure (.code "parser_error") codes) ∧
      codes.map FieldError.ofCode? = [some (.missing .body "x_missing_y"),
        some (.unknownSource "Zbody_missing_x"), some (.missing .query "regex_error_")] ∧
      Explains sampleConfig .immediate (scene.visits [] sampleConfig none .immediate keys)
        codes := by
  intro scene keys now codes
  have failed : now.value = .ok (.failure (.code "parser_error") codes) := by rfl
  have texts : ∀ key ∈ sampleConfig.alwaysParsed ++ keys, ∃ text, key = .text text := by
    intro key listed
    simp only [sampleConfig, keys, List.cons_append, List.nil_append, List.mem_cons,
      List.not_mem_nil, or_false] at listed
    rcases listed with rfl | rfl | rfl | rfl | rfl <;> exact ⟨_, rfl⟩
  obtain ⟨-, -, parses⟩ := failures_can_be_decoded
  have decodes := (parses scene [] sampleConfig (.list keys) none).1 _ failed
  exact ⟨failed, by decide,
    (decodes.explained keys (.list keys) texts _ codes rfl (by decide)).2⟩

/-- The code of failures over fields stands alone when the sanitizer raises it. -/
example :
    let r : Rejection := ⟨.general "parser_error" none "medium", .unknown⟩
    let host : Host :=
      ⟨⟨fun _ _ _ => .error (.rejection r), fun _ => 0, fun _ e => e.message⟩, .unset, ⟨0, ""⟩⟩
    ((Scene.still host sampleRequest).parseNow [] sampleConfig (.list [.text "B*a"])).value =
      .ok (.failure (.code "parser_error") []) := by
  rfl

end Intake
