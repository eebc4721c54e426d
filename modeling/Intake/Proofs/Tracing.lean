import Intake.Proofs.Admission
import Intake.Proofs.Likeness

/-!
# Tracing

With debugging switched on a parse makes a note of each specifier that it reads, and that is all the
difference. Two things are to be shown. The one is about two parses: surroundings that do not look
at traces (`Surroundings.Overlook`) answer both alike, so that both come to the same through the
same events, apart from traces (`Dialogue.Annotates.runAmid`). The other is about the parse with
tracing alone: `Surroundings.Obtains` says which specifiers a list yields, in terms of what becomes
of a parse without tracing, and `Dialogue.exists_obtained` that these and no others leave a trace.

`tracing_observes` puts this together for a parse in either mode, with the scope of all records, and
with the only other thing that a parse notes for debugging: the fault of an authorizer that is
suppressed (`Scene.Suppresses`).
-/

namespace Intake

/-! ## Traces -/

/-- Whether a note is one that a specifier has been read. -/
def Note.isTrace (n : Note) : Bool :=
  n.level == .debug && "Compiled specifier ".toList.isPrefixOf n.message.toList

/-- What tracing has added, if an event is of that kind. -/
def Event.trace? : Event → Option Record
  | .recorded r => if r.note.isTrace then some r else none
  | .asked _ _ => none

/-- What is recorded for debugging, traces included. -/
def Event.debug? : Event → Option Record
  | .recorded r => if r.note.level = .debug then some r else none
  | .asked _ _ => none

/-- The events without what tracing has added. -/
def Event.untraced (events : List Event) : List Event :=
  events.filter fun event => event.trace?.isNone

theorem isTrace_compiledNote (spec : Specifier) : (compiledNote spec).isTrace = true := by
  have begun : "Compiled specifier ".toList <+: (compiledNote spec).message.toList := by
    simp only [compiledNote, Note.debug, String.append_assoc, String.toList_append]
    exact List.prefix_append _ _
  rw [Note.isTrace, List.isPrefixOf_iff_prefix.2 begun]
  rfl

theorem isTrace_authorizationFailedNote (words : String) :
    (authorizationFailedNote words).isTrace = false := by
  have begun : (authorizationFailedNote words).message.toList =
      "Optional authorization failed, continuing without principal: ".toList ++ words.toList :=
    String.toList_append
  rw [Note.isTrace, begun]
  rfl

namespace Event

variable {event : Event}

theorem trace?_of_unrecorded (asked : event.record? = none) : event.trace? = none := by
  cases event with
  | asked q scope => rfl
  | recorded r => cases asked

theorem debug?_of_unrecorded (asked : event.record? = none) : event.debug? = none := by
  cases event with
  | asked q scope => rfl
  | recorded r => cases asked

theorem untraced_append (first second : List Event) :
    untraced (first ++ second) = untraced first ++ untraced second :=
  List.filter_append first second

theorem untraced_eq_self {events : List Event} (none : events.filterMap trace? = []) :
    untraced events = events :=
  List.filter_eq_self.2 fun event listed =>
    Option.isNone_iff_eq_none.2 (List.filterMap_eq_nil_iff.1 none event listed)

theorem untraced_cons_trace (spec : Specifier) (scope : Option Scope) (events : List Event) :
    untraced (.recorded ⟨compiledNote spec, scope⟩ :: events) = untraced events := by
  simp [untraced, trace?, isTrace_compiledNote]

end Event

/-! ## Surroundings that do not look at traces -/

/-- Two surroundings that are the same after the same events, whatever traces are among them. -/
def Surroundings.Overlook (loud quiet : Surroundings) : Prop :=
  ∀ past other, Event.untraced past = Event.untraced other → loud past = quiet other

namespace Surroundings.Overlook

variable {loud quiet : Surroundings} (overlook : loud.Overlook quiet)

include overlook

theorem after {events others : List Event} (same : Event.untraced events = Event.untraced others) :
    (loud.after events).Overlook (quiet.after others) := by
  intro past other alike
  refine overlook _ _ ?_
  rw [Event.untraced_append, Event.untraced_append, same, alike]

/-- A specifier is carried out in the same world. -/
theorem forSpecifier (scope : Option Scope) (spec : Specifier) :
    loud.forSpecifier scope spec = quiet.forSpecifier scope spec := by
  have same : ∀ past, loud past = quiet past := fun past => overlook past past rfl
  unfold Surroundings.forSpecifier Surroundings.forField
  simp only [same]

end Surroundings.Overlook

/-- What asks the same, but for traces, is answered the same. -/
theorem Dialogue.Annotates.runAmid {α : Type} {d other : Dialogue α} (annotates : d.Annotates other)
    {loud quiet : Surroundings} (overlook : loud.Overlook quiet) (scopes : List Scope) :
    (d.runAmid loud scopes).value = (other.runAmid quiet scopes).value ∧
      Event.untraced (d.runAmid loud scopes).events =
        Event.untraced (other.runAmid quiet scopes).events := by
  induction annotates generalizing loud quiet scopes with
  | done a => exact ⟨rfl, rfl⟩
  | @trace spec d other _ ih =>
    have traced := overlook.after (Event.untraced_cons_trace spec scopes.head? [])
    obtain ⟨value, events⟩ := ih traced scopes
    exact ⟨value, (Event.untraced_cons_trace spec scopes.head? _).trans events⟩
  | @note n d other _ ih =>
    obtain ⟨value, events⟩ := ih (overlook.after rfl) scopes
    refine ⟨value, ?_⟩
    rw [Dialogue.runAmid, Dialogue.runAmid, Course.after_events, Course.after_events,
      Event.untraced_append, Event.untraced_append, events]
  | @enter operation d other _ ih =>
    have opens : (loud []).opening operation = (quiet []).opening operation := by
      rw [overlook [] [] rfl]
    rw [Dialogue.runAmid, Dialogue.runAmid, opens]
    exact ih overlook _
  | leave _ ih => exact ih overlook _
  | @ask q resume other _ ih =>
    have answers : (loud []).answer scopes.head? q = (quiet []).answer scopes.head? q := by
      rw [overlook [] [] rfl]
    obtain ⟨value, events⟩ := ih ((quiet []).answer scopes.head? q) (overlook.after rfl) scopes
    rw [Dialogue.runAmid, Dialogue.runAmid, answers]
    refine ⟨value, ?_⟩
    rw [Course.after_events, Course.after_events, Event.untraced_append, Event.untraced_append,
      events]

/-! ## The specifiers that a list yields -/

/-- The specifiers that are read when a list is carried out amid surroundings: all of them, or those
up to where the list is stopped. A key that cannot be read stops the list and yields none. A
specifier of the principal that is rejected stops it too, and so does one whose field is a fault to
look up; these have been read. -/
inductive Surroundings.Obtains (scopes : List Scope) (config : Config) (mode : Mode) :
    Surroundings → Gathered → List Payload → List Specifier → Prop
  | all {around : Surroundings} {gathered : Gathered} :
      Obtains scopes config mode around gathered [] []
  | unread {around : Surroundings} {gathered : Gathered} {key : Payload} {rest : List Payload}
      {e : Fault} (unread : Specifier.compile config.canSanitize key = .error e) :
      Obtains scopes config mode around gathered (key :: rest) []
  | rejected {around : Surroundings} {gathered : Gathered} {key : Payload} {rest : List Payload}
      {spec : Specifier} {code : ErrorCode}
      (read : Specifier.compile config.canSanitize key = .ok spec)
      (principal : spec.source = some .auth)
      (stops : ((carryOut config mode gathered spec).run.runAmid around scopes).value =
        .error (.fatal code)) :
      Obtains scopes config mode around gathered (key :: rest) [spec]
  | raised {around : Surroundings} {gathered : Gathered} {key : Payload} {rest : List Payload}
      {spec : Specifier} {e : Fault}
      (read : Specifier.compile config.canSanitize key = .ok spec)
      (stops : ((carryOut config mode gathered spec).run.runAmid around scopes).value =
        .error (.fault e)) :
      Obtains scopes config mode around gathered (key :: rest) [spec]
  | onward {around : Surroundings} {gathered next : Gathered} {key : Payload}
      {rest : List Payload} {spec : Specifier} {specs : List Specifier} {events : List Event}
      (read : Specifier.compile config.canSanitize key = .ok spec)
      (carried : (carryOut config mode gathered spec).run.runAmid around scopes =
        ⟨events, scopes, .ok next⟩)
      (later : Obtains scopes config mode (around.after events) next rest specs) :
      Obtains scopes config mode around gathered (key :: rest) (spec :: specs)

/-- What carrying specifiers out does is all asking. -/
theorem record?_of_mem_specifierEvents {world : World} {scope : Option Scope} {config : Config}
    {spec : Specifier} :
    ∀ event ∈ world.specifierEvents scope config spec, event.record? = none := by
  intro event listed
  unfold World.specifierEvents at listed
  split at listed
  · rcases List.mem_cons.1 listed with rfl | called
    · rfl
    · obtain ⟨call, -, rfl⟩ := List.mem_map.1 called
      rfl
  · cases listed

/-- The only specifiers that stop a list for good are those of the principal. -/
theorem source_of_fatal {world : World} {scope : Option Scope} {config : Config} {mode : Mode}
    {gathered : Gathered} {spec : Specifier} {code : ErrorCode}
    (stops : gathered.settle (world.verdict scope config mode spec) = .error (.fatal code)) :
    spec.source = some .auth := by
  unfold World.verdict at stops
  cases source : spec.source with
  | none => rw [source] at stops; cases stops
  | some origin =>
    cases origin with
    | auth => rfl
    | field s =>
      rw [source] at stops
      dsimp only at stops
      cases found : world.fieldValue scope config s spec.lookupName spec.sanitize spec.optional with
      | error e => rw [found] at stops; cases stops
      | ok value => rw [found] at stops; cases value <;> cases stops

namespace Dialogue

variable (scopes : List Scope) (config : Config) (mode : Mode)

/-- A visit with tracing notes that the specifier has been read, and then carries it out as a visit
without tracing would, which leaves no other trace. -/
theorem exists_visit_traced {loud quiet : Surroundings} (overlook : loud.Overlook quiet)
    (gathered : Gathered) {key : Payload} {spec : Specifier}
    (read : Specifier.compile config.canSanitize key = .ok spec) :
    ∃ events ending,
      (carryOut config mode gathered spec).run.runAmid quiet scopes = ⟨events, scopes, ending⟩ ∧
      (visit config mode true gathered key).run.runAmid loud scopes =
        ⟨.recorded ⟨compiledNote spec, scopes.head?⟩ :: events, scopes, ending⟩ ∧
      (∀ event ∈ events, event.trace? = none) ∧
      ∀ code, ending = .error (.fatal code) → spec.source = some .auth := by
  have visited : (visit config mode true gathered key).run.runAmid loud scopes =
      ((carryOut config mode gathered spec).run.runAmid
        (loud.after [.recorded ⟨compiledNote spec, scopes.head?⟩]) scopes).after
          [.recorded ⟨compiledNote spec, scopes.head?⟩] := by
    unfold visit readSpecifier
    rw [read]
    rfl
  have traced := overlook.after (Event.untraced_cons_trace spec scopes.head? [])
  rw [runAmid_carryOut, traced.forSpecifier, Surroundings.after_nil, run_carryOut] at visited
  have carried := runAmid_carryOut quiet scopes config mode gathered spec
  rw [run_carryOut] at carried
  exact ⟨_, _, carried, visited,
    fun event listed => Event.trace?_of_unrecorded (record?_of_mem_specifierEvents event listed),
    fun code stops => source_of_fatal stops⟩

theorem trace?_compiledNote (spec : Specifier) (scope : Option Scope) :
    Event.trace? (.recorded ⟨compiledNote spec, scope⟩) = some ⟨compiledNote spec, scope⟩ := by
  rw [Event.trace?, isTrace_compiledNote, if_pos rfl]

/-- With tracing there is one note for each specifier that is read, and there is no other trace. -/
theorem exists_obtained {loud quiet : Surroundings} (overlook : loud.Overlook quiet)
    (gathered : Gathered) (keys : List Payload) :
    ∃ specs, quiet.Obtains scopes config mode gathered keys specs ∧
      ((keys.foldlM (visit config mode true) gathered).run.runAmid loud scopes).events.filterMap
        Event.trace? = specs.map fun spec => ⟨compiledNote spec, scopes.head?⟩ := by
  induction keys generalizing loud quiet gathered with
  | nil => exact ⟨[], .all, rfl⟩
  | cons key rest ih =>
    rw [List.foldlM_cons]
    cases read : Specifier.compile config.canSanitize key with
    | error e =>
      have unread : (visit config mode true gathered key).run.runAmid loud scopes =
          ⟨[], scopes, .error (.unreadable e)⟩ := by
        unfold visit readSpecifier
        rw [read]
        rfl
      rw [runAmid_bind_of_error unread]
      exact ⟨[], .unread read, rfl⟩
    | ok spec =>
      obtain ⟨events, ending, carried, visited, own, principal⟩ :=
        exists_visit_traced scopes config mode overlook gathered read
      have silent : events.filterMap Event.trace? = [] := List.filterMap_eq_nil_iff.2 own
      cases ending with
      | error stop =>
        have stops := congrArg Course.value carried
        rw [runAmid_bind_of_error visited]
        refine ⟨[spec], ?_, ?_⟩
        · cases stop with
          | fatal code => exact .rejected read (principal code rfl) stops
          | fault e => exact .raised read stops
        · rw [List.filterMap_cons_some (trace?_compiledNote spec _), silent]
          rfl
      | ok next =>
        have later := overlook.after (Event.untraced_cons_trace spec scopes.head? events)
        obtain ⟨specs, obtained, traces⟩ := ih later next
        rw [runAmid_bind_of_ok visited]
        refine ⟨spec :: specs, .onward read carried obtained, ?_⟩
        rw [Course.after_events, List.filterMap_append, traces,
          List.filterMap_cons_some (trace?_compiledNote spec _), silent]
        rfl

end Dialogue

/-! ## The rest of a parse -/

/-- Without tracing nothing is recorded of a list. -/
theorem Dialogue.record?_of_mem_gather (around : Surroundings) (scopes : List Scope)
    (config : Config) (mode : Mode) (keys : List Payload) :
    ∀ event ∈ ((gather config mode false keys).run.runAmid around scopes).events,
      event.record? = none := by
  rw [runAmid_gather]
  intro event listed
  obtain ⟨visit, -, happened⟩ := List.mem_flatMap.1 listed
  unfold World.visitEvents at happened
  split at happened
  · exact record?_of_mem_specifierEvents event (by simpa using happened)
  · cases happened

/-- Notes that are no traces leave none. -/
theorem trace?_of_mem_notes {scope : Option Scope} {notes : List Note}
    (own : ∀ n ∈ notes, n.isTrace = false) :
    ∀ event ∈ notes.map (noteEvent scope), event.trace? = none := by
  intro event listed
  obtain ⟨n, noted, rfl⟩ := List.mem_map.1 listed
  rw [noteEvent, Event.trace?, own n noted]
  rfl

theorem isTrace_of_mem_authorizationNotes {log : Log} {optional : Bool} {answer : Answer} :
    ∀ n ∈ authorizationNotes log optional answer, n.isTrace = false := by
  intro n listed
  cases answer with
  | ok principal => cases listed
  | error e =>
    cases optional with
    | false => cases listed
    | true =>
      obtain ⟨words, -, rfl⟩ := Log.mem_notes.1 listed
      exact isTrace_authorizationFailedNote words

/-- What an outcome has to note is a warning. -/
theorem level_of_mem_outcomeNotes {mode : Mode} {log : Log} {ending : Except Fault Outcome} :
    ∀ n ∈ outcomeNotes mode log ending, n.level = .warning := by
  intro n listed
  cases ending with
  | ok outcome => cases listed
  | error e =>
    rcases e.sorted with ⟨r, rfl⟩ | ⟨inner, rfl⟩ | unexpected
    · cases listed
    · cases listed
    · rw [outcomeNotes, conclusionNotes_of_unexpected unexpected] at listed
      obtain ⟨words, -, rfl⟩ := Log.mem_notes.1 listed
      rfl

/-- Warnings are not made for debugging, and no traces. -/
theorem debug?_of_mem_outcomeNotes {scope : Option Scope} {mode : Mode} {log : Log}
    {ending : Except Fault Outcome} :
    ∀ event ∈ (outcomeNotes mode log ending).map (noteEvent scope),
      event.debug? = none ∧ event.trace? = none := by
  intro event listed
  obtain ⟨n, noted, rfl⟩ := List.mem_map.1 listed
  have warning := level_of_mem_outcomeNotes n noted
  simp [noteEvent, Event.debug?, Event.trace?, Note.isTrace, warning]

theorem record?_of_mem_tellingEvents {scope : Option Scope} {callsBack : Bool}
    {ending : Except Fault Outcome} :
    ∀ event ∈ tellingEvents scope callsBack ending, event.record? = none := by
  intro event listed
  cases ending with
  | error e => cases listed
  | ok outcome =>
    cases callsBack with
    | false => cases listed
    | true => cases List.mem_singleton.1 listed; rfl

theorem record?_of_mem_awaitEvents {scope : Option Scope} {authorizer given : Payload} :
    ∀ event ∈ awaitEvents scope authorizer given, event.record? = none := by
  intro event listed
  cases authorizer with
  | function f =>
    rcases List.mem_cons.1 listed with rfl | waited
    · rfl
    · cases List.mem_singleton.1 waited; rfl
  | _ => cases listed

theorem Dialogue.Finished.trace?_eq_none {around : Surroundings} {scopes : List Scope}
    {config : Config} {log : Log} {ending : Except Stop Gathered}
    {course : Course (Except Fault Outcome)}
    (finished : Finished around scopes config log ending course) :
    ∀ event ∈ course.events, event.trace? = none := by
  cases finished with
  | unread => exact List.forall_mem_singleton.2 rfl
  | @authorized gathered demand headers answer =>
    refine List.forall_mem_cons.2 ⟨rfl, List.forall_mem_append.2 ⟨?_, ?_⟩⟩
    · exact fun event listed => Event.trace?_of_unrecorded (record?_of_mem_awaitEvents event listed)
    · exact trace?_of_mem_notes isTrace_of_mem_authorizationNotes
  | _ => exact nofun

/-! ## Parses -/

namespace Scene

/-- Two scenes that are the same, except that debugging is on in the first one. Nobody in them looks
at traces. -/
structure Traces (loud quiet : Scene) : Prop where
  on : (loud.host []).environment.debugging = true
  off : (quiet.host []).environment.debugging = false
  collaborators : ∀ past other, Event.untraced past = Event.untraced other →
    (loud.host past).collaborators = (quiet.host other).collaborators
  clock : ∀ past other, Event.untraced past = Event.untraced other →
    (loud.host past).clock = (quiet.host other).clock
  request : ∀ past other, Event.untraced past = Event.untraced other →
    loud.request past = quiet.request other

/-- The specifiers that a parse reads: none if the call is refused, and otherwise those that its
list yields. -/
inductive Obtains (scene : Scene) (scopes : List Scope) (config : Config) (needed : Payload)
    (callback : Option Callback) (mode : Mode) : List Specifier → Prop
  | refused {e : Fault}
      (refused : checkCall config (scene.request []).isPresent needed = .error e) :
      Obtains scene scopes config needed callback mode []
  | accepted {keys : List Payload} {specs : List Specifier}
      (accepted : checkCall config (scene.request []).isPresent needed = .ok keys)
      (obtained : (scene.around callback).Obtains (scene.opened scopes mode) config mode .empty
        (config.alwaysParsed ++ keys) specs) :
      Obtains scene scopes config needed callback mode specs

variable {loud quiet scene : Scene} (scopes : List Scope) (config : Config) (needed : Payload)
  (callback : Option Callback) (mode : Mode)

theorem Traces.overlook (traces : loud.Traces quiet) :
    (loud.around callback).Overlook (quiet.around callback) := by
  intro past other alike
  unfold around Host.world
  rw [traces.collaborators past other alike, traces.clock past other alike,
    traces.request past other alike]

theorem Traces.opened (traces : loud.Traces quiet) :
    loud.opened scopes mode = quiet.opened scopes mode := by
  unfold Scene.opened
  rw [traces.clock [] [] rfl]

/-- With tracing a parse, as far as it can fail, leaves a trace of each specifier that it reads. -/
theorem Traces.exists_obtained (traces : loud.Traces quiet) :
    ∃ specs, quiet.Obtains scopes config needed callback mode specs ∧
      (loud.attempt scopes config needed callback mode).events.filterMap Event.trace? =
        specs.map fun spec => ⟨compiledNote spec, (quiet.opened scopes mode).head?⟩ := by
  have present : loud.request [] = quiet.request [] := traces.request [] [] rfl
  cases checked : checkCall config (quiet.request []).isPresent needed with
  | error e =>
    rw [attempt_of_refused scopes callback mode (present ▸ checked)]
    exact ⟨[], .refused checked, rfl⟩
  | ok keys =>
    have accepted : checkCall config (loud.request []).isPresent needed = .ok keys :=
      present ▸ checked
    obtain ⟨finishing, course, finished⟩ := attempt_of_accepted scopes callback mode accepted
    obtain ⟨specs, obtained, traced⟩ := Dialogue.exists_obtained (quiet.opened scopes mode) config
      mode (traces.overlook callback) .empty (config.alwaysParsed ++ keys)
    refine ⟨specs, .accepted checked obtained, ?_⟩
    rw [course, Course.after_events, List.filterMap_append,
      List.filterMap_eq_nil_iff.2 finished.trace?_eq_none, List.append_nil, ← traced, gathering,
      Host.log, traces.on, traces.opened]
    rfl

/-- Without tracing nothing is recorded of the list of a parse. -/
theorem record?_of_mem_gathering (off : (scene.host []).environment.debugging = false)
    (keys : List Payload) :
    ∀ event ∈ (scene.gathering scopes config callback mode (config.alwaysParsed ++ keys)).events,
      event.record? = none := by
  rw [gathering, Host.log, off]
  exact Dialogue.record?_of_mem_gather _ _ config mode _

/-- Without tracing it leaves none. -/
theorem traces_attempt (off : (scene.host []).environment.debugging = false) :
    (scene.attempt scopes config needed callback mode).events.filterMap Event.trace? = [] := by
  cases checked : checkCall config (scene.request []).isPresent needed with
  | error e =>
    rw [attempt_of_refused scopes callback mode checked]
    rfl
  | ok keys =>
    obtain ⟨finishing, course, finished⟩ := attempt_of_accepted scopes callback mode checked
    have silent := List.filterMap_eq_nil_iff.2 fun event listed => Event.trace?_of_unrecorded
      (record?_of_mem_gathering scopes config callback mode off keys event listed)
    rw [course, Course.after_events, List.filterMap_append, silent,
      List.filterMap_eq_nil_iff.2 finished.trace?_eq_none]
    rfl

/-- After what a parse does as far as it can fail there are no more traces. -/
theorem traces_parseNow :
    (scene.parseNow scopes config needed).events.filterMap Event.trace? =
      (scene.attempt scopes config needed none .immediate).events.filterMap Event.trace? := by
  rw [parseNow_eq]
  dsimp only
  rw [List.filterMap_append, List.filterMap_eq_nil_iff.2
    fun event listed => (debug?_of_mem_outcomeNotes event listed).2, List.append_nil]

theorem traces_parseWaiting :
    (scene.parseWaiting scopes config needed callback).events.filterMap Event.trace? =
      (scene.attempt scopes config needed callback .awaiting).events.filterMap Event.trace? := by
  rw [parseWaiting_eq]
  dsimp only
  rw [List.filterMap_append, List.filterMap_append,
    List.filterMap_eq_nil_iff.2 fun event listed => (debug?_of_mem_outcomeNotes event listed).2,
    List.filterMap_eq_nil_iff.2 fun event listed =>
      Event.trace?_of_unrecorded (record?_of_mem_tellingEvents event listed),
    List.append_nil, List.append_nil]

/-! ## The note of a suppressed fault -/

/-- What an authorization records is for debugging. -/
theorem debugs_authorized (scope : Option Scope) (authorizer given : Payload) (log : Log)
    (optional : Bool) (answer : Answer) :
    (.asked (.member Section.headers.name) scope :: (awaitEvents scope authorizer given ++
        (authorizationNotes log optional answer).map (noteEvent scope))).filterMap Event.debug? =
      (authorizationNotes log optional answer).map fun n => ⟨n, scope⟩ := by
  have asked : (awaitEvents scope authorizer given).filterMap Event.debug? = [] :=
    List.filterMap_eq_nil_iff.2 fun event listed =>
      Event.debug?_of_unrecorded (record?_of_mem_awaitEvents event listed)
  rw [List.filterMap_cons_none (by rfl), List.filterMap_append, asked, List.nil_append]
  cases answer with
  | ok principal => rfl
  | error e =>
    cases optional with
    | false => rfl
    | true =>
      rw [authorizationNotes, if_pos rfl, Log.notes]
      cases log.wording .debug e <;> rfl

/-- A fault of the authorizer is suppressed, and there are words for it to be noted with, if it was
waited for, and authorization is optional. -/
def Suppresses (scene : Scene) (scopes : List Scope) (config : Config) (needed : Payload)
    (callback : Option Callback) (e : Fault) (words : String) : Prop :=
  ∃ keys gathered, scene.Consults scopes config needed callback keys gathered (.error e) ∧
    (config.alwaysParsed ++ keys).any Payload.asksOptionally = true ∧
    (scene.host []).log.wording .debug e = .ok words

/-- What is recorded for debugging, without tracing, is what an authorization has to note. -/
theorem debugs_attempt (off : (scene.host []).environment.debugging = false) :
    let debugs := (scene.attempt scopes config needed callback .awaiting).events.filterMap
      Event.debug?
    (∃ keys gathered answer,
      scene.Consults scopes config needed callback keys gathered answer ∧
        debugs = (authorizationNotes (scene.host []).log
          ((config.alwaysParsed ++ keys).any Payload.asksOptionally) answer).map
            fun n => ⟨n, (scene.opened scopes .awaiting).head?⟩) ∨
      (∀ keys gathered answer,
        ¬ scene.Consults scopes config needed callback keys gathered answer) ∧ debugs = [] := by
  intro debugs
  cases checked : checkCall config (scene.request []).isPresent needed with
  | error e =>
    refine .inr ⟨fun keys gathered answer consults => ?_, ?_⟩
    · cases checked.symm.trans consults.accepted
    · unfold debugs
      rw [attempt_of_refused scopes callback .awaiting checked]
      rfl
  | ok keys =>
    obtain ⟨finishing, course, finished⟩ := attempt_of_accepted scopes callback .awaiting checked
    have gathering : debugs = finishing.events.filterMap Event.debug? := by
      have silent := List.filterMap_eq_nil_iff.2 fun event listed => Event.debug?_of_unrecorded
        (record?_of_mem_gathering scopes config callback .awaiting off keys event listed)
      unfold debugs
      rw [course, Course.after_events, List.filterMap_append, silent, List.nil_append]
    rw [gathering]
    generalize collected : (scene.gathering scopes config callback .awaiting
      (config.alwaysParsed ++ keys)).value = ending at finished
    cases finished with
    | authorized complete demanded read answered =>
      obtain ⟨consults, optional⟩ :=
        consults_of_demanded checked collected complete demanded read answered
      refine .inl ⟨keys, _, _, consults, ?_⟩
      rw [← optional]
      exact debugs_authorized _ _ _ _ _ _
    | fatal code =>
      refine .inr ⟨fun others found answer consults => ?_, rfl⟩
      cases collected.symm.trans (consults.presupposes checked).1
    | fault e =>
      refine .inr ⟨fun others found answer consults => ?_, rfl⟩
      cases collected.symm.trans (consults.presupposes checked).1
    | incomplete missing =>
      refine .inr ⟨fun others found answer consults => ?_, rfl⟩
      obtain ⟨same, complete, -⟩ := consults.presupposes checked
      cases collected.symm.trans same
      exact missing complete
    | undemanding complete undemanded =>
      refine .inr ⟨fun others found answer consults => ?_, rfl⟩
      obtain ⟨same, -, demanded, -⟩ := consults.presupposes checked
      cases collected.symm.trans same
      exact demanded undemanded
    | unread complete demanded unread =>
      refine .inr ⟨fun others found answer consults => ?_, rfl⟩
      obtain ⟨-, -, -, headers, read⟩ := consults.presupposes checked
      cases unread.symm.trans read

/-- The fault is noted where it is suppressed, and then only. -/
theorem debugs_parseWaiting (off : (scene.host []).environment.debugging = false) :
    let debugs := (scene.parseWaiting scopes config needed callback).events.filterMap Event.debug?
    let own := (scene.opened scopes .awaiting).head?
    (∀ e words, scene.Suppresses scopes config needed callback e words →
        debugs = [⟨authorizationFailedNote words, own⟩]) ∧
      ((∀ e words, ¬ scene.Suppresses scopes config needed callback e words) → debugs = []) := by
  intro debugs own
  have attempted : debugs =
      (scene.attempt scopes config needed callback .awaiting).events.filterMap Event.debug? := by
    unfold debugs
    rw [parseWaiting_eq]
    dsimp only
    rw [List.filterMap_append, List.filterMap_append,
      List.filterMap_eq_nil_iff.2 fun event listed => (debug?_of_mem_outcomeNotes event listed).1,
      List.filterMap_eq_nil_iff.2 fun event listed =>
        Event.debug?_of_unrecorded (record?_of_mem_tellingEvents event listed),
      List.append_nil, List.append_nil]
  rw [attempted]
  rcases debugs_attempt scopes config needed callback off with
    ⟨keys, gathered, answer, consults, noted⟩ | ⟨unconsulted, nothing⟩
  · rw [noted]
    refine ⟨fun e words suppresses => ?_, fun unsuppressed => ?_⟩
    · obtain ⟨others, found, another, optional, worded⟩ := suppresses
      obtain ⟨rfl, -, rfl⟩ := consults.unique another
      rw [optional, authorizationNotes, if_pos rfl, Log.notes, worded]
      rfl
    · rw [List.map_eq_nil_iff, List.eq_nil_iff_forall_not_mem]
      intro n listed
      cases answer with
      | ok principal => cases listed
      | error e =>
        cases optional : (config.alwaysParsed ++ keys).any Payload.asksOptionally with
        | false => rw [optional] at listed; cases listed
        | true =>
          rw [optional] at listed
          obtain ⟨words, worded, -⟩ := Log.mem_notes.1 listed
          exact unsuppressed e words ⟨keys, gathered, consults, optional, worded⟩
  · refine ⟨fun e words suppresses => ?_, fun _ => nothing⟩
    obtain ⟨keys, gathered, consults, -⟩ := suppresses
    exact absurd consults (unconsulted _ _ _)

end Scene

/-! ## Tracing and its effects -/

/-- The course of a parse with tracing, next to the one without: it comes to the same, and what
happens is the same but for one trace of each of some specifiers. Whatever is recorded is recorded
in a scope of its own. -/
structure Course.Traces {α : Type} (loud quiet : Course α) (own : Option Scope)
    (specs : List Specifier) : Prop where
  value : loud.value = quiet.value
  others : Event.untraced loud.events = quiet.events
  traces : loud.events.filterMap Event.trace? = specs.map fun spec => ⟨compiledNote spec, own⟩
  placed : ∀ r ∈ loud.events.filterMap Event.record?, r.scope = own

/-- What is recorded in sheltered events is recorded in their scope. -/
theorem scope_of_sheltered {own outer : Option Scope} {events : List Event}
    (sheltered : ∀ event ∈ events, event.Sheltered own outer) :
    ∀ r ∈ events.filterMap Event.record?, r.scope = own := by
  intro r listed
  obtain ⟨event, happened, recorded⟩ := List.mem_filterMap.1 listed
  cases event with
  | asked q scope => cases recorded
  | recorded other => cases recorded; exact sheltered _ happened

/-- Tracing observes a parse, and does not take part in it. With debugging switched on, a parse ends
as it does without, asks and delivers the same and records the same, except for one more record of
each specifier that it reads, in their order. All of that is recorded under the id and the operation
of the parse, and so is the fault of an authorizer where it is suppressed, which is noted once, in
the words that the log has for it, whether debugging is switched on or not. -/
theorem tracing_observes {loud quiet : Scene} (traces : loud.Traces quiet) (scopes : List Scope)
    (config : Config) (needed : Payload) (callback : Option Callback) :
    let own (mode : Mode) := some ⟨(quiet.host []).clock.requestId, some mode.operation⟩
    (∃ specs, quiet.Obtains scopes config needed none .immediate specs ∧
        (loud.parseNow scopes config needed).Traces (quiet.parseNow scopes config needed)
          (own .immediate) specs) ∧
      (∃ specs, quiet.Obtains scopes config needed callback .awaiting specs ∧
        (loud.parseWaiting scopes config needed callback).Traces
          (quiet.parseWaiting scopes config needed callback) (own .awaiting) specs) ∧
      let debugs := (quiet.parseWaiting scopes config needed callback).events.filterMap
        Event.debug?
      (∀ e words, quiet.Suppresses scopes config needed callback e words →
          debugs = [⟨authorizationFailedNote words, own .awaiting⟩]) ∧
        ((∀ e words, ¬ quiet.Suppresses scopes config needed callback e words) →
          debugs = []) := by
  intro own
  have clock : (loud.host []).clock = (quiet.host []).clock := traces.clock [] [] rfl
  have request : loud.request [] = quiet.request [] := traces.request [] [] rfl
  have wording : (loud.host []).collaborators.wording = (quiet.host []).collaborators.wording :=
    congrArg Collaborators.wording (traces.collaborators [] [] rfl)
  refine ⟨?_, ?_, Scene.debugs_parseWaiting scopes config needed callback traces.off⟩
  · obtain ⟨specs, obtained, traced⟩ := traces.exists_obtained scopes config needed none .immediate
    have annotates := Dialogue.annotates_parse config .immediate
      (quiet.host []).collaborators.wording (quiet.request []).isPresent needed
    obtain ⟨value, others⟩ := annotates.runAmid (traces.overlook none) scopes
    have untraced := Event.untraced_eq_self ((quiet.traces_parseNow scopes config needed).trans
      (Scene.traces_attempt scopes config needed none .immediate traces.off))
    have sheltered := loud.sheltered_parseNow scopes config needed
    rw [clock] at sheltered
    refine ⟨specs, obtained, ?_, ?_, (Scene.traces_parseNow scopes config needed).trans traced,
      scope_of_sheltered sheltered⟩
    · rw [Scene.parseNow, Scene.parseNow, Host.log, Host.log, traces.on, traces.off, wording,
        request]
      exact value
    · rw [← untraced, Scene.parseNow, Scene.parseNow, Host.log, Host.log, traces.on, traces.off,
        wording, request]
      exact others
  · obtain ⟨specs, obtained, traced⟩ :=
      traces.exists_obtained scopes config needed callback .awaiting
    have annotates := Dialogue.annotates_parseThen config
      (quiet.host []).collaborators.wording (quiet.request []).isPresent needed
      callback.isSome
    obtain ⟨value, others⟩ := annotates.runAmid (traces.overlook callback) scopes
    have untraced := Event.untraced_eq_self
      ((quiet.traces_parseWaiting scopes config needed callback).trans
        (Scene.traces_attempt scopes config needed callback .awaiting traces.off))
    have sheltered := loud.sheltered_parseWaiting scopes config needed callback
    rw [clock] at sheltered
    refine ⟨specs, obtained, ?_, ?_,
      (Scene.traces_parseWaiting scopes config needed callback).trans traced,
      scope_of_sheltered sheltered⟩
    · rw [Scene.parseWaiting, Scene.parseWaiting, Host.log, Host.log, traces.on, traces.off,
        wording, request]
      exact value
    · rw [← untraced, Scene.parseWaiting, Scene.parseWaiting, Host.log, Host.log, traces.on,
        traces.off, wording, request]
      exact others

/-- A specifier of the principal, which a parse at once rejects, is traced, and the one behind it is
not. -/
theorem tracing_observes_sample :
    let quiet := Scene.still wrappingHost sampleRequest
    let loud := Scene.still { wrappingHost with environment := ⟨none, some "True"⟩ } sampleRequest
    let needed : Payload := .list [.text "A?", .text "Bb"]
    loud.Traces quiet ∧
      (loud.parseNow [] sampleConfig needed).value =
        .ok (.ofCode ErrorCode.immediateAuthorization.text) ∧
      Event.untraced (loud.parseNow [] sampleConfig needed).events =
        (quiet.parseNow [] sampleConfig needed).events ∧
      (loud.parseNow [] sampleConfig needed).events.length =
        (quiet.parseNow [] sampleConfig needed).events.length + 2 := by
  intro quiet loud needed
  have traces : loud.Traces quiet :=
    ⟨by decide +kernel, by decide +kernel, fun _ _ _ => rfl, fun _ _ _ => rfl, fun _ _ _ => rfl⟩
  obtain ⟨⟨specs, obtained, course⟩, -⟩ :=
    tracing_observes traces [] sampleConfig needed none
  have rejected : (quiet.parseNow [] sampleConfig needed).value =
      .ok (.ofCode ErrorCode.immediateAuthorization.text) := by
    rw [Scene.parseNow_eq]
    rfl
  exact ⟨traces, course.value.trans rejected, course.others, by decide +kernel⟩

end Intake
