import Intake.Proofs.Modes
import Intake.Proofs.Scene
import Intake.Proofs.Turns

/-!
# When the authorizer is waited for

A list that is gathered demands the principal if one of its keys asks for it, whatever the fields
come to and whoever provides them (`Dialogue.yields_gather`). From that it can be seen whether the
authorizer is due: `Scene.Due` says when it is, and what it is to be given, in terms of the check of
the call, of gathering and of the headers. A parse that waits has only two ways to go, with the
authorizer being waited for when it is due and without it when it is not (`Scene.timeline`).

`authorizer_awaited_when_due` draws the conclusion for every scene. The authorizer is called and
waited for when it is due, and then only, at most once, after the last call of the sanitizer, and
never by a parse at once. Turns, however many and with however many pauses, change nothing about it.
-/

namespace Intake

/-- The function that an event waits for, and its argument. -/
def Event.awaited? : Event → Option (FunctionRef × Payload)
  | .asked (.await f argument) _ => some (f, argument)
  | _ => none

/-- The function that an event begins, and its argument. -/
def Event.begun? : Event → Option (FunctionRef × Payload)
  | .asked (.begin f argument) _ => some (f, argument)
  | _ => none

/-- The function that an event calls without waiting, and its argument. -/
def Event.called? : Event → Option (FunctionRef × Payload)
  | .asked (.call f argument) _ => some (f, argument)
  | _ => none

/-- An event that has nothing to do with waiting, and does not call back. -/
structure Event.Plain (event : Event) : Prop where
  unbegun : event.begun? = none
  unawaited : event.awaited? = none
  undelivered : event.delivery? = none

theorem Event.Within.plain {config : Config} {scope : Option Scope} {event : Event}
    (within : event.Within scope (Query.Gathers config)) : event.Plain := by
  cases event with
  | recorded r => exact ⟨rfl, rfl, rfl⟩
  | asked q inner =>
    have gathers : q.Gathers config := within.2
    cases q with
    | member name => exact ⟨rfl, rfl, rfl⟩
    | call f argument => exact ⟨rfl, rfl, rfl⟩
    | begin f argument => exact gathers.elim
    | await f argument => exact gathers.elim
    | deliver delivery => exact gathers.elim

theorem plain_of_mem_notes {scope : Option Scope} {notes : List Note} :
    ∀ event ∈ notes.map (noteEvent scope), event.Plain := by
  intro event listed
  obtain ⟨n, -, rfl⟩ := List.mem_map.1 listed
  exact ⟨rfl, rfl, rfl⟩

/-- Notes leave nothing where records are passed over. -/
theorem filterMap_notes {β : Type} {f : Event → Option β} {scope : Option Scope} {notes : List Note}
    (passes : ∀ r, f (.recorded r) = none) : (notes.map (noteEvent scope)).filterMap f = [] := by
  rw [List.filterMap_map]
  exact List.filterMap_eq_nil_iff.2 fun n _ => passes ⟨n, scope⟩

theorem plain_append_headers (scope : Option Scope) {events : List Event}
    (plain : ∀ event ∈ events, event.Plain) :
    ∀ event ∈ events ++ [.asked (.member Section.headers.name) scope], event.Plain := by
  intro event listed
  rcases List.mem_append.1 listed with early | last
  · exact plain event early
  · cases List.mem_singleton.1 last
    exact ⟨rfl, rfl, rfl⟩

section Plain

variable {events : List Event} (plain : ∀ event ∈ events, event.Plain)

include plain

theorem filterMap_begun?_of_plain : events.filterMap Event.begun? = [] :=
  List.filterMap_eq_nil_iff.2 fun event listed => (plain event listed).unbegun

theorem filterMap_awaited?_of_plain : events.filterMap Event.awaited? = [] :=
  List.filterMap_eq_nil_iff.2 fun event listed => (plain event listed).unawaited

end Plain

/-- An event that calls no function, and waits for none. -/
structure Event.Silent (event : Event) : Prop where
  unbegun : event.begun? = none
  unawaited : event.awaited? = none
  uncalled : event.called? = none

theorem silent_of_mem_notes {scope : Option Scope} {notes : List Note} :
    ∀ event ∈ notes.map (noteEvent scope), event.Silent := by
  intro event listed
  obtain ⟨n, -, rfl⟩ := List.mem_map.1 listed
  exact ⟨rfl, rfl, rfl⟩

/-- Telling the callback about an outcome calls no function. -/
theorem silent_of_mem_tellingEvents (scope : Option Scope) (callsBack : Bool)
    (ending : Except Fault Outcome) :
    ∀ event ∈ tellingEvents scope callsBack ending, event.Silent := by
  intro event listed
  cases ending with
  | error e => cases listed
  | ok outcome =>
    cases callsBack with
    | false => cases listed
    | true => cases List.mem_singleton.1 listed; exact ⟨rfl, rfl, rfl⟩

/-! ## Demands -/

/-- What is read without being a text names no source. -/
theorem Specifier.source_of_untextual {canSanitize : Bool} {key : Payload} {spec : Specifier}
    (untextual : ∀ text, key ≠ .text text)
    (compiled : Specifier.compile canSanitize key = .ok spec) : spec.source = none := by
  rw [Specifier.compile_of_untextual canSanitize untextual] at compiled
  cases told : key.asText with
  | error e => rw [told] at compiled; cases compiled
  | ok text => rw [told] at compiled; cases compiled; rfl

/-- The keys that ask for the principal are those that compile to it. -/
theorem Specifier.source_eq_auth_iff {canSanitize : Bool} {key : Payload} {spec : Specifier}
    (compiled : Specifier.compile canSanitize key = .ok spec) :
    spec.source = some .auth ↔ key.asksPrincipal = true := by
  cases key with
  | text key =>
    have source : spec.source = Specifier.sourceOf key.toList := by
      simp only [Specifier.compile, Specifier.ofText] at compiled
      split at compiled
      · cases compiled; rfl
      · split at compiled
        · cases compiled
        · cases compiled; rfl
    rw [source]
    cases letters : key.toList with
    | nil => simp [Specifier.sourceOf, Payload.asksPrincipal, letters]
    | cons letter rest =>
      simp [Specifier.sourceOf, Payload.asksPrincipal, letters, Source.ofLetter?_eq_some_iff,
        Source.letter]
  | _ =>
    rw [source_of_untextual (by simp) compiled]
    simp [Payload.asksPrincipal]

namespace Dialogue

variable (config : Config) (mode : Mode) (tracing : Bool)

/-- A visit demands the principal if the key asks for it, which at once no visit gets over. -/
theorem yields_visit (gathered : Gathered) (key : Payload) :
    Yields (fun next => next.demand.isSome = (gathered.demand.isSome || key.asksPrincipal) ∧
        (mode = .immediate → key.asksPrincipal = false))
      (visit config mode tracing gathered key) := by
  have read : Yields (fun spec => spec.source = some .auth ↔ key.asksPrincipal = true)
      (readSpecifier config key) := by
    unfold readSpecifier
    cases compiled : Specifier.compile config.canSanitize key with
    | ok spec => exact .pure (Specifier.source_eq_auth_iff compiled)
    | error e => exact .throw _
  unfold visit
  refine read.bind fun spec asks => .bind_any fun _ => ?_
  unfold carryOut
  cases source : spec.source with
  | none =>
    have plain : key.asksPrincipal = false := by simpa [source] using asks
    exact .pure ⟨by simp [plain], fun _ => plain⟩
  | some origin =>
    cases origin with
    | auth =>
      have demands : key.asksPrincipal = true := asks.1 source
      unfold visitDemand
      cases mode with
      | immediate => exact .throw _
      | awaiting =>
        by_cases able : config.canAuthorize = true
        · simp only [able, if_true]
          exact .pure ⟨by simp [demands], nofun⟩
        · simp only [able]
          exact .throw _
    | field s =>
      have plain : key.asksPrincipal = false := by simpa [source] using asks
      unfold visitField
      refine .bind_any fun found => ?_
      cases found <;> exact .pure ⟨by simp [plain], fun _ => plain⟩

/-- A list demands the principal if one of its keys asks for it. -/
theorem yields_gather (keys : List Payload) :
    Yields (fun gathered => gathered.demand.isSome = keys.any Payload.asksPrincipal ∧
        (mode = .immediate → keys.any Payload.asksPrincipal = false))
      (gather config mode tracing keys) := by
  have visits : ∀ gathered : Gathered,
      Yields (fun last =>
          last.demand.isSome = (gathered.demand.isSome || keys.any Payload.asksPrincipal) ∧
            (mode = .immediate → keys.any Payload.asksPrincipal = false))
        (keys.foldlM (visit config mode tracing) gathered) := by
    induction keys with
    | nil => exact fun gathered => .pure ⟨by simp, fun _ => rfl⟩
    | cons key rest ih =>
      intro gathered
      rw [List.foldlM_cons]
      refine (yields_visit config mode tracing gathered key).bind fun next visited => ?_
      intro around scopes last ended
      obtain ⟨demanded, possible⟩ := ih next around scopes last ended
      refine ⟨?_, fun immediate => ?_⟩
      · rw [demanded, visited.1, List.any_cons, Bool.or_assoc]
      · rw [List.any_cons, visited.2 immediate, possible immediate, Bool.or_false]
  exact visits Gathered.empty

end Dialogue

/-! ## The authorizer -/

namespace Scene

variable (scene : Scene) (scopes : List Scope) (config : Config) (needed : Payload)
  (callback : Option Callback) {mode : Mode} {keys : List Payload} {gathered : Gathered}

/-- The authorizer is due to be given something: the call is accepted, its list is gathered without
an error, one of its keys asks for the principal, and the headers can be read after that. They are
given as they are read, or an empty record if they are no fields. -/
inductive Due (f : FunctionRef) (given : Payload) : Prop
  | intro {keys : List Payload} {gathered : Gathered} {key value : Payload}
      (authorizer : config.authorizer = .function f)
      (accepted : checkCall config (scene.request []).isPresent needed = .ok keys)
      (collected : (scene.gathering scopes config callback .awaiting
        (config.alwaysParsed ++ keys)).value = .ok gathered)
      (complete : gathered.errors = [])
      (listed : key ∈ config.alwaysParsed ++ keys) (asks : key.asksPrincipal = true)
      (read : (scene.request (scene.gathering scopes config callback .awaiting
        (config.alwaysParsed ++ keys)).events).read Section.headers.name = .ok value)
      (taken : given = if value.fields?.isSome then value else .record [])

/-- The ways that a parse that waits can go, up to what it tells the callback. -/
inductive Timeline (told : List Event) : List Event → Prop
  | authorizing {f : FunctionRef} {given : Payload} {before : List Event} {notes : List Note}
      (due : scene.Due scopes config needed callback f given)
      (ahead : ∀ event ∈ before, event.Plain) :
      Timeline told (before ++ .asked (.begin f given) (scene.opened scopes .awaiting).head? ::
        .asked (.await f given) (scene.opened scopes .awaiting).head? ::
          (notes.map (noteEvent (scene.opened scopes .awaiting).head?) ++ told))
  | otherwise {before : List Event} (undue : ∀ f given, ¬ scene.Due scopes config needed callback f
        given)
      (ahead : ∀ event ∈ before, event.Plain) : Timeline told (before ++ told)

/-- The events of gathering are plain. -/
theorem plain_of_mem_gathering (mode : Mode) (keys : List Payload) :
    ∀ event ∈ (scene.gathering scopes config callback mode keys).events, event.Plain := by
  intro event listed
  exact ((Dialogue.orderly_gather config mode _ keys).events_runAmid _ _ event listed).plain

variable {scene scopes config needed callback}

theorem Due.unique {f g : FunctionRef} {given other : Payload}
    (due : scene.Due scopes config needed callback f given)
    (another : scene.Due scopes config needed callback g other) : f = g ∧ given = other := by
  obtain ⟨authorizer, accepted, -, -, -, -, read, taken⟩ := due
  obtain ⟨authorizerToo, acceptedToo, -, -, -, -, readToo, takenToo⟩ := another
  cases authorizer.symm.trans authorizerToo
  cases accepted.symm.trans acceptedToo
  cases read.symm.trans readToo
  exact ⟨rfl, taken.trans takenToo.symm⟩

theorem demand_of_gathering
    (collected : (scene.gathering scopes config callback mode keys).value = .ok gathered) :
    gathered.demand.isSome = keys.any Payload.asksPrincipal ∧
      (mode = .immediate → keys.any Payload.asksPrincipal = false) :=
  Dialogue.yields_gather config mode _ keys _ _ gathered collected

/-- What the headers are for the authorizer that is due. -/
theorem givenHeaders_of_read {past : List Event} {headers : Payload}
    (read : (((scene.around callback).after past) []).sectionPayload .headers = .ok headers) :
    ∃ value, (scene.request past).read Section.headers.name = .ok value ∧
      givenHeaders headers = if value.fields?.isSome then value else .record [] := by
  rw [sectionPayload_after] at read
  cases member : (scene.request past).read Section.headers.name with
  | error e => rw [member] at read; cases read
  | ok value =>
    rw [member] at read
    cases read
    refine ⟨value, rfl, ?_⟩
    cases value <;> rfl

/-- What an authorizer that is due presupposes of gathering, and of the headers after that. -/
theorem Due.presupposes {f : FunctionRef} {given : Payload}
    (due : scene.Due scopes config needed callback f given)
    (accepted : checkCall config (scene.request []).isPresent needed = .ok keys) :
    let gathering := scene.gathering scopes config callback .awaiting (config.alwaysParsed ++ keys)
    ∃ gathered value, gathering.value = .ok gathered ∧ gathered.errors = [] ∧
      gathered.demand.isSome = true ∧
      (scene.request gathering.events).read Section.headers.name = .ok value := by
  obtain ⟨-, acceptedThen, collected, complete, listed, asks, read, -⟩ := due
  cases accepted.symm.trans acceptedThen
  have demanded := (demand_of_gathering collected).1
  rw [List.any_eq_true.2 ⟨_, listed, asks⟩] at demanded
  exact ⟨_, _, collected, complete, demanded, read⟩

/-- The authorizer is due where its headers can be read for a demand. -/
theorem due_of_demanded {f : FunctionRef} {demand : Demand} {headers : Payload}
    (authorizer : config.authorizer = .function f)
    (accepted : checkCall config (scene.request []).isPresent needed = .ok keys)
    (collected : (scene.gathering scopes config callback .awaiting
      (config.alwaysParsed ++ keys)).value = .ok gathered)
    (complete : gathered.errors = []) (demanded : gathered.demand = some demand)
    (read : (((scene.around callback).after (scene.gathering scopes config callback .awaiting
      (config.alwaysParsed ++ keys)).events) []).sectionPayload .headers = .ok headers) :
    scene.Due scopes config needed callback f (givenHeaders headers) := by
  have demands := (demand_of_gathering collected).1
  rw [demanded] at demands
  obtain ⟨key, listed, asks⟩ := List.any_eq_true.1 demands.symm
  obtain ⟨value, member, given⟩ := givenHeaders_of_read read
  exact .intro authorizer accepted collected complete listed asks member given

/-- Where nothing but plain events happen as far as the parse can fail, the authorizer is not waited
for. -/
theorem timeline_of_plain (told : List Event) (undue : ∀ f given, ¬ scene.Due scopes config needed
      callback f given)
    {events : List Event} (ahead : ∀ event ∈ events, event.Plain) (notes : List Note)
    (scope : Option Scope) :
    scene.Timeline scopes config needed callback told
      (events ++ notes.map (noteEvent scope) ++ told) := by
  refine .otherwise undue fun event listed => ?_
  rcases List.mem_append.1 listed with early | noted
  · exact ahead event early
  · exact plain_of_mem_notes event noted

/-- A parse that waits goes one of two ways. -/
theorem timeline_attempt (told : List Event) (closing : List Note) :
    scene.Timeline scopes config needed callback told
      ((scene.attempt scopes config needed callback .awaiting).events ++
        closing.map (noteEvent (scene.opened scopes .awaiting).head?) ++ told) := by
  cases checked : checkCall config (scene.request []).isPresent needed with
  | error e =>
    rw [attempt_of_refused scopes callback .awaiting checked]
    refine timeline_of_plain told (fun f given due => ?_) (by simp) closing _
    obtain ⟨-, accepted, -⟩ := due
    cases checked.symm.trans accepted
  | ok keys =>
    obtain ⟨finishing, course, finished⟩ := attempt_of_accepted scopes callback .awaiting checked
    have gathering := scene.plain_of_mem_gathering scopes config callback .awaiting
      (config.alwaysParsed ++ keys)
    have reading := plain_append_headers (scene.opened scopes .awaiting).head? gathering
    rw [← List.append_nil (Course.events _)] at gathering
    rw [course, Course.after_events]
    generalize collected : (scene.gathering scopes config callback .awaiting
      (config.alwaysParsed ++ keys)).value = ending at finished
    cases finished with
    | fatal code =>
      refine timeline_of_plain told (fun f given due => ?_) gathering closing _
      obtain ⟨_, _, same, -⟩ := due.presupposes checked
      cases collected.symm.trans same
    | fault e =>
      refine timeline_of_plain told (fun f given due => ?_) gathering closing _
      obtain ⟨_, _, same, -⟩ := due.presupposes checked
      cases collected.symm.trans same
    | incomplete missing =>
      refine timeline_of_plain told (fun f given due => ?_) gathering closing _
      obtain ⟨_, _, same, complete, -⟩ := due.presupposes checked
      cases collected.symm.trans same
      exact missing complete
    | undemanding _ undemanded =>
      refine timeline_of_plain told (fun f given due => ?_) gathering closing _
      obtain ⟨_, _, same, -, demanded, -⟩ := due.presupposes checked
      cases collected.symm.trans same
      rw [undemanded] at demanded
      cases demanded
    | unread complete demanded unread =>
      refine timeline_of_plain told (fun f given due => ?_) reading closing _
      obtain ⟨_, _, -, -, -, read⟩ := due.presupposes checked
      rw [sectionPayload_after, read] at unread
      cases unread
    | @authorized gathered demand headers answer complete demanded read answered =>
      cases authorizer : config.authorizer with
      | function f =>
        have due := due_of_demanded authorizer checked collected complete demanded read
        have timeline : scene.Timeline scopes config needed callback told (_ ++ _ :: _ ::
            ((authorizationNotes (scene.host []).log demand.optional answer ++ closing).map
              (noteEvent (scene.opened scopes .awaiting).head?) ++ told)) :=
          .authorizing due reading
        simpa [awaitEvents] using timeline
      | _ =>
        have undue : ∀ f given, ¬ scene.Due scopes config needed callback f given := by
          rintro f given ⟨function, -⟩
          cases authorizer.symm.trans function
        have timeline := timeline_of_plain told undue reading
          (authorizationNotes (scene.host []).log demand.optional answer ++ closing)
          (scene.opened scopes .awaiting).head?
        simpa [awaitEvents] using timeline

/-- A parse at once waits for nobody: a demand would have stopped the list. -/
theorem plain_of_mem_attempt_immediate :
    ∀ event ∈ (scene.attempt scopes config needed callback .immediate).events, event.Plain := by
  cases checked : checkCall config (scene.request []).isPresent needed with
  | error e =>
    rw [attempt_of_refused scopes callback .immediate checked]
    exact fun event listed => absurd listed List.not_mem_nil
  | ok keys =>
    obtain ⟨finishing, course, finished⟩ := attempt_of_accepted scopes callback .immediate checked
    have gathering := scene.plain_of_mem_gathering scopes config callback .immediate
      (config.alwaysParsed ++ keys)
    rw [course, Course.after_events]
    generalize collected : (scene.gathering scopes config callback .immediate
      (config.alwaysParsed ++ keys)).value = ending at finished
    cases finished with
    | unread => exact plain_append_headers _ gathering
    | authorized complete demanded =>
      obtain ⟨demands, possible⟩ := demand_of_gathering collected
      rw [demanded, possible rfl] at demands
      cases demands
    | _ => simpa using gathering

/-- The events of a parse at once are plain. -/
theorem plain_of_mem_parseNow :
    ∀ event ∈ (scene.parseNow scopes config needed).events, event.Plain := by
  intro event listed
  rw [parseNow_eq] at listed
  rcases List.mem_append.1 listed with attempted | noted
  · exact plain_of_mem_attempt_immediate event attempted
  · exact plain_of_mem_notes event noted

theorem timeline :
    scene.Timeline scopes config needed callback
      (tellingEvents scopes.head? callback.isSome
        (outcomeOf (scene.host []).log
          (scene.attempt scopes config needed callback .awaiting).value))
      (scene.parseWaiting scopes config needed callback).events := by
  rw [parseWaiting_eq]
  exact timeline_attempt _ _

/-- What is called without being waited for, as far as a parse can fail, is the sanitizer. -/
theorem sanitizer_of_called (mode : Mode) {event : Event} {f : FunctionRef} {argument : Payload}
    (listed : event ∈ (scene.attempt scopes config needed callback mode).events)
    (called : event.called? = some (f, argument)) : config.sanitizer = .function f := by
  have within := (Dialogue.orderly_attempt config mode _ _ needed).events_runAmid _ _ event listed
  cases event with
  | recorded r => cases called
  | asked q inner =>
    cases q with
    | call g given =>
      cases called
      rcases within.2 with gathers | authorizes
      · exact gathers
      · exact authorizes.elim
    | _ => cases called

theorem sanitizer_of_parseNow {event : Event} {f : FunctionRef} {argument : Payload}
    (listed : event ∈ (scene.parseNow scopes config needed).events)
    (called : event.called? = some (f, argument)) : config.sanitizer = .function f := by
  rw [parseNow_eq] at listed
  rcases List.mem_append.1 listed with attempted | noted
  · exact sanitizer_of_called .immediate attempted called
  · obtain ⟨n, -, rfl⟩ := List.mem_map.1 noted
    cases called

theorem sanitizer_of_parseWaiting {event : Event} {f : FunctionRef} {argument : Payload}
    (listed : event ∈ (scene.parseWaiting scopes config needed callback).events)
    (called : event.called? = some (f, argument)) : config.sanitizer = .function f := by
  rw [parseWaiting_eq] at listed
  rcases List.mem_append.1 listed with parsed | told
  · rcases List.mem_append.1 parsed with attempted | noted
    · exact sanitizer_of_called .awaiting attempted called
    · obtain ⟨n, -, rfl⟩ := List.mem_map.1 noted
      cases called
  · rw [(silent_of_mem_tellingEvents _ _ _ event told).uncalled] at called
    cases called

namespace Timeline

variable {told events : List Event} (timeline : scene.Timeline scopes config needed callback told
  events)

include timeline

/-- The authorizer is called and waited for once if it is due, and not at all if it is not. -/
theorem filterMap_awaited? (silent : ∀ event ∈ told, event.Silent) :
    (∃ f given, scene.Due scopes config needed callback f given ∧
        events.filterMap Event.begun? = [(f, given)] ∧
        events.filterMap Event.awaited? = [(f, given)]) ∨
      (∀ f given, ¬ scene.Due scopes config needed callback f given) ∧
        events.filterMap Event.begun? = [] ∧ events.filterMap Event.awaited? = [] := by
  have unbegun : told.filterMap Event.begun? = [] :=
    List.filterMap_eq_nil_iff.2 fun event listed => (silent event listed).unbegun
  have unawaited : told.filterMap Event.awaited? = [] :=
    List.filterMap_eq_nil_iff.2 fun event listed => (silent event listed).unawaited
  cases timeline with
  | @authorizing f given before notes due ahead =>
    refine .inl ⟨f, given, due, ?_, ?_⟩
    · rw [List.filterMap_append, filterMap_begun?_of_plain ahead, List.nil_append,
        List.filterMap_cons_some (by rfl), List.filterMap_cons_none (by rfl),
        List.filterMap_append, filterMap_notes fun _ => rfl, unbegun, List.nil_append]
    · rw [List.filterMap_append, filterMap_awaited?_of_plain ahead, List.nil_append,
        List.filterMap_cons_none (by rfl), List.filterMap_cons_some (by rfl),
        List.filterMap_append, filterMap_notes fun _ => rfl, unawaited, List.nil_append]
  | otherwise undue ahead =>
    refine .inr ⟨undue, ?_, ?_⟩
    · rw [List.filterMap_append, filterMap_begun?_of_plain ahead, unbegun, List.nil_append]
    · rw [List.filterMap_append, filterMap_awaited?_of_plain ahead, unawaited, List.nil_append]

/-- Once a function has been begun or waited for, none is called. -/
theorem pairwise_called? (silent : ∀ event ∈ told, event.Silent) :
    events.Pairwise fun earlier later =>
      earlier.begun?.isSome = true ∨ earlier.awaited?.isSome = true → later.called? = none := by
  -- The condition is empty for all events but two, and nothing is called behind the first of them.
  have early : ∀ {events others : List Event}, (∀ event ∈ events, event.Plain) →
      ∀ earlier ∈ events, ∀ later ∈ others,
        earlier.begun?.isSome = true ∨ earlier.awaited?.isSome = true → later.called? = none := by
    intro events others plain earlier listed later _ waits
    rw [(plain earlier listed).unbegun, (plain earlier listed).unawaited] at waits
    rcases waits with waits | waits <;> cases waits
  have quiet : ∀ {events : List Event}, (∀ event ∈ events, event.Plain) →
      events.Pairwise fun earlier later =>
        earlier.begun?.isSome = true ∨ earlier.awaited?.isSome = true → later.called? = none :=
    fun plain => List.pairwise_of_forall_mem_list fun earlier listed later other =>
      early plain earlier listed later other
  have late : ∀ {events : List Event}, (∀ event ∈ events, event.called? = none) →
      events.Pairwise fun earlier later =>
        earlier.begun?.isSome = true ∨ earlier.awaited?.isSome = true → later.called? = none :=
    fun uncalled => List.pairwise_of_forall_mem_list fun _ _ later other _ => uncalled later other
  cases timeline with
  | @authorizing f given before notes due ahead =>
    refine List.pairwise_append.2 ⟨quiet ahead, late fun event listed => ?_, early ahead⟩
    rcases List.mem_cons.1 listed with rfl | listed
    · rfl
    · rcases List.mem_cons.1 listed with rfl | listed
      · rfl
      · rcases List.mem_append.1 listed with noted | last
        · exact (silent_of_mem_notes event noted).uncalled
        · exact (silent event last).uncalled
  | @otherwise before undue ahead =>
    exact List.pairwise_append.2
      ⟨quiet ahead, late fun event listed => (silent event listed).uncalled, early ahead⟩

end Timeline

end Scene

/-- The authorizer is waited for when it is due, and then only. In every scene, a parse that waits
gives it the headers once if it is due and never if it is not, and calls no function after that; it
is called exactly where it is then waited for. A parse at once never calls it and never waits for
it, and what either calls without waiting is the sanitizer. A parse that takes turns, however many
and with however many pauses, does the same, bit by bit. -/
theorem authorizer_awaited_when_due (scene : Scene) (scopes : List Scope) (config : Config)
    (needed : Payload) (callback : Option Callback) :
    let now := scene.parseNow scopes config needed
    let waiting := scene.parseWaiting scopes config needed callback
    (∀ f given, (f, given) ∈ waiting.events.filterMap Event.awaited? ↔
        scene.Due scopes config needed callback f given) ∧
      (waiting.events.filterMap Event.awaited?).length ≤ 1 ∧
      waiting.events.filterMap Event.begun? = waiting.events.filterMap Event.awaited? ∧
      (waiting.events.Pairwise fun earlier later =>
        earlier.begun?.isSome = true ∨ earlier.awaited?.isSome = true → later.called? = none) ∧
      now.events.filterMap Event.begun? = [] ∧ now.events.filterMap Event.awaited? = [] ∧
      (∀ call ∈ (now.events ++ waiting.events).filterMap Event.called?,
        config.sanitizer = .function call.1) ∧
      ∀ (host : Host) (request : Request) (count : Nat),
        let (world, turn) := host.schedule scopes config ⟨request, needed⟩ callback
        let whole := (Scene.still host request).parseWaiting scopes config needed callback
        (turn.job.turns world count).events <+: whole.events ∧
          (turn.job.turns world (turn.job.turnsLeft world + count)).events = whole.events := by
  intro now waiting
  have timeline : scene.Timeline scopes config needed callback _ waiting.events := scene.timeline
  have silent := silent_of_mem_tellingEvents scopes.head? callback.isSome
    (outcomeOf (scene.host []).log (scene.attempt scopes config needed callback .awaiting).value)
  refine ⟨?_, ?_, ?_, timeline.pairwise_called? silent,
    filterMap_begun?_of_plain Scene.plain_of_mem_parseNow,
    filterMap_awaited?_of_plain Scene.plain_of_mem_parseNow, ?_, ?_⟩
  · intro f given
    rcases timeline.filterMap_awaited? silent with ⟨g, other, due, -, once⟩ | ⟨undue, -, never⟩
    · rw [once, List.mem_singleton]
      apply Iff.intro
      · intro same
        cases same
        exact due
      · intro another
        obtain ⟨rfl, rfl⟩ := another.unique due
        rfl
    · rw [never]
      exact ⟨fun listed => absurd listed List.not_mem_nil, fun due => absurd due (undue f given)⟩
  · rcases timeline.filterMap_awaited? silent with ⟨g, other, due, -, once⟩ | ⟨undue, -, never⟩
    · rw [once]
      exact Nat.le_refl 1
    · rw [never]
      exact Nat.zero_le 1
  · rcases timeline.filterMap_awaited? silent with ⟨g, other, due, begun, once⟩ | ⟨-, none, never⟩
    · rw [begun, once]
    · rw [none, never]
  · rintro ⟨f, argument⟩ called
    obtain ⟨event, listed, calls⟩ := List.mem_filterMap.1 called
    rcases List.mem_append.1 listed with atOnce | later
    · exact Scene.sanitizer_of_parseNow atOnce calls
    · exact Scene.sanitizer_of_parseWaiting later calls
  · intro host request count
    rw [Scene.parseWaiting_still host scopes config ⟨request, needed⟩ callback]
    have ahead := Job.ahead_turns (host.world request callback) count
      (.ready scopes (host.dialogue config ⟨request, needed⟩ callback))
    have finished := Job.turns_of_enough (host.world request callback) (Nat.le_add_right
      (Job.turnsLeft (host.world request callback)
        (.ready scopes (host.dialogue config ⟨request, needed⟩ callback))) count)
    exact ⟨⟨_, ahead⟩, congrArg Turn.events finished⟩

end Intake
