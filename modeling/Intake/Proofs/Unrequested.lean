import Intake.Proofs.Parse
import Intake.Proofs.Reading

/-!
# What a parse does not look at

Two requests are alike for some specifiers if no lookup tells them apart: where a specifier names a
section, both requests have the same entry there, or both have no such section, or reading it is the
same fault in both. Nothing else is said of them; they may be of different sorts, with different
members.

Alike requests are carried through a parse step by step. `Host.visit_alike` is the step of gathering
and `Host.gather_alike` its run; it holds up to the specifier that stops the list, which is where
compiling the list may end as well. After gathering only the headers are read, and only if the
principal has been asked for (`Host.finish_alike`). `parse_ignores_unrequested` is the result: the
courses of a parse of alike requests are equal, down to every event.
-/

namespace Intake

/-- What a section of a request has under a name: where there is no section, nothing to ask. -/
def Request.entry (request : Request) (s : Section) (name : String) :
    Except Fault (Option (Option Payload)) :=
  (request.read s.name).map fun value => value.fields?.map (Fields.get? · name)

/-- The headers of a request as an authorizer is given them, null if there are none. -/
def Request.headers (request : Request) : Except Fault Payload :=
  (request.read Section.headers.name).map fun value =>
    if value.fields?.isSome then value else .null

/-- No lookup of the compiled specifiers tells the requests apart. -/
def Request.Alike (first second : Request) (specs : List (Except Fault Specifier)) : Prop :=
  ∀ spec, .ok spec ∈ specs → ∀ s, spec.source = some (.field s) →
    first.entry s spec.lookupName = second.entry s spec.lookupName

/-- What compiling the entries of a call yields. -/
def Config.directives (config : Config) (needed : Payload) : List (Except Fault Specifier) :=
  Specifier.compileAll config.canSanitize
    (config.alwaysParsed ++ needed.sequence?.getD [])

/-- A key that compiles is yielded if all keys do. -/
theorem Specifier.mem_compileAll {canSanitize : Bool} {keys : List Payload} {key : Payload}
    {spec : Specifier}
    (compiled : ∀ key ∈ keys, ∃ spec, compile canSanitize key = .ok spec) (listed : key ∈ keys)
    (read : compile canSanitize key = .ok spec) : .ok spec ∈ compileAll canSanitize keys := by
  induction keys with
  | nil => cases listed
  | cons first rest ih =>
    obtain ⟨other, readFirst⟩ := compiled first List.mem_cons_self
    rw [compileAll, readFirst]
    rcases List.mem_cons.1 listed with rfl | later
    · rw [readFirst] at read
      cases read
      exact List.mem_cons_self
    · exact List.mem_cons_of_mem _
        (ih (fun key found => compiled key (List.mem_cons_of_mem _ found)) later)

namespace Host

variable (host : Host) (callback : Option Callback) (config : Config) {first second : Request}

/-! ## Gathering -/

theorem field_alike {s : Section} {name : String}
    (same : first.entry s name = second.entry s name) (scope : Option Scope)
    (sanitize optional : Bool) :
    (host.world first callback).fieldValue scope config s name sanitize optional =
        (host.world second callback).fieldValue scope config s name sanitize optional ∧
      (host.world first callback).fieldCalls config s name sanitize =
        (host.world second callback).fieldCalls config s name sanitize := by
  have entry : (host.world first callback).entry s name =
      (host.world second callback).entry s name := same
  refine ⟨?_, ?_⟩
  · rw [World.fieldValue, World.fieldValue, entry]
    rfl
  · rw [World.fieldCalls, World.fieldCalls, entry]

theorem specifier_alike {spec : Specifier}
    (same : ∀ s, spec.source = some (.field s) →
      first.entry s spec.lookupName = second.entry s spec.lookupName)
    (scope : Option Scope) (mode : Mode) :
    (host.world first callback).verdict scope config mode spec =
        (host.world second callback).verdict scope config mode spec ∧
      (host.world first callback).specifierEvents scope config spec =
        (host.world second callback).specifierEvents scope config spec := by
  unfold World.verdict World.specifierEvents World.specifierCalls
  cases source : spec.source with
  | none => exact ⟨rfl, rfl⟩
  | some origin =>
    cases origin with
    | auth => exact ⟨rfl, rfl⟩
    | field s =>
      obtain ⟨value, calls⟩ := field_alike host callback config (same s source) scope
        spec.sanitize spec.optional
      dsimp only
      rw [value, calls]
      exact ⟨rfl, rfl⟩

/-- The step: the first key of a list has the same verdict and the same events for alike requests,
whether or not it compiles, and behind a key that does not stop the list they are still alike. -/
theorem visit_alike {key : Payload} {rest : List Payload}
    (alike : first.Alike second (Specifier.compileAll config.canSanitize (key :: rest)))
    (scope : Option Scope) (mode : Mode) (tracing : Bool) :
    (host.world first callback).verdictOf scope config mode key =
        (host.world second callback).verdictOf scope config mode key ∧
      (host.world first callback).visitEvents scope config tracing key =
        (host.world second callback).visitEvents scope config tracing key ∧
      (((host.world second callback).verdictOf scope config mode key).stop? = none →
        first.Alike second (Specifier.compileAll config.canSanitize rest)) := by
  unfold World.verdictOf World.visitEvents
  rw [Specifier.compileAll] at alike
  cases read : Specifier.compile config.canSanitize key with
  | error e => exact ⟨rfl, rfl, nofun⟩
  | ok spec =>
    rw [read] at alike
    obtain ⟨verdict, events⟩ := specifier_alike host callback config
      (alike spec List.mem_cons_self) scope mode
    dsimp only
    rw [verdict, events]
    exact ⟨rfl, rfl, fun _ spec found => alike spec (List.mem_cons_of_mem _ found)⟩

/-- The run: alike requests have the same events while a list is gathered, and whatever has been
gathered before, the same is gathered from them. -/
theorem foldlM_alike {keys : List Payload}
    (alike : first.Alike second (Specifier.compileAll config.canSanitize keys))
    (scope : Option Scope) (mode : Mode) (tracing : Bool) (gathered : Gathered) :
    (keys.map ((host.world first callback).verdictOf scope config mode)).foldlM Gathered.settle
          gathered =
        (keys.map ((host.world second callback).verdictOf scope config mode)).foldlM
          Gathered.settle gathered ∧
      (host.world first callback).gatherEvents scope config mode tracing keys =
        (host.world second callback).gatherEvents scope config mode tracing keys := by
  -- The rest is compiled, and compared, only behind a key that does not stop the list.
  induction keys generalizing gathered with
  | nil => exact ⟨rfl, rfl⟩
  | cons key rest ih =>
    obtain ⟨verdict, events, goesOn⟩ := visit_alike host callback config alike scope mode tracing
    rw [List.map_cons, List.foldlM_cons, List.map_cons, List.foldlM_cons,
      World.gatherEvents_cons, World.gatherEvents_cons, verdict, events]
    cases settled : (host.world second callback).verdictOf scope config mode key with
    | stopped stop => exact ⟨rfl, rfl⟩
    | _ =>
      rw [settled] at goesOn
      have later := ih (goesOn rfl)
      exact ⟨(later _).1, congrArg _ (later gathered).2⟩

theorem gather_alike {keys : List Payload}
    (alike : first.Alike second (Specifier.compileAll config.canSanitize keys))
    (scope : Option Scope) (mode : Mode) (tracing : Bool) :
    (host.world first callback).gathering scope config mode keys =
        (host.world second callback).gathering scope config mode keys ∧
      (host.world first callback).gatherEvents scope config mode tracing keys =
        (host.world second callback).gatherEvents scope config mode tracing keys := by
  obtain ⟨ends, events⟩ := foldlM_alike host callback config alike scope mode tracing
    Gathered.empty
  rw [Verdict.foldlM_settle, Verdict.foldlM_settle] at ends
  exact ⟨ends, events⟩

/-! ## Authorizing -/

/-- A specifier is a demand only with waiting, and only if it asks for the principal. -/
theorem principal_of_demand? {world : World} {scope : Option Scope} {mode : Mode}
    {spec : Specifier} {optional : Bool}
    (asks : (world.verdict scope config mode spec).demand? = some optional) :
    mode = .awaiting ∧ spec.source = some .auth := by
  rw [World.verdict_eq] at asks
  have read := Reading.eq_principal_of_demand? asks
  unfold Reading.ofSpecifier at read
  cases source : spec.source with
  | none => rw [source] at read; cases read
  | some origin =>
    rw [source] at read
    cases origin with
    | field s => cases read
    | auth =>
      cases mode with
      | immediate => cases read
      | awaiting => exact ⟨rfl, rfl⟩

/-- So the principal is demanded only with waiting, and only by a specifier that asks for it. -/
theorem demanded_of_gathering {world : World} {scope : Option Scope} {mode : Mode}
    {keys : List Payload} {gathered : Gathered} {demand : Demand}
    (collected : world.gathering scope config mode keys = .ok gathered)
    (demanded : gathered.demand = some demand) :
    mode = .awaiting ∧
      ∃ spec, .ok spec ∈ Specifier.compileAll config.canSanitize keys ∧
        spec.source = some .auth := by
  obtain ⟨free, rfl⟩ := Verdict.outcome_eq_ok_iff.1 collected
  have compiled : ∀ key ∈ keys, ∃ spec, Specifier.compile config.canSanitize key = .ok spec := by
    intro key listed
    have goes := free _ (List.mem_map_of_mem listed)
    unfold World.verdictOf at goes
    cases read : Specifier.compile config.canSanitize key with
    | ok spec => exact ⟨spec, rfl⟩
    | error e => rw [read] at goes; cases goes
  -- A demand that is not none comes from a verdict that is one.
  obtain ⟨verdict, found, optional, asks⟩ :
      ∃ verdict ∈ keys.map (world.verdictOf scope config mode),
        ∃ optional, verdict.demand? = some optional := by
    cases demands : (keys.map (world.verdictOf scope config mode)).filterMap Verdict.demand? with
    | nil =>
      rw [Verdict.gathered, demands] at demanded
      cases demanded
    | cons optional others =>
      have first : optional ∈
          (keys.map (world.verdictOf scope config mode)).filterMap Verdict.demand? := by
        rw [demands]
        exact List.mem_cons_self
      obtain ⟨verdict, found, asks⟩ := List.mem_filterMap.1 first
      exact ⟨verdict, found, optional, asks⟩
  obtain ⟨key, listed, rfl⟩ := List.mem_map.1 found
  obtain ⟨spec, read⟩ := compiled key listed
  have yielded := Specifier.mem_compileAll compiled listed read
  unfold World.verdictOf at asks
  rw [read] at asks
  obtain ⟨waits, source⟩ := principal_of_demand? config asks
  exact ⟨waits, spec, yielded, source⟩

/-- What is gathered is finished in the same way for requests whose headers are the same where the
principal is demanded. -/
theorem finish_alike {ending : Except Stop Gathered}
    (headers : ∀ gathered demand, ending = .ok gathered → gathered.demand = some demand →
      first.headers = second.headers)
    (scope : Option Scope) (log : Log) :
    (host.world first callback).finish scope config log ending =
        (host.world second callback).finish scope config log ending ∧
      (host.world first callback).finishEvents scope config log ending =
        (host.world second callback).finishEvents scope config log ending := by
  cases ending with
  | error stop => cases stop <;> exact ⟨rfl, rfl⟩
  | ok gathered =>
    cases demanded : gathered.demand with
    | none => simp only [World.finish, World.finishEvents, demanded, and_self]
    | some demand =>
      have payload : (host.world first callback).sectionPayload .headers =
          (host.world second callback).sectionPayload .headers :=
        headers gathered demand rfl demanded
      have principal : (host.world first callback).principal scope config log demand.optional =
          (host.world second callback).principal scope config log demand.optional := by
        rw [World.principal, World.principal, payload]
        rfl
      have events :
          (host.world first callback).principalEvents scope config log demand.optional =
            (host.world second callback).principalEvents scope config log demand.optional := by
        rw [World.principalEvents, World.principalEvents, payload]
        rfl
      simp only [World.finish, World.finishEvents, demanded, principal, events, and_self]

/-! ## Parsing -/

variable {needed : Payload}

theorem attempt_alike (hasRequest : Bool) (mode : Mode)
    (alike : first.Alike second (config.directives needed))
    (headers : mode = .awaiting →
      (∃ spec, .ok spec ∈ config.directives needed ∧ spec.source = some .auth) →
        first.headers = second.headers)
    (scope : Option Scope) (log : Log) :
    (host.world first callback).attemptEnding scope config mode log hasRequest needed =
        (host.world second callback).attemptEnding scope config mode log hasRequest needed ∧
      (host.world first callback).attemptEvents scope config mode log hasRequest needed =
        (host.world second callback).attemptEvents scope config mode log hasRequest needed := by
  cases checked : checkCall config hasRequest needed with
  | error e => simp only [World.attemptEnding, World.attemptEvents, checked, and_self]
  | ok keys =>
    obtain ⟨listed, -⟩ := checkCall_eq_ok_iff.1 checked
    have directives : config.directives needed =
        Specifier.compileAll config.canSanitize (config.alwaysParsed ++ keys) := by
      rw [Config.directives, listed]
      rfl
    rw [directives] at alike headers
    obtain ⟨gathering, events⟩ := gather_alike host callback config alike scope mode log.tracing
    have demanding : ∀ gathered demand,
        (host.world second callback).gathering scope config mode (config.alwaysParsed ++ keys) =
            .ok gathered →
          gathered.demand = some demand → first.headers = second.headers := by
      intro gathered demand collected demanded
      obtain ⟨waits, asked⟩ := demanded_of_gathering config collected demanded
      exact headers waits asked
    obtain ⟨ends, eventsAfter⟩ := finish_alike host callback config demanding scope log
    rw [World.attemptEnding_of_ok _ _ _ _ checked, World.attemptEnding_of_ok _ _ _ _ checked,
      World.attemptEvents_of_ok _ _ _ _ checked, World.attemptEvents_of_ok _ _ _ _ checked,
      gathering, events, ends, eventsAfter]
    exact ⟨rfl, rfl⟩

/-- Alike requests come to the same course, in either mode. -/
theorem parse_alike (mode : Mode) (present : first.isPresent = second.isPresent)
    (alike : first.Alike second (config.directives needed))
    (headers : mode = .awaiting →
      (∃ spec, .ok spec ∈ config.directives needed ∧ spec.source = some .auth) →
        first.headers = second.headers) :
    host.ending config ⟨first, needed⟩ callback mode =
        host.ending config ⟨second, needed⟩ callback mode ∧
      host.parseEvents config ⟨first, needed⟩ callback mode =
        host.parseEvents config ⟨second, needed⟩ callback mode := by
  obtain ⟨ends, events⟩ := attempt_alike host callback config second.isPresent mode alike headers
    (host.scope mode) host.log
  have ending : host.ending config ⟨first, needed⟩ callback mode =
      host.ending config ⟨second, needed⟩ callback mode := by
    unfold ending
    dsimp only
    rw [present, ends]
  refine ⟨ending, ?_⟩
  unfold parseEvents
  dsimp only
  rw [ending, present, events]

end Host

/-- What is not requested has no influence on a parse. If no lookup of the specifiers of a call
tells two requests apart, they are parsed alike at once; and with waiting as well, unless the
principal is asked for and their headers differ. The courses are equal: the outcome, and every event
on the way. -/
theorem parse_ignores_unrequested (host : Host) (scopes : List Scope) (config : Config)
    (needed : Payload) (first second : Request) (presentFirst : first.isPresent = true)
    (presentSecond : second.isPresent = true)
    (alike : first.Alike second (config.directives needed)) :
    host.parseNow scopes config ⟨first, needed⟩ = host.parseNow scopes config ⟨second, needed⟩ ∧
      ((¬ ∃ spec, .ok spec ∈ config.directives needed ∧ spec.source = some .auth) ∨
          first.headers = second.headers →
        ∀ callback, host.parseWaiting scopes config ⟨first, needed⟩ callback =
          host.parseWaiting scopes config ⟨second, needed⟩ callback) := by
  have present : first.isPresent = second.isPresent := presentFirst.trans presentSecond.symm
  refine ⟨?_, ?_⟩
  · obtain ⟨ending, events⟩ := Host.parse_alike host none config .immediate present alike nofun
    rw [Host.parseNow_eq, Host.parseNow_eq, ending, events]
  · intro headers callback
    obtain ⟨ending, events⟩ := Host.parse_alike host callback config .awaiting present alike
      fun _ asked => headers.resolve_left fun unasked => unasked asked
    rw [Host.parseWaiting_eq, Host.parseWaiting_eq, ending, events]
    rfl

/-- An object and a plain record, with other fields and another section, are parsed alike. -/
theorem parse_ignores_unrequested_sample :
    let second : Request := .plain (.record [("query", .text "?"), ("body", .record
      [("secret", .bool true), ("a", .text "x")]), ("headers", .record
      [("lang", .text "de"), ("cookie", .text "c")])])
    let needed := Payload.list [.text "B*a", .text "H*Lang?"]
    sampleRequest.isPresent = true ∧ second.isPresent = true ∧
      sampleRequest.Alike second (sampleConfig.directives needed) ∧
      wrappingHost.parseNow [] sampleConfig ⟨sampleRequest, needed⟩ =
        wrappingHost.parseNow [] sampleConfig ⟨second, needed⟩ ∧
      wrappingHost.parseWaiting [] sampleConfig ⟨sampleRequest, needed⟩ none =
        wrappingHost.parseWaiting [] sampleConfig ⟨second, needed⟩ none := by
  intro second needed
  have directives : sampleConfig.directives needed =
      [.ok ⟨"HLang", some (.field .headers), false, false, "Lang"⟩,
        .ok ⟨"B*a", some (.field .body), true, false, "a"⟩,
        .ok ⟨"H*Lang?", some (.field .headers), true, true, "Lang"⟩] := rfl
  have alike : sampleRequest.Alike second (sampleConfig.directives needed) := by
    rw [directives]
    intro spec listed s source
    simp only [List.mem_cons, Except.ok.injEq, List.not_mem_nil, or_false] at listed
    rcases listed with rfl | rfl | rfl <;> cases source <;> rfl
  have unasked : ¬ ∃ spec, .ok spec ∈ sampleConfig.directives needed ∧
      spec.source = some .auth := by
    rw [directives]
    intro found
    rcases found with ⟨spec, listed, source⟩
    simp only [List.mem_cons, Except.ok.injEq, List.not_mem_nil, or_false] at listed
    rcases listed with rfl | rfl | rfl <;> cases source
  have ignored := parse_ignores_unrequested wrappingHost [] sampleConfig needed sampleRequest
    second rfl rfl alike
  exact ⟨rfl, rfl, alike, ignored.1, ignored.2 (.inl unasked) none⟩

end Intake
