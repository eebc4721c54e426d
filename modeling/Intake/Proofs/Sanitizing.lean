import Intake.Proofs.Principal
import Intake.Proofs.Reading
import Intake.Proofs.Tour

/-!
# Where the sanitizer is called

A key calls for the sanitizer if it names a field, carries a star, and finds a value that is not to
be left alone: `World.occasion?` is that value. `World.Handles` goes through the ways in which a key
can be handled, with what each presupposes, the value that the sanitizer is called with, and the
verdict; `World.handles` says that every key is handled in one of them.

What is called is recorded in the events of a parse, asynchronous functions like any other. Nobody
waits for those, so that what they yield is pending, and holds the value that they were called with.

`sanitizer_called_where_due` says that, whatever functions and requests answer and even if they
answer differently each time, the calls of gathering are those of the keys on its tour, one after
the other, and that there are no other calls in a parse.
-/

namespace Intake

/-! ## One key -/

/-- The calls that are seen where the sanitizer is called with a value: one, if it is a function. -/
def Config.sanitizerCalls (config : Config) (value : Payload) : List (FunctionRef × Payload) :=
  match config.sanitizer with
  | .function f => [(f, value)]
  | _ => []

/-- What calling the sanitizer with a value yields. -/
def World.sanitized (world : World) (scope : Option Scope) (config : Config) (value : Payload) :
    Except Fault Payload :=
  match config.sanitizer with
  | .function f =>
    if f.asynchronous then .ok (.pending f value) else world.collaborators.respond f scope value
  | other => .error (.notCallable other.typeName)

/-- The value that the sanitizer is called with for the sake of a specifier, if it is called. -/
def World.specifierOccasion? (world : World) (config : Config) (spec : Specifier) :
    Option Payload :=
  match spec.source with
  | some (.field s) =>
    match world.entry s spec.lookupName with
    | .ok (some (some value)) =>
      if spec.sanitize && !config.leavesAlone value then some value else none
    | _ => none
  | _ => none

/-- The value that the sanitizer is called with for the sake of a key, if it is called. -/
def World.occasion? (world : World) (config : Config) (key : Payload) : Option Payload :=
  match Specifier.compile config.canSanitize key with
  | .ok spec => world.specifierOccasion? config spec
  | .error _ => none

/-- A key is read as a specifier of a source, or of none. -/
structure Config.Reads (config : Config) (key : Payload) (source : Option Source)
    (spec : Specifier) : Prop where
  compiled : Specifier.compile config.canSanitize key = .ok spec
  source : spec.source = source

/-- The keys that stop a list for good, each with the code of the failure. -/
inductive Config.Fatal (config : Config) (mode : Mode) (key : Payload) : ErrorCode → Prop
  | sanitizerNotSet {rejection : Rejection}
      (unread : Specifier.compile config.canSanitize key = .error (.rejection rejection)) :
      Fatal config mode key .sanitizerNotSet
  | immediateAuthorization {spec : Specifier} (reads : config.Reads key (some .auth) spec)
      (immediate : mode = .immediate) : Fatal config mode key .immediateAuthorization
  | authorizerNotSet {spec : Specifier} (reads : config.Reads key (some .auth) spec)
      (awaiting : mode = .awaiting) (unable : config.canAuthorize = false) :
      Fatal config mode key .authorizerNotSet

/-- The ways in which a key is handled: with the value that the sanitizer is called with, if it is
called, and the verdict. The sanitizer is called in the last two only. A key that has no text is not
even read. -/
inductive World.Handles (world : World) (scope : Option Scope) (config : Config) (mode : Mode)
    (key : Payload) : Option Payload → Verdict → Prop
  | fatal {code : ErrorCode} (fatal : config.Fatal mode key code) :
      Handles world scope config mode key none (.stopped (.fatal code))
  | untold {e : Fault} (untold : key.asText = .error e) :
      Handles world scope config mode key none (.stopped (.fault e))
  | demanded {spec : Specifier} (reads : config.Reads key (some .auth) spec)
      (awaiting : mode = .awaiting) (able : config.canAuthorize = true) :
      Handles world scope config mode key none (.demanded spec.optional)
  | unknown {spec : Specifier} (reads : config.Reads key none spec) :
      Handles world scope config mode key none (.refused (.unknownSource spec.raw))
  | unread {spec : Specifier} {s : Section} {e : Fault}
      (reads : config.Reads key (some (.field s)) spec)
      (entry : world.entry s spec.lookupName = .error e) :
      Handles world scope config mode key none (.stopped (.fault e))
  | sectionless {spec : Specifier} {s : Section}
      (reads : config.Reads key (some (.field s)) spec)
      (entry : world.entry s spec.lookupName = .ok none) :
      Handles world scope config mode key none (.refused (.missing s spec.fieldName))
  | missing {spec : Specifier} {s : Section} (reads : config.Reads key (some (.field s)) spec)
      (entry : world.entry s spec.lookupName = .ok (some none)) (required : spec.optional = false) :
      Handles world scope config mode key none (.refused (.missing s spec.fieldName))
  | absent {spec : Specifier} {s : Section} (reads : config.Reads key (some (.field s)) spec)
      (entry : world.entry s spec.lookupName = .ok (some none)) (optional : spec.optional = true) :
      Handles world scope config mode key none (.stored s spec.fieldName .null)
  | spared {spec : Specifier} {s : Section} {value : Payload}
      (reads : config.Reads key (some (.field s)) spec)
      (entry : world.entry s spec.lookupName = .ok (some (some value)))
      (spared : spec.sanitize = false ∨ value.isNull = true ∨
        config.unsanitizedKinds.contains value.kind.name = true) :
      Handles world scope config mode key none (.stored s spec.fieldName value)
  | cleaned {spec : Specifier} {s : Section} {value clean : Payload}
      (reads : config.Reads key (some (.field s)) spec)
      (entry : world.entry s spec.lookupName = .ok (some (some value)))
      (marked : spec.sanitize = true) (present : value.isNull = false)
      (exposed : config.unsanitizedKinds.contains value.kind.name = false)
      (answered : world.sanitized scope config value = .ok clean) :
      Handles world scope config mode key (some value) (.stored s spec.fieldName clean)
  | raised {spec : Specifier} {s : Section} {value : Payload} {e : Fault}
      (reads : config.Reads key (some (.field s)) spec)
      (entry : world.entry s spec.lookupName = .ok (some (some value)))
      (marked : spec.sanitize = true) (present : value.isNull = false)
      (exposed : config.unsanitizedKinds.contains value.kind.name = false)
      (answered : world.sanitized scope config value = .error e) :
      Handles world scope config mode key (some value) (.stopped (.fault e))

namespace World

variable (world : World) (scope : Option Scope) (config : Config) (mode : Mode)

/-- Where cleaning is due, the sanitizer is called. -/
theorem cleaned_of_due {sanitize : Bool} {value : Payload}
    (due : (sanitize && !config.leavesAlone value) = true) :
    world.cleaned scope config sanitize value = world.sanitized scope config value := by
  rw [cleaned, if_pos due, sanitized]
  cases config.sanitizer <;> rfl

/-- A value that is there is stored as it is, or cleaned if the sanitizer is called. -/
theorem handles_value {key value : Payload} {spec : Specifier} {s : Section}
    (reads : config.Reads key (some (.field s)) spec)
    (entry : world.entry s spec.lookupName = .ok (some (some value))) :
    world.Handles scope config mode key
      (if spec.sanitize && !config.leavesAlone value then some value else none)
      (match some <$> world.cleaned scope config spec.sanitize value with
        | .error e => .stopped (.fault e)
        | .ok (some value) => .stored s spec.fieldName value
        | .ok none => .refused (.missing s spec.fieldName)) := by
  by_cases due : (spec.sanitize && !config.leavesAlone value) = true
  · have calls : world.cleaned scope config spec.sanitize value =
        world.sanitized scope config value := world.cleaned_of_due scope config due
    obtain ⟨marked, present, exposed⟩ : spec.sanitize = true ∧ value.isNull = false ∧
        config.unsanitizedKinds.contains value.kind.name = false := by
      simpa [Config.leavesAlone] using due
    rw [if_pos due, calls]
    cases answered : world.sanitized scope config value with
    | error e => exact .raised reads entry marked present exposed answered
    | ok clean => exact .cleaned reads entry marked present exposed answered
  · have keeps : world.cleaned scope config spec.sanitize value = .ok value := if_neg due
    have spared : spec.sanitize = false ∨ value.isNull = true ∨
        config.unsanitizedKinds.contains value.kind.name = true := by
      simpa [Config.leavesAlone, Bool.eq_false_or_eq_true, or_iff_not_imp_left] using due
    rw [if_neg due, keeps]
    exact .spared reads entry spared

/-- A field is handled according to what its entry is. -/
theorem handles_field {key : Payload} {spec : Specifier} {s : Section}
    (reads : config.Reads key (some (.field s)) spec) :
    world.Handles scope config mode key (world.specifierOccasion? config spec)
      (world.verdict scope config mode spec) := by
  unfold specifierOccasion? verdict fieldValue
  rw [reads.source]
  dsimp only
  cases entry : world.entry s spec.lookupName with
  | error e => exact .unread reads entry
  | ok found =>
    rcases found with _ | _ | value
    · exact .sectionless reads entry
    · cases optional : spec.optional with
      | false => exact .missing reads entry optional
      | true => exact .absent reads entry optional
    · exact world.handles_value scope config mode reads entry

/-- Every key is handled in one of the ways there are. -/
theorem handles (key : Payload) :
    world.Handles scope config mode key (world.occasion? config key)
      (world.verdictOf scope config mode key) := by
  unfold occasion? verdictOf
  cases compiled : Specifier.compile config.canSanitize key with
  | error e =>
    rcases Specifier.compile_eq_error compiled with ⟨s, r, rfl, rfl⟩ | ⟨untold, rfl⟩
    · exact .fatal (.sanitizerNotSet compiled)
    · exact .untold untold
  | ok spec =>
    dsimp only
    rcases source : spec.source with _ | _ | s
    · simp only [specifierOccasion?, verdict, source]
      exact .unknown ⟨compiled, source⟩
    · simp only [specifierOccasion?, verdict, source]
      cases mode with
      | immediate => exact .fatal (.immediateAuthorization ⟨compiled, source⟩ rfl)
      | awaiting =>
        cases able : config.canAuthorize with
        | true => exact .demanded ⟨compiled, source⟩ rfl able
        | false => exact .fatal (.authorizerNotSet ⟨compiled, source⟩ rfl able)
    · exact world.handles_field scope config mode ⟨compiled, source⟩

/-- What is called on a visit is the sanitizer, with the value that it is called with. -/
theorem called_visitEvents (tracing : Bool) (key : Payload) :
    (world.visitEvents scope config tracing key).filterMap Event.called? =
      (world.occasion? config key).toList.flatMap config.sanitizerCalls := by
  unfold visitEvents occasion?
  cases Specifier.compile config.canSanitize key with
  | error e => rfl
  | ok spec =>
    have traced : (if tracing then [Event.recorded ⟨compiledNote spec, scope⟩] else []).filterMap
        Event.called? = [] := by
      cases tracing <;> rfl
    have seen : ∀ calls : List (FunctionRef × Payload),
        (calls.map (callEvent scope)).filterMap Event.called? = calls := fun calls => by
      rw [List.filterMap_map]
      exact List.filterMap_some
    dsimp only
    rw [List.filterMap_append, traced, List.nil_append]
    unfold specifierEvents specifierCalls specifierOccasion?
    cases spec.source with
    | none => rfl
    | some source =>
      cases source with
      | auth => rfl
      | field s =>
        dsimp only
        rw [List.filterMap_cons_none (by rfl), seen]
        unfold fieldCalls Config.cleaner? Config.sanitizerCalls
        cases world.entry s spec.lookupName with
        | error e => rfl
        | ok there =>
          rcases there with _ | _ | value
          · rfl
          · rfl
          · dsimp only
            split
            · cases config.sanitizer with
              | function f => rfl
              | _ => rfl
            · rfl

end World

/-! ## A list -/

namespace Surroundings

variable (around : Surroundings) (scopes : List Scope) (config : Config) (mode : Mode)
  (tracing : Bool) (keys : List Payload)

/-- The verdicts on the keys of a list that are visited. -/
def verdicts : List Verdict :=
  (around.tour scopes.head? config mode tracing keys).map fun visit =>
    visit.1.verdictOf scopes.head? config mode visit.2

/-- The values that the sanitizer is called with on the way through a list. -/
def occasions : List Payload :=
  (around.tour scopes.head? config mode tracing keys).filterMap fun visit =>
    visit.1.occasion? config visit.2

/-- How a list is gathered. Its keys are visited in order, up to the first whose verdict stops the
list, or else all of them; each is handled in one of the ways there are; the calls are those of the
sanitizer with the values that it is called with, in order; and the list comes to the outcome of the
verdicts. -/
structure Toured : Prop where
  inOrder : (around.tour scopes.head? config mode tracing keys).map Prod.snd <+: keys
  onward : ∀ verdict ∈ (around.verdicts scopes config mode tracing keys).dropLast,
    verdict.stop? = none
  ends : (around.tour scopes.head? config mode tracing keys).map Prod.snd = keys ∨
    ∃ verdict ∈ (around.verdicts scopes config mode tracing keys).getLast?,
      verdict.stop?.isSome = true
  handled : ∀ visit ∈ around.tour scopes.head? config mode tracing keys,
    visit.1.Handles scopes.head? config mode visit.2 (visit.1.occasion? config visit.2)
      (visit.1.verdictOf scopes.head? config mode visit.2)
  calls : ((gather config mode tracing keys).run.runAmid around scopes).events.filterMap
      Event.called? =
    (around.occasions scopes config mode tracing keys).flatMap config.sanitizerCalls
  value : ((gather config mode tracing keys).run.runAmid around scopes).value =
    Verdict.outcome (around.verdicts scopes config mode tracing keys)

theorem toured : around.Toured scopes config mode tracing keys := by
  have gathered := Dialogue.runAmid_gather around scopes config mode tracing keys
  have events := congrArg Course.events gathered
  obtain ⟨onward, ends⟩ := tour_ends scopes.head? config mode tracing around keys
  refine ⟨tour_in_order _ config mode tracing around keys, ?_, ends.imp id ?_, ?_, ?_,
    congrArg Course.value gathered⟩
  · intro verdict listed
    rw [verdicts, ← List.map_dropLast] at listed
    obtain ⟨visit, visited, rfl⟩ := List.mem_map.1 listed
    exact onward visit visited
  · rintro ⟨visit, last, stops⟩
    refine ⟨_, ?_, stops⟩
    rw [verdicts, List.getLast?_map]
    exact Option.mem_map_of_mem _ last
  · exact fun visit _ => visit.1.handles _ config mode visit.2
  · apply (congrArg (List.filterMap Event.called?) events).trans
    rw [List.filterMap_flatMap, occasions, List.filterMap_eq_flatMap_toList, List.flatMap_assoc]
    exact congrArg (List.flatMap · _) (funext fun visit =>
      visit.1.called_visitEvents _ config _ visit.2)

end Surroundings

/-! ## A parse -/

namespace Scene

variable (scene : Scene) (scopes : List Scope) (config : Config) (callback : Option Callback)
  (mode : Mode)

/-- The verdicts on the keys of a parse, those that are always carried out ahead of those listed. -/
def verdicts (keys : List Payload) : List Verdict :=
  (scene.around callback).verdicts (scene.opened scopes mode) config mode
    (scene.host []).log.tracing (config.alwaysParsed ++ keys)

/-- The calls of the sanitizer that the keys of a parse call for. -/
def sanitizerCalls (keys : List Payload) : List (FunctionRef × Payload) :=
  ((scene.around callback).occasions (scene.opened scopes mode) config mode
    (scene.host []).log.tracing (config.alwaysParsed ++ keys)).flatMap
      config.sanitizerCalls

variable {scene scopes config callback mode} {needed : Payload} {keys : List Payload}

end Scene

end Intake
