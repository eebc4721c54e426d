import Intake.Proofs.Scene

/-!
# The keys of a list, one after the other

A key asks for two things at most: a section of the request, and then the sanitizer. So a visit amid
surroundings that change goes as it would in one world, `Surroundings.facing`, which has the request
as it is found first and the functions as they are after that (`Dialogue.runAmid_visit`). Each key
finds a world of its own in this way, amid what the surroundings have become through the keys ahead
of it. `Surroundings.tour` lists the keys that are visited, with the worlds that they find:
`Dialogue.runAmid_gather` says that gathering goes through their events, and comes to the outcome of
their verdicts.
-/

namespace Intake

/-! ## The world that a key finds -/

/-- What is noted about a specifier when tracing. -/
def traceEvents (scope : Option Scope) (tracing : Bool) (spec : Specifier) : List Event :=
  if tracing then [.recorded ⟨compiledNote spec, scope⟩] else []

namespace Surroundings

/-- The world in which a field is looked up: first its section is read, and then a function may be
called. -/
def forField (around : Surroundings) (scope : Option Scope) (s : Section) : World :=
  { around [] with collaborators := (around [.asked (.member s.name) scope]).collaborators }

/-- The world in which a specifier is carried out. -/
def forSpecifier (around : Surroundings) (scope : Option Scope) (spec : Specifier) : World :=
  match spec.source with
  | some (.field s) => around.forField scope s
  | _ => around []

/-- The world that a key finds when it is visited. -/
def facing (around : Surroundings) (scope : Option Scope) (config : Config) (tracing : Bool)
    (key : Payload) : World :=
  match Specifier.compile config.canSanitize key with
  | .ok spec => (around.after (traceEvents scope tracing spec)).forSpecifier scope spec
  | .error _ => around []

/-- The keys of a list that are visited, up to the first whose verdict stops the list, each with the
world that it finds. -/
def tour (scope : Option Scope) (config : Config) (mode : Mode) (tracing : Bool) :
    Surroundings → List Payload → List (World × Payload)
  | _, [] => []
  | around, key :: rest =>
    let world := around.facing scope config tracing key
    (world, key) ::
      match (world.verdictOf scope config mode key).stop? with
      | some _ => []
      | none => tour scope config mode tracing
          (around.after (world.visitEvents scope config tracing key)) rest

variable (scope : Option Scope) (config : Config) (mode : Mode) (tracing : Bool)

/-- The keys are visited in order, none being left out. -/
theorem tour_in_order (around : Surroundings) (keys : List Payload) :
    (tour scope config mode tracing around keys).map Prod.snd <+: keys := by
  induction keys generalizing around with
  | nil => exact List.nil_prefix
  | cons key rest ih =>
    rw [tour]
    cases ((around.facing scope config tracing key).verdictOf scope config mode key).stop? with
    | some stop => exact List.prefix_cons_inj key |>.2 List.nil_prefix
    | none => exact List.prefix_cons_inj key |>.2 (ih _)

/-- All keys are visited unless a verdict stops the list, which is then the last. -/
theorem tour_ends (around : Surroundings) (keys : List Payload) :
    (∀ visit ∈ (tour scope config mode tracing around keys).dropLast,
        (visit.1.verdictOf scope config mode visit.2).stop? = none) ∧
      ((tour scope config mode tracing around keys).map Prod.snd = keys ∨
        ∃ visit ∈ (tour scope config mode tracing around keys).getLast?,
          (visit.1.verdictOf scope config mode visit.2).stop?.isSome = true) := by
  induction keys generalizing around with
  | nil => exact ⟨nofun, .inl rfl⟩
  | cons key rest ih =>
    rw [tour]
    cases stops : ((around.facing scope config tracing key).verdictOf scope config mode
        key).stop? with
    | some stop =>
      have stopped := Option.isSome_iff_exists.2 ⟨stop, stops⟩
      exact ⟨nofun, .inr ⟨(around.facing scope config tracing key, key), rfl, stopped⟩⟩
    | none =>
      obtain ⟨onward, ends⟩ := ih (around.after
        ((around.facing scope config tracing key).visitEvents scope config tracing key))
      dsimp only
      generalize tour scope config mode tracing _ rest = later at onward ends ⊢
      cases later with
      | nil =>
        refine ⟨nofun, .inl ?_⟩
        rcases ends with all | ⟨visit, last, -⟩
        · exact congrArg (key :: ·) all
        · cases last
      | cons second more =>
        refine ⟨fun visit listed => ?_, ends.imp (congrArg (key :: ·)) ?_⟩
        · rcases List.mem_cons.1 listed with rfl | later
          · exact stops
          · exact onward visit later
        · exact fun ⟨visit, last, stopped⟩ => ⟨visit, by simpa using last, stopped⟩

end Surroundings

/-! ## Visits amid surroundings -/

namespace Dialogue

variable {ε α β : Type}

section Silence

variable {around : Surroundings} {scopes : List Scope} {world : World}

/-- What goes as in one world, and then asks for nothing more, goes as in that world. -/
theorem runAmid_bind_silent {d : Dialogue α} {next : α → Dialogue β} (raised : Fault → β)
    (same : d.runAmid around scopes = d.run world scopes)
    (silent : ∀ a, (next a).Orderly (fun _ => False) raised) :
    (d >>= next).runAmid around scopes = (d >>= next).run world scopes := by
  rw [runAmid_bind, run_bind, same]
  dsimp only
  rw [(silent _).runAmid_of_silent _ _ world]

/-- A query, after which nothing is asked, finds one world. -/
theorem runAmid_ask_silent {q : Query} {resume : Answer → Dialogue α} (raised : Fault → α)
    (silent : ∀ answer, (resume answer).Orderly (fun _ => False) raised) :
    (ask q resume).runAmid around scopes = (ask q resume).run (around []) scopes := by
  rw [runAmid, run, (silent _).runAmid_of_silent _ _ (around [])]

end Silence

variable (around : Surroundings) (scopes : List Scope) (config : Config) (mode : Mode)
  (tracing : Bool)

/-- Cleaning a value asks for one thing at most. -/
theorem runAmid_cleanValue (sanitize : Bool) (value : Payload) :
    (cleanValue config sanitize value).run.runAmid around scopes =
      (cleanValue config sanitize value).run.run (around []) scopes := by
  unfold cleanValue
  by_cases marked : (sanitize && !config.leavesAlone value) = true
  · rw [if_pos marked]
    cases config.sanitizer with
    | function f => exact runAmid_ask_silent .error fun answer => .done answer
    | _ => rfl
  · rw [if_neg marked]
    rfl

theorem runAmid_cleanEntry (sanitize optional : Bool) (entry : Option Payload) :
    (cleanEntry config sanitize optional entry).run.runAmid around scopes =
      (cleanEntry config sanitize optional entry).run.run (around []) scopes := by
  cases entry with
  | none => rfl
  | some value =>
    have continued : (cleanEntry config sanitize optional (some value)).run =
        ((cleanValue config sanitize value).run >>= fun ending =>
          pure (ending.map some)) := by
      unfold cleanEntry
      rw [ExceptT.run_map]
      exact map_eq_pure_bind _ _
    rw [continued]
    exact runAmid_bind_silent .error (runAmid_cleanValue around scopes config sanitize value)
      fun ending => .done _

/-- What is done with an entry depends on the functions of the world only. -/
theorem run_cleanEntry_congr {world other : World}
    (same : world.collaborators = other.collaborators) (sanitize optional : Bool)
    (entry : Option Payload) :
    (cleanEntry config sanitize optional entry).run.run world scopes =
      (cleanEntry config sanitize optional entry).run.run other scopes := by
  rw [run_cleanEntry, run_cleanEntry]
  unfold World.cleaned World.answer
  rw [same]

/-- A look-up finds one world: the request as it is at first, and the functions as they are once the
section was read. -/
theorem runAmid_lookUp (s : Section) (spec : Specifier) :
    (lookUp config (.field s) spec).run.runAmid around scopes =
      (lookUp config (.field s) spec).run.run (around.forField scopes.head? s) scopes := by
  have amid := runAmid_readSection around scopes s
  have alone : (readSection (.field s)).run.run (around.forField scopes.head? s) scopes =
      ⟨[.asked (.member s.name) scopes.head?], scopes, (around []).sectionPayload s⟩ :=
    run_readSection (around.forField scopes.head? s) scopes s
  unfold lookUp
  cases read : (around []).sectionPayload s with
  | error e =>
    rw [read] at amid alone
    rw [runAmid_bind_of_error amid, run_bind_of_error alone]
  | ok fields =>
    rw [read] at amid alone
    rw [runAmid_bind_of_ok amid, run_bind_of_ok alone]
    -- From here on only functions are asked, as they are once the section was read.
    unfold lookUpField
    by_cases absent : fields.isNull = true
    · rw [if_pos absent]
      rfl
    · rw [if_neg absent]
      cases entry : fields.get? spec.lookupName with
      | error e => rfl
      | ok stored =>
        have cleaned := runAmid_cleanEntry (around.after [.asked (.member s.name) scopes.head?])
          scopes config spec.sanitize spec.optional stored
        have same : (around.after [.asked (.member s.name) scopes.head?] []).collaborators =
            (around.forField scopes.head? s).collaborators := rfl
        exact congrArg (Course.after _)
          (cleaned.trans (run_cleanEntry_congr scopes config same _ _ _))

theorem runAmid_visitField (gathered : Gathered) (s : Section) (spec : Specifier) :
    (visitField config gathered s spec).run.runAmid around scopes =
      (visitField config gathered s spec).run.run (around.forField scopes.head? s) scopes := by
  have looked : (Visit.ofAction (lookUp config (.field s) spec)).run.runAmid around scopes =
      (Visit.ofAction (lookUp config (.field s) spec)).run.run
        (around.forField scopes.head? s) scopes :=
    runAmid_bind_silent (fun e => .error (.fault e)) (runAmid_lookUp around scopes config s spec)
      fun answer => .done _
  unfold visitField
  rw [ExceptT.run_bind]
  refine runAmid_bind_silent (fun e => .error (.fault e)) looked fun ending => ?_
  cases ending with
  | error stop => exact .done _
  | ok found => cases found <;> exact .done _

theorem runAmid_carryOut (gathered : Gathered) (spec : Specifier) :
    (carryOut config mode gathered spec).run.runAmid around scopes =
      (carryOut config mode gathered spec).run.run (around.forSpecifier scopes.head? spec)
        scopes := by
  unfold carryOut Surroundings.forSpecifier
  cases spec.source with
  | none => rfl
  | some source =>
    cases source with
    | auth =>
      unfold visitDemand
      cases mode with
      | immediate => rfl
      | awaiting => by_cases able : config.canAuthorize = true <;> simp only [able] <;> rfl
    | field s => exact runAmid_visitField around scopes config gathered s spec

/-- The step: a visit goes through the events of its key, and settles its verdict, in the world that
the key finds. -/
theorem runAmid_visit (gathered : Gathered) (key : Payload) :
    let world := around.facing scopes.head? config tracing key
    (visit config mode tracing gathered key).run.runAmid around scopes =
      ⟨world.visitEvents scopes.head? config tracing key, scopes,
        gathered.settle (world.verdictOf scopes.head? config mode key)⟩ := by
  intro world
  rw [← run_visit world scopes config mode tracing gathered key]
  unfold visit readSpecifier
  unfold world Surroundings.facing
  cases Specifier.compile config.canSanitize key with
  | error e => rfl
  | ok spec =>
    have traced : (trace tracing spec).run.runAmid around scopes =
        ⟨traceEvents scopes.head? tracing spec, scopes, .ok ()⟩ := by
      cases tracing <;> rfl
    rw [runAmid_bind_of_ok (runAmid_pure spec), run_bind_of_ok (run_pure spec),
      Surroundings.after_nil, runAmid_bind_of_ok traced, run_bind_of_ok (run_trace _ _ _ spec),
      runAmid_carryOut]
    rfl

/-- The run: a list is visited key by key, each in the world that it finds. -/
theorem runAmid_foldlM_visit (gathered : Gathered) (keys : List Payload) :
    let tour := around.tour scopes.head? config mode tracing keys
    (keys.foldlM (visit config mode tracing) gathered).run.runAmid around scopes =
      ⟨tour.flatMap fun visit => visit.1.visitEvents scopes.head? config tracing visit.2, scopes,
        (tour.map fun visit => visit.1.verdictOf scopes.head? config mode visit.2).foldlM
          Gathered.settle gathered⟩ := by
  induction keys generalizing around gathered with
  | nil => rfl
  | cons key rest ih =>
    have first := runAmid_visit around scopes config mode tracing gathered key
    rw [Surroundings.tour, List.foldlM_cons]
    dsimp only at first ⊢
    generalize around.facing scopes.head? config tracing key = world at first ⊢
    rw [List.flatMap_cons, List.map_cons, List.foldlM_cons]
    cases verdict : world.verdictOf scopes.head? config mode key with
    | stopped stop =>
      rw [verdict] at first
      rw [runAmid_bind_of_error first]
      simp [Gathered.settle, Verdict.stop?]
    | _ =>
      rw [verdict] at first
      rw [runAmid_bind_of_ok first, ih]
      rfl

/-- Gathering a list goes through the events of the keys that are visited, and comes to the outcome
of their verdicts. -/
theorem runAmid_gather (keys : List Payload) :
    let tour := around.tour scopes.head? config mode tracing keys
    (gather config mode tracing keys).run.runAmid around scopes =
      ⟨tour.flatMap fun visit => visit.1.visitEvents scopes.head? config tracing visit.2, scopes,
        Verdict.outcome
          (tour.map fun visit => visit.1.verdictOf scopes.head? config mode visit.2)⟩ := by
  intro tour
  rw [gather, runAmid_foldlM_visit, Verdict.foldlM_settle]

end Dialogue

end Intake
