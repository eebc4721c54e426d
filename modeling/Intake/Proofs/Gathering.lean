import Intake.Proofs.Verdict

/-!
# The course of gathering

`World.verdictOf` is the verdict on one key in a world, and `World.visitEvents` what happens when it
is visited. `Dialogue.run_visit` is the step: whatever has been gathered, visiting a key goes
through its events and settles its verdict. `Dialogue.run_gather` is the run: the keys are visited
up to the first whose verdict stops the list, and the list ends with the outcome of the verdicts.
-/

namespace Intake

/-! ## One specifier -/

/-- The verdict on a specifier that has been read. -/
def World.verdict (world : World) (scope : Option Scope) (config : Config) (mode : Mode)
    (spec : Specifier) : Verdict :=
  match spec.source with
  | none => .refused (.unknownSource spec.raw)
  | some .auth =>
    match mode with
    | .immediate => .stopped (.fatal .immediateAuthorization)
    | .awaiting =>
      if config.canAuthorize then .demanded spec.optional
      else .stopped (.fatal .authorizerNotSet)
  | some (.field s) =>
    match world.fieldValue scope config s spec.lookupName spec.sanitize spec.optional with
    | .error e => .stopped (.fault e)
    | .ok (some value) => .stored s spec.fieldName value
    | .ok none => .refused (.missing s spec.fieldName)

/-- The verdict on a key, which may not even be readable. -/
def World.verdictOf (world : World) (scope : Option Scope) (config : Config) (mode : Mode)
    (key : Payload) : Verdict :=
  match Specifier.compile config.canSanitize key with
  | .ok spec => world.verdict scope config mode spec
  | .error e => .stopped (.unreadable e)

/-- The calls that carrying a specifier out makes. -/
def World.specifierCalls (world : World) (config : Config) (spec : Specifier) :
    List (FunctionRef × Payload) :=
  match spec.source with
  | some (.field s) => world.fieldCalls config s spec.lookupName spec.sanitize
  | _ => []

/-- What happens when a specifier is carried out. -/
def World.specifierEvents (world : World) (scope : Option Scope) (config : Config)
    (spec : Specifier) : List Event :=
  match spec.source with
  | some (.field s) =>
    .asked (.member s.name) scope :: (world.specifierCalls config spec).map (callEvent scope)
  | _ => []

/-- What happens when a key is visited. -/
def World.visitEvents (world : World) (scope : Option Scope) (config : Config) (tracing : Bool)
    (key : Payload) : List Event :=
  match Specifier.compile config.canSanitize key with
  | .ok spec =>
    (if tracing then [.recorded ⟨compiledNote spec, scope⟩] else []) ++
      world.specifierEvents scope config spec
  | .error _ => []

/-- The items of a list up to the first that stops it, which is still one of them. -/
def reached {α : Type} (stops : α → Bool) : List α → List α
  | [] => []
  | a :: rest => a :: if stops a then [] else reached stops rest

/-- The keys of a list that are visited. -/
def World.visited (world : World) (scope : Option Scope) (config : Config) (mode : Mode)
    (keys : List Payload) : List Payload :=
  reached (fun key => (world.verdictOf scope config mode key).stop?.isSome) keys

/-- What happens when a list of keys is gathered. -/
def World.gatherEvents (world : World) (scope : Option Scope) (config : Config) (mode : Mode)
    (tracing : Bool) (keys : List Payload) : List Event :=
  (world.visited scope config mode keys).flatMap (world.visitEvents scope config tracing)

theorem World.gatherEvents_cons (world : World) (scope : Option Scope) (config : Config)
    (mode : Mode) (tracing : Bool) (key : Payload) (rest : List Payload) :
    world.gatherEvents scope config mode tracing (key :: rest) =
      world.visitEvents scope config tracing key ++
        match (world.verdictOf scope config mode key).stop? with
        | some _ => []
        | none => world.gatherEvents scope config mode tracing rest := by
  rw [gatherEvents, visited, reached, List.flatMap_cons]
  cases (world.verdictOf scope config mode key).stop? <;> rfl

/-! ## The step -/

namespace Dialogue

variable (world : World) (scopes : List Scope) (config : Config) (mode : Mode) (tracing : Bool)

theorem run_trace (spec : Specifier) :
    (trace tracing spec).run.run world scopes =
      ⟨if tracing then [.recorded ⟨compiledNote spec, scopes.head?⟩] else [], scopes, .ok ()⟩ := by
  cases tracing <;> rfl

theorem run_ofAction {α : Type} {action : Action α} {opened : List Scope} {events : List Event}
    {ending : Except Fault α}
    (course : action.run.run world scopes = ⟨events, opened, ending⟩) :
    (Visit.ofAction action).run.run world scopes =
      ⟨events, opened, ending.mapError Stop.fault⟩ := by
  unfold Visit.ofAction
  rw [ExceptT.run_mk, run_bind, course]
  simp

theorem run_visitField (gathered : Gathered) (s : Section) (spec : Specifier) :
    (visitField config gathered s spec).run.run world scopes =
      ⟨.asked (.member s.name) scopes.head? ::
          (world.fieldCalls config s spec.lookupName spec.sanitize).map (callEvent scopes.head?),
        scopes,
        match world.fieldValue scopes.head? config s spec.lookupName spec.sanitize
            spec.optional with
        | .error e => .error (.fault e)
        | .ok (some value) =>
          .ok { gathered with result := gathered.result.store s spec.fieldName value }
        | .ok none =>
          .ok { gathered with errors := gathered.errors ++ [.missing s spec.fieldName] }⟩ := by
  have looked := run_ofAction world scopes (run_lookUp world scopes config s spec)
  unfold visitField
  cases value : world.fieldValue scopes.head? config s spec.lookupName spec.sanitize
      spec.optional with
  | error e =>
    rw [value] at looked
    rw [run_bind_of_error looked]
  | ok found =>
    rw [value] at looked
    rw [run_bind_of_ok looked]
    cases found <;> simp

/-- Carrying out a specifier settles its verdict. -/
theorem run_carryOut (gathered : Gathered) (spec : Specifier) :
    (carryOut config mode gathered spec).run.run world scopes =
      ⟨world.specifierEvents scopes.head? config spec, scopes,
        gathered.settle (world.verdict scopes.head? config mode spec)⟩ := by
  unfold carryOut World.specifierEvents World.specifierCalls World.verdict
  cases spec.source with
  | none => rfl
  | some source =>
    cases source with
    | auth =>
      cases mode with
      | immediate => rfl
      | awaiting => by_cases able : config.canAuthorize = true <;> simp [visitDemand, able] <;> rfl
    | field s =>
      rw [run_visitField]
      dsimp only
      cases value : world.fieldValue scopes.head? config s spec.lookupName spec.sanitize
          spec.optional with
      | error e => rfl
      | ok found => cases found <;> rfl

/-- Visiting a key goes through its events and settles its verdict. -/
theorem run_visit (gathered : Gathered) (key : Payload) :
    (visit config mode tracing gathered key).run.run world scopes =
      ⟨world.visitEvents scopes.head? config tracing key, scopes,
        gathered.settle (world.verdictOf scopes.head? config mode key)⟩ := by
  unfold visit readSpecifier World.visitEvents World.verdictOf
  cases Specifier.compile config.canSanitize key with
  | error e => rfl
  | ok spec =>
    rw [run_bind_of_ok (run_pure spec), run_bind_of_ok (run_trace world scopes tracing spec),
      run_carryOut]
    rfl

/-! ## The run -/

theorem run_foldlM_visit (gathered : Gathered) (keys : List Payload) :
    (keys.foldlM (visit config mode tracing) gathered).run.run world scopes =
      ⟨world.gatherEvents scopes.head? config mode tracing keys, scopes,
        (keys.map (world.verdictOf scopes.head? config mode)).foldlM Gathered.settle
          gathered⟩ := by
  induction keys generalizing gathered with
  | nil => rfl
  | cons key rest ih =>
    have first := run_visit world scopes config mode tracing gathered key
    rw [List.foldlM_cons, List.map_cons, List.foldlM_cons, World.gatherEvents_cons]
    cases verdict : world.verdictOf scopes.head? config mode key with
    | stopped stop =>
      rw [verdict] at first
      rw [run_bind_of_error first]
      simp [Gathered.settle, Verdict.stop?]
      rfl
    | _ =>
      rw [verdict] at first
      rw [run_bind_of_ok first, ih]
      rfl

/-- Gathering a list of keys visits them up to the first whose verdict stops it, and ends with the
outcome of the verdicts. -/
theorem run_gather (keys : List Payload) :
    (gather config mode tracing keys).run.run world scopes =
      ⟨world.gatherEvents scopes.head? config mode tracing keys, scopes,
        Verdict.outcome (keys.map (world.verdictOf scopes.head? config mode))⟩ := by
  rw [gather, run_foldlM_visit, Verdict.foldlM_settle]

end Dialogue

end Intake
