import Intake.Parse
import Intake.Proofs.Surroundings

/-!
# Orderly dialogues

What a dialogue can do whatever it is answered can be read off the dialogue. `Dialogue.Orderly` says
that it stays in its scope, that its notes are for debugging, that it asks certain queries only, and
that a fault in an answer is the end of it, unless a function was waited for. The predicate is
closed under continuation (`Orderly.bind`), so that it is shown for a parse step by step, from the
look-up of a field (`orderly_lookUp`) to the parse as far as it can fail (`orderly_attempt`).

An orderly dialogue shows its order in every course: `Orderly.scopes_runAmid`,
`Orderly.events_runAmid` and `Orderly.ends_with_fault`.
-/

namespace Intake

/-- Whether a query begins a function that is waited for, or waits for it. -/
def Query.waits : Query → Bool
  | .begin _ _ => true
  | .await _ _ => true
  | _ => false

/-- An event in a scope, which is a query of certain ones or a note for debugging. -/
def Event.Within (scope : Option Scope) (permitted : Query → Prop) : Event → Prop
  | .asked q inner => inner = scope ∧ permitted q
  | .recorded r => r.scope = scope ∧ r.note.level = .debug

namespace Dialogue

variable {ε α β : Type} {permitted : Query → Prop}

/-- A dialogue that stays in its scope, makes notes for debugging, asks permitted queries, and ends
with a fault that it is answered, unless it waited for the answer. -/
inductive Orderly (permitted : Query → Prop) (raised : Fault → α) : Dialogue α → Prop
  | done (a : α) : Orderly permitted raised (.done a)
  | note {n : Note} {rest : Dialogue α} (quiet : n.level = .debug)
      (later : Orderly permitted raised rest) : Orderly permitted raised (.note n rest)
  | ask {q : Query} {resume : Answer → Dialogue α} (allowed : permitted q)
      (heeded : q.waits = false → ∀ e, resume (.error e) = .done (raised e))
      (later : ∀ answer, Orderly permitted raised (resume answer)) :
      Orderly permitted raised (.ask q resume)

namespace Orderly

variable {raised : Fault → α} {d : Dialogue α}

/-- Continuing an orderly dialogue is orderly if the continuation passes on what was raised. -/
theorem bind {raised' : Fault → β} {next : α → Dialogue β} (first : d.Orderly permitted raised)
    (passes : ∀ e, next (raised e) = .done (raised' e))
    (second : ∀ a, (next a).Orderly permitted raised') :
    (d >>= next).Orderly permitted raised' := by
  induction first with
  | done a => exact second a
  | note quiet _ ih => exact .note quiet ih
  | ask allowed heeded _ ih =>
    refine .ask allowed (fun immediate e => ?_) ih
    have ended := congrArg (fun rest => rest >>= next) (heeded immediate e)
    exact ended.trans (passes e)

theorem mono {others : Query → Prop} (orderly : d.Orderly permitted raised)
    (included : ∀ q, permitted q → others q) : d.Orderly others raised := by
  induction orderly with
  | done a => exact .done a
  | note quiet _ ih => exact .note quiet ih
  | ask allowed heeded _ ih => exact .ask (included _ allowed) heeded ih

/-- Where a failure ends a dialogue anyway, what is raised is passed on. -/
theorem bind_except {wrap : Fault → ε} {first : ExceptT ε Dialogue α}
    {next : α → ExceptT ε Dialogue β}
    (ahead : first.run.Orderly permitted fun e => .error (wrap e))
    (second : ∀ a, (next a).run.Orderly permitted fun e => .error (wrap e)) :
    (first >>= next).run.Orderly permitted fun e => .error (wrap e) := by
  rw [ExceptT.run_bind]
  refine ahead.bind (fun e => rfl) fun ending => ?_
  cases ending with
  | ok a => exact second a
  | error e => exact .done _

/-! ## Courses -/

variable (orderly : d.Orderly permitted raised) (around : Surroundings) (scopes : List Scope)

include orderly

theorem scopes_runAmid : (d.runAmid around scopes).scopes = scopes := by
  induction orderly generalizing around with
  | done a => rfl
  | note _ _ ih => exact ih _
  | ask _ _ _ ih => exact ih _ _

theorem events_runAmid :
    ∀ event ∈ (d.runAmid around scopes).events, event.Within scopes.head? permitted := by
  induction orderly generalizing around with
  | done a => exact fun event found => absurd found List.not_mem_nil
  | note quiet _ ih =>
    intro event found
    rcases List.mem_cons.1 found with rfl | later
    · exact ⟨rfl, quiet⟩
    · exact ih _ event later
  | ask allowed _ _ ih =>
    intro event found
    rcases List.mem_cons.1 found with rfl | later
    · exact ⟨rfl, allowed⟩
    · exact ih _ _ event later

omit orderly in
/-- Nothing changes amid which nothing is asked. -/
theorem runAmid_of_silent (silent : d.Orderly (fun _ => False) raised) (world : World) :
    d.runAmid around scopes = d.run world scopes := by
  induction silent generalizing around with
  | done a => rfl
  | note _ _ ih => exact congrArg (Course.after _) (ih _)
  | ask allowed => exact allowed.elim

end Orderly

end Dialogue

/-! ## Looking up and gathering -/

/-- The queries of gathering: members of the request, and what the sanitizer makes of a value. -/
def Query.Gathers (config : Config) : Query → Prop
  | .member _ => True
  | .call f _ => config.sanitizer = .function f
  | _ => False

namespace Dialogue

variable {α : Type} (config : Config)

theorem orderly_query {permitted : Query → Prop} {q : Query} (allowed : permitted q) :
    (Action.query q).run.Orderly permitted .error :=
  .ask allowed (fun _ _ => rfl) fun answer => .done answer

theorem orderly_readSection (source : Source) :
    (readSection source).run.Orderly (Query.Gathers config) .error := by
  unfold readSection
  exact .bind_except (orderly_query trivial) fun value => .done _

theorem orderly_cleanValue (sanitize : Bool) (value : Payload) :
    (cleanValue config sanitize value).run.Orderly (Query.Gathers config) .error := by
  unfold cleanValue
  by_cases marked : (sanitize && !config.leavesAlone value) = true
  · rw [if_pos marked]
    cases sanitizer : config.sanitizer with
    | function f => exact orderly_query (show Query.Gathers config (.call f value) from sanitizer)
    | _ => exact .done _
  · rw [if_neg marked]
    exact .done _

theorem orderly_cleanEntry (sanitize optional : Bool) (entry : Option Payload) :
    (cleanEntry config sanitize optional entry).run.Orderly (Query.Gathers config) .error := by
  cases entry with
  | none => exact .done _
  | some value =>
    have continued : cleanEntry config sanitize optional (some value) =
        cleanValue config sanitize value >>= fun cleaned => pure (some cleaned) :=
      map_eq_pure_bind _ _
    rw [continued]
    exact .bind_except (orderly_cleanValue config sanitize value) fun cleaned => .done _

theorem orderly_lookUp (source : Source) (spec : Specifier) :
    (lookUp config source spec).run.Orderly (Query.Gathers config) .error := by
  unfold lookUp
  refine .bind_except (orderly_readSection config source) fun fields => ?_
  unfold lookUpField
  by_cases absent : fields.isNull = true
  · rw [if_pos absent]
    exact .done _
  · rw [if_neg absent]
    exact .bind_except (.done _) fun entry => orderly_cleanEntry config _ _ entry

/-- A step of gathering raises faults as reasons to stop. -/
theorem orderly_ofAction {permitted : Query → Prop} {action : Action α}
    (orderly : action.run.Orderly permitted .error) :
    (Visit.ofAction action).run.Orderly permitted fun e => .error (.fault e) := by
  unfold Visit.ofAction
  exact orderly.bind (fun e => rfl) fun answer => .done _

theorem orderly_carryOut (mode : Mode) (gathered : Gathered) (spec : Specifier) :
    (carryOut config mode gathered spec).run.Orderly (Query.Gathers config) fun e =>
      .error (.fault e) := by
  unfold carryOut
  cases spec.source with
  | none => exact .done _
  | some source =>
    cases source with
    | auth =>
      unfold visitDemand
      cases mode with
      | immediate => exact .done _
      | awaiting =>
        by_cases able : config.canAuthorize = true <;> simp only [able] <;> exact .done _
    | field s =>
      unfold visitField
      refine .bind_except (orderly_ofAction (orderly_lookUp config (.field s) spec)) fun found => ?_
      cases found <;> exact .done _

theorem orderly_visit (mode : Mode) (tracing : Bool) (gathered : Gathered) (key : Payload) :
    (visit config mode tracing gathered key).run.Orderly (Query.Gathers config) fun e =>
      .error (.fault e) := by
  have read : (readSpecifier config key).run.Orderly (Query.Gathers config) fun e =>
      .error (.fault e) := by
    unfold readSpecifier
    cases Specifier.compile config.canSanitize key <;> exact .done _
  have traced : ∀ spec, (trace tracing spec).run.Orderly (Query.Gathers config) fun e =>
      .error (.fault e) := by
    intro spec
    cases tracing with
    | false => exact .done _
    | true => exact .note rfl (.done _)
  unfold visit
  exact .bind_except read fun spec =>
    .bind_except (traced spec) fun _ => orderly_carryOut config mode gathered spec

theorem orderly_gather (mode : Mode) (tracing : Bool) (keys : List Payload) :
    (gather config mode tracing keys).run.Orderly (Query.Gathers config) fun e =>
      .error (.fault e) := by
  have visits : ∀ gathered, (keys.foldlM (visit config mode tracing) gathered).run.Orderly
      (Query.Gathers config) fun e => .error (.fault e) := by
    induction keys with
    | nil => exact fun gathered => .done _
    | cons key rest ih =>
      intro gathered
      rw [List.foldlM_cons]
      exact .bind_except (orderly_visit config mode tracing gathered key) ih
  exact visits Gathered.empty

end Dialogue

/-! ## Authorizing -/

/-- The queries of an authorization: the authorizer is called and waited for. -/
def Query.Authorizes (config : Config) : Query → Prop
  | .begin f _ => config.authorizer = .function f
  | .await f _ => config.authorizer = .function f
  | _ => False

/-- The queries of a parse. -/
def Query.Parses (config : Config) (q : Query) : Prop :=
  q.Gathers config ∨ q.Authorizes config

namespace Dialogue

variable (config : Config)

theorem silent_report (log : Log) (level : Level) (e : Fault) {note : String → Note}
    (quiet : ∀ words, (note words).level = .debug) :
    (Action.report log level e note).run.Orderly (fun _ => False) .error := by
  unfold Action.report
  cases log.wording level e with
  | error instead => exact .done _
  | ok words => exact .note (quiet words) (.done _)

/-- Once the authorizer has answered, nothing else is asked. -/
theorem silent_withoutAnswer (log : Log) (optional : Bool) (e : Fault) :
    (withoutAnswer log optional e).run.Orderly (fun _ => False) .error := by
  cases optional with
  | false => exact .done _
  | true => exact .bind_except (silent_report log .debug e fun _ => rfl) fun _ => .done _

theorem silent_withAnswer (optional : Bool) (principal : Payload) :
    (withAnswer optional principal).run.Orderly (fun _ => False) .error := by
  unfold withAnswer
  cases principal.isTruthy with
  | true => exact .done _
  | false => cases optional <;> exact .done _

theorem orderly_authorize (log : Log) (headers : Payload) (optional : Bool) :
    (authorize log config.authorizer headers optional).run.Orderly (Query.Authorizes config)
      .error := by
  have observed : ∀ given, (Action.observe (Action.await config.authorizer given)).run.Orderly
      (Query.Authorizes config) .error := by
    intro given
    unfold Action.observe Action.await
    cases authorizer : config.authorizer with
    | function f =>
      exact .ask (show Query.Authorizes config (.begin f given) from authorizer) nofun fun _ =>
        .ask (show Query.Authorizes config (.await f given) from authorizer) nofun fun answer =>
          .done _
    | _ => exact .done _
  unfold authorize
  refine .bind_except (observed _) fun answer => ?_
  cases answer with
  | error e => exact (silent_withoutAnswer log optional e).mono fun _ => False.elim
  | ok principal => exact (silent_withAnswer optional principal).mono fun _ => False.elim

theorem orderly_finishGathering (log : Log) (ending : Except Stop Gathered) :
    (finishGathering config log ending).run.Orderly (Query.Parses config) .error := by
  cases ending with
  | error stop => cases stop <;> exact .done _
  | ok gathered =>
    unfold finishGathering authorizeGathered
    by_cases complete : gathered.errors.isEmpty = true
    · simp only [complete, if_true]
      cases gathered.demand with
      | none => exact .done _
      | some demand =>
        refine .bind_except ((orderly_readSection config _).mono fun _ => .inl) fun headers => ?_
        have authorized := orderly_authorize config log headers demand.optional
        exact .bind_except (authorized.mono fun _ => .inr) fun principal => .done _
    · simp only [complete]
      exact .done _

/-- A parse is orderly as far as it can fail. -/
theorem orderly_attempt (mode : Mode) (log : Log) (hasRequest : Bool) (needed : Payload) :
    (attempt config mode log hasRequest needed).run.Orderly (Query.Parses config) .error := by
  unfold attempt
  cases checkCall config hasRequest needed with
  | error e => exact .done _
  | ok keys =>
    dsimp only
    rw [ExceptT.run_bind_lift]
    have gathered : (gather config mode log.tracing (config.alwaysParsed ++ keys)).run.Orderly
        (Query.Parses config) fun e => .error (.fault e) :=
      (orderly_gather config mode log.tracing _).mono fun _ => .inl
    exact gathered.bind (fun e => rfl) (orderly_finishGathering config log)

end Dialogue

end Intake
