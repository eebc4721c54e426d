import Intake.Parser
import Intake.Proofs.Course

/-!
# Dialogues that differ in their notes

Two dialogues are alike if they ask the same, come to the same, and move between scopes in the same
way, whatever they note down on the way (`Dialogue.Like`). Of tracing more can be said: a parse with
tracing is the parse without, with notes that specifiers have been read (`Dialogue.Annotates`,
`Dialogue.annotates_parse`, `Dialogue.annotates_parseThen`). So parses with tracing and without are
alike (`Dialogue.like_parse`, `Dialogue.like_parseThen`).

Where functions do not look at the scope that they are called in, dialogues that are alike go alike:
in two worlds that answer the same queries in the same way, whatever scopes are open and whatever
time it is, they ask the same queries and come to the same value (`Dialogue.Like.run_alike`).
-/

namespace Intake

/-- What an event asks. -/
def Event.query? : Event → Option Query
  | .asked q _ => some q
  | .recorded _ => none

/-- What is asked on the way, in order. -/
def Event.queries (events : List Event) : List Query :=
  events.filterMap Event.query?

/-- Two worlds that answer the same queries in the same way, in whatever scope they are asked. -/
def World.Agrees (world other : World) : Prop :=
  ∀ q scope inner, world.answer scope q = other.answer inner q

namespace Dialogue

variable {ε α β : Type}

/-- Dialogues that are the same but for their notes. -/
inductive Like : Dialogue α → Dialogue α → Prop
  | done (a : α) : Like (.done a) (.done a)
  | noted {n : Note} {d other : Dialogue α} (rest : Like d other) : Like (.note n d) other
  | otherNoted {n : Note} {d other : Dialogue α} (rest : Like d other) : Like d (.note n other)
  | enter {operation : String} {d other : Dialogue α} (rest : Like d other) :
      Like (.enter operation d) (.enter operation other)
  | leave {d other : Dialogue α} (rest : Like d other) : Like (.leave d) (.leave other)
  | ask {q : Query} {resume other : Answer → Dialogue α}
      (later : ∀ answer, Like (resume answer) (other answer)) :
      Like (.ask q resume) (.ask q other)

namespace Like

variable {d other : Dialogue α}

theorem refl (d : Dialogue α) : d.Like d := by
  induction d with
  | done a => exact .done a
  | note n rest ih => exact .noted (.otherNoted ih)
  | enter operation rest ih => exact .enter ih
  | leave rest ih => exact .leave ih
  | ask q resume ih => exact .ask ih

theorem symm (alike : d.Like other) : other.Like d := by
  induction alike with
  | done a => exact .done a
  | noted _ ih => exact .otherNoted ih
  | otherNoted _ ih => exact .noted ih
  | enter _ ih => exact .enter ih
  | leave _ ih => exact .leave ih
  | ask _ ih => exact .ask ih

/-- Dialogues that are alike ask the same and come to the same, in worlds that agree. -/
theorem run_alike {world world' : World} (alike : d.Like other) (agree : world.Agrees world')
    (scopes scopes' : List Scope) :
    Event.queries (d.run world scopes).events =
        Event.queries (other.run world' scopes').events ∧
      (d.run world scopes).value = (other.run world' scopes').value := by
  induction alike generalizing scopes scopes' with
  | done a => exact ⟨rfl, rfl⟩
  | noted _ ih => exact ih scopes scopes'
  | otherNoted _ ih => exact ih scopes scopes'
  | enter _ ih => exact ih _ _
  | leave _ ih => exact ih scopes.tail scopes'.tail
  | @ask q resume resume' _ ih =>
    have same : world.answer scopes.head? q = world'.answer scopes'.head? q := agree q _ _
    obtain ⟨queries, value⟩ := ih (world.answer scopes.head? q) scopes scopes'
    rw [run, run, ← same]
    exact ⟨congrArg (q :: ·) queries, value⟩

end Like

/-! ## Tracing -/

/-- The first dialogue is the second one, with notes in it that specifiers have been read. -/
inductive Annotates : Dialogue α → Dialogue α → Prop
  | done (a : α) : Annotates (.done a) (.done a)
  | trace {spec : Specifier} {d other : Dialogue α} (rest : Annotates d other) :
      Annotates (.note (compiledNote spec) d) other
  | note {n : Note} {d other : Dialogue α} (rest : Annotates d other) :
      Annotates (.note n d) (.note n other)
  | enter {operation : String} {d other : Dialogue α} (rest : Annotates d other) :
      Annotates (.enter operation d) (.enter operation other)
  | leave {d other : Dialogue α} (rest : Annotates d other) : Annotates (.leave d) (.leave other)
  | ask {q : Query} {resume other : Answer → Dialogue α}
      (later : ∀ answer, Annotates (resume answer) (other answer)) :
      Annotates (.ask q resume) (.ask q other)

namespace Annotates

variable {d other : Dialogue α}

theorem refl (d : Dialogue α) : d.Annotates d := by
  induction d with
  | done a => exact .done a
  | note n rest ih => exact .note ih
  | enter operation rest ih => exact .enter ih
  | leave rest ih => exact .leave ih
  | ask q resume ih => exact .ask ih

theorem bind {next next' : α → Dialogue β} (first : d.Annotates other)
    (second : ∀ a, (next a).Annotates (next' a)) : (d >>= next).Annotates (other >>= next') := by
  induction first with
  | done a => exact second a
  | trace _ ih => exact .trace ih
  | note _ ih => exact .note ih
  | enter _ ih => exact .enter ih
  | leave _ ih => exact .leave ih
  | ask _ ih => exact .ask ih

theorem bind_except {first first' : ExceptT ε Dialogue α} {next next' : α → ExceptT ε Dialogue β}
    (ahead : first.run.Annotates first'.run) (second : ∀ a, (next a).run.Annotates (next' a).run) :
    (first >>= next).run.Annotates (first' >>= next').run := by
  rw [ExceptT.run_bind, ExceptT.run_bind]
  refine ahead.bind fun ending => ?_
  cases ending with
  | ok a => exact second a
  | error e => exact .done _

theorem within (operation : String) (annotates : d.Annotates other) :
    (Dialogue.within operation d).Annotates (Dialogue.within operation other) :=
  .enter (annotates.bind fun _ => .refl _)

theorem like (annotates : d.Annotates other) : d.Like other := by
  induction annotates with
  | done a => exact .done a
  | trace _ ih => exact .noted ih
  | note _ ih => exact .noted (.otherNoted ih)
  | enter _ ih => exact .enter ih
  | leave _ ih => exact .leave ih
  | ask _ ih => exact .ask ih

end Annotates

variable (config : Config) (mode : Mode) (wording : Level → Fault → Except Fault String)
  (hasRequest : Bool) (needed : Payload)

/-- Tracing does nothing but note. -/
theorem annotates_visit (gathered : Gathered) (key : Payload) :
    (visit config mode true gathered key).run.Annotates
      (visit config mode false gathered key).run := by
  unfold visit
  have traced : ∀ spec, (trace true spec).run.Annotates (trace false spec).run := fun spec =>
    .trace (.done _)
  exact .bind_except (.refl _) fun spec => .bind_except (traced spec) fun _ => .refl _

theorem annotates_gather (keys : List Payload) :
    (gather config mode true keys).run.Annotates (gather config mode false keys).run := by
  have visits : ∀ gathered, (keys.foldlM (visit config mode true) gathered).run.Annotates
      (keys.foldlM (visit config mode false) gathered).run := by
    induction keys with
    | nil => exact fun gathered => .refl _
    | cons key rest ih =>
      intro gathered
      rw [List.foldlM_cons, List.foldlM_cons]
      exact .bind_except (annotates_visit config mode gathered key) ih
  exact visits Gathered.empty

/-- Only gathering is traced. -/
theorem finishGathering_of_wording (tracing tracing' : Bool) (ending : Except Stop Gathered) :
    finishGathering config ⟨tracing, wording⟩ ending =
      finishGathering config ⟨tracing', wording⟩ ending := rfl

theorem conclude_of_wording (tracing tracing' : Bool) (e : Fault) :
    conclude mode ⟨tracing, wording⟩ e = conclude mode ⟨tracing', wording⟩ e := rfl

theorem annotates_attempt :
    (attempt config mode ⟨true, wording⟩ hasRequest needed).run.Annotates
      (attempt config mode ⟨false, wording⟩ hasRequest needed).run := by
  unfold attempt
  cases checkCall config hasRequest needed with
  | error e => exact .done _
  | ok keys =>
    dsimp only
    rw [ExceptT.run_bind_lift, ExceptT.run_bind_lift]
    refine .bind (annotates_gather config mode _) fun gathered => ?_
    rw [finishGathering_of_wording config wording true false]
    exact .refl _

/-- A parse with tracing is the parse without, with notes about its specifiers. -/
theorem annotates_parse :
    (parse config mode ⟨true, wording⟩ hasRequest needed).run.Annotates
      (parse config mode ⟨false, wording⟩ hasRequest needed).run := by
  unfold parse
  refine .within _
    (.bind (annotates_attempt config mode wording hasRequest needed) fun ending => ?_)
  cases ending with
  | ok outcome => exact .done _
  | error e =>
    dsimp only
    rw [conclude_of_wording mode wording true false]
    exact .refl _

theorem annotates_parseThen (callsBack : Bool) :
    (parseThen config ⟨true, wording⟩ hasRequest callsBack needed).run.Annotates
      (parseThen config ⟨false, wording⟩ hasRequest callsBack needed).run := by
  unfold parseThen
  exact .bind_except (annotates_parse config .awaiting wording hasRequest needed) fun outcome =>
    .refl _

section Logs

variable {log log' : Log} (same : log.wording = log'.wording)

include same

theorem like_parse :
    (parse config mode log hasRequest needed).run.Like
      (parse config mode log' hasRequest needed).run := by
  obtain ⟨tracing, wording⟩ := log
  obtain ⟨tracing', wording'⟩ := log'
  obtain rfl : wording = wording' := same
  have annotates := annotates_parse config mode wording hasRequest needed
  cases tracing <;> cases tracing'
  · exact .refl _
  · exact annotates.like.symm
  · exact annotates.like
  · exact .refl _

theorem like_parseThen (callsBack : Bool) :
    (parseThen config log hasRequest callsBack needed).run.Like
      (parseThen config log' hasRequest callsBack needed).run := by
  obtain ⟨tracing, wording⟩ := log
  obtain ⟨tracing', wording'⟩ := log'
  obtain rfl : wording = wording' := same
  have annotates := annotates_parseThen config wording hasRequest needed callsBack
  cases tracing <;> cases tracing'
  · exact .refl _
  · exact annotates.like.symm
  · exact annotates.like
  · exact .refl _

end Logs

end Dialogue

/-! ## Hosts -/

/-- Collaborators that are functions of their argument, whatever scope they are called in. -/
def Collaborators.Plain (collaborators : Collaborators) : Prop :=
  ∀ f scope inner argument,
    collaborators.respond f scope argument = collaborators.respond f inner argument

namespace Host

variable {host other : Host} (same : host.collaborators = other.collaborators)
  (plain : host.collaborators.Plain) (scopes inner : List Scope) (config : Config)
  (call : Call) (callback : Option Callback)

include same plain

/-- Hosts with the same collaborators answer in the same way, whatever time it is. -/
theorem world_agrees (request : Request) :
    (host.world request callback).Agrees (other.world request callback) := by
  intro q scope inner
  have respond : ∀ f argument, host.collaborators.respond f scope argument =
      other.collaborators.respond f inner argument :=
    fun f argument => same ▸ plain f scope inner argument
  cases q with
  | member name => rfl
  | call f argument => simp only [World.answer, world, respond]
  | begin f argument => rfl
  | await f argument => exact respond f argument
  | deliver delivery => rfl

/-- A parse at once depends on nothing of its host but the collaborators. -/
theorem parseNow_alike :
    Event.queries (host.parseNow scopes config call).events =
        Event.queries (other.parseNow inner config call).events ∧
      (host.parseNow scopes config call).value = (other.parseNow inner config call).value :=
  (Dialogue.like_parse config .immediate _ _ (congrArg Collaborators.wording same)).run_alike
    (world_agrees same plain none call.request) scopes inner

/-- A parse that waits depends on nothing of its host but the collaborators. -/
theorem parseWaiting_alike :
    Event.queries (host.parseWaiting scopes config call callback).events =
        Event.queries (other.parseWaiting inner config call callback).events ∧
      (host.parseWaiting scopes config call callback).value =
        (other.parseWaiting inner config call callback).value :=
  (Dialogue.like_parseThen config _ _ (congrArg Collaborators.wording same) _).run_alike
    (world_agrees same plain callback call.request) scopes inner

end Host

end Intake
