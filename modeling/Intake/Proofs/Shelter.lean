import Intake.Proofs.Crew

/-!
# Parses in a scope of their own

A parse opens a scope before it does anything else, and what it asks and notes from then on is
asked and noted in that scope, until it has closed it again and calls back. `Dialogue.Sheltered`
says so of a dialogue in the middle of its way, whatever it is answered: nothing can happen to it
out of its own scope, except that it calls back in the scope outside.

A sheltered dialogue is sheltered in every course (`Dialogue.Sheltered.events_runAmid`), and so it
is when it takes turns. `Job.turnsAmid` gives a job one turn after the other, each amid surroundings
of its own: what other jobs do in between can show in nothing else. A turn goes through sheltered
events and leaves a sheltered job behind (`Job.Sheltered.turnAmid`), and so does any number of
turns.
-/

namespace Intake

/-- An event in a scope of its own, or a call back in the scope outside. -/
def Event.Sheltered (own outer : Option Scope) : Event → Prop
  | .asked (.deliver _) scope => scope = outer
  | .asked _ scope => scope = own
  | .recorded r => r.scope = own

/-! ## Turns amid surroundings -/

namespace Job

variable {α : Type}

/-- Carries out a dialogue up to its next pause, amid surroundings. -/
def startAmid (around : Surroundings) (scopes : List Scope) : Dialogue α → Turn α
  | .done a => ⟨[], .finished a⟩
  | .note n rest =>
    let event := .recorded ⟨n, scopes.head?⟩
    (startAmid (around.after [event]) scopes rest).after [event]
  | .enter operation rest => startAmid around ((around []).opening operation :: scopes) rest
  | .leave rest => startAmid around scopes.tail rest
  | .ask (.await f argument) resume =>
    match (around []).collaborators.pauses f with
    | pauses + 1 => ⟨[], .waiting pauses f argument scopes resume⟩
    | 0 =>
      let event := .asked (.await f argument) scopes.head?
      (startAmid (around.after [event]) scopes
        (resume ((around []).answer scopes.head? (.await f argument)))).after [event]
  | .ask q resume =>
    let event := .asked q scopes.head?
    (startAmid (around.after [event]) scopes
      (resume ((around []).answer scopes.head? q))).after [event]

/-- One turn of a job, amid surroundings. -/
def turnAmid (around : Surroundings) : Job α → Turn α
  | .ready scopes d => startAmid around scopes d
  | .waiting (pauses + 1) f argument scopes resume =>
    ⟨[], .waiting pauses f argument scopes resume⟩
  | .waiting 0 f argument scopes resume =>
    let event := .asked (.await f argument) scopes.head?
    (startAmid (around.after [event]) scopes
      (resume ((around []).answer scopes.head? (.await f argument)))).after [event]
  | .finished a => ⟨[], .finished a⟩

/-- Turns of a job, each amid the surroundings that it finds. -/
def turnsAmid : List Surroundings → Job α → Turn α
  | [], job => ⟨[], job⟩
  | around :: later, job =>
    let first := job.turnAmid around
    (turnsAmid later first.job).after first.events

section Still

variable (world : World)

theorem startAmid_const (scopes : List Scope) (d : Dialogue α) :
    startAmid (fun _ => world) scopes d = start world scopes d := by
  induction d generalizing scopes with
  | done a => rfl
  | note n rest ih => exact congrArg (Turn.after _) (ih scopes)
  | enter operation rest ih => exact ih _
  | leave rest ih => exact ih scopes.tail
  | ask q resume ih =>
    cases q with
    | await f argument =>
      rw [startAmid, start]
      cases world.collaborators.pauses f with
      | zero => exact congrArg (Turn.after _) (ih _ scopes)
      | succ pauses => rfl
    | _ => exact congrArg (Turn.after _) (ih _ scopes)

theorem turnAmid_const (job : Job α) : job.turnAmid (fun _ => world) = job.turn world := by
  cases job with
  | ready scopes d => exact startAmid_const world scopes d
  | waiting pauses f argument scopes resume =>
    cases pauses with
    | zero => exact congrArg (Turn.after _) (startAmid_const world scopes _)
    | succ pauses => rfl
  | finished a => rfl

/-- The turns of a job in one world are those amid surroundings that never change. -/
theorem turnsAmid_const (count : Nat) (job : Job α) :
    job.turnsAmid (List.replicate count fun _ => world) = job.turns world count := by
  induction count generalizing job with
  | zero => rfl
  | succ count ih => rw [List.replicate_succ, turnsAmid, turns, turnAmid_const, ih]

end Still

end Job

/-! ## Sheltered dialogues -/

namespace Dialogue

variable {α β : Type} {own outer : Option Scope} {scopes : List Scope}

/-- A dialogue whose events are sheltered, where some scopes are open and whatever it is answered.
It opens no scope. -/
inductive Sheltered (own outer : Option Scope) : List Scope → Dialogue α → Prop
  | done {scopes : List Scope} (a : α) : Sheltered own outer scopes (.done a)
  | note {scopes : List Scope} {n : Note} {rest : Dialogue α}
      (placed : (Event.recorded ⟨n, scopes.head?⟩).Sheltered own outer)
      (later : Sheltered own outer scopes rest) : Sheltered own outer scopes (.note n rest)
  | leave {scopes : List Scope} {rest : Dialogue α}
      (later : Sheltered own outer scopes.tail rest) : Sheltered own outer scopes (.leave rest)
  | ask {scopes : List Scope} {q : Query} {resume : Answer → Dialogue α}
      (placed : (Event.asked q scopes.head?).Sheltered own outer)
      (later : ∀ answer, Sheltered own outer scopes (resume answer)) :
      Sheltered own outer scopes (.ask q resume)

/-- A dialogue that stays in its scope is sheltered there, and so is what follows it. -/
theorem Orderly.sheltered_bind {permitted : Query → Prop} {raised : Fault → α} {d : Dialogue α}
    {next : α → Dialogue β} (orderly : d.Orderly permitted raised) (inside : scopes.head? = own)
    (placed : ∀ q, permitted q → (Event.asked q own).Sheltered own outer)
    (onward : ∀ a, (next a).Sheltered own outer scopes) :
    (d >>= next).Sheltered own outer scopes := by
  induction orderly with
  | done a => exact onward a
  | note _ _ ih => exact .note inside ih
  | ask allowed _ _ ih => exact .ask (inside ▸ placed _ allowed) ih

theorem Sheltered.events_runAmid {d : Dialogue α} (sheltered : d.Sheltered own outer scopes)
    (around : Surroundings) :
    ∀ event ∈ (d.runAmid around scopes).events, event.Sheltered own outer := by
  induction sheltered generalizing around with
  | done a => exact fun event listed => absurd listed List.not_mem_nil
  | note placed _ ih => exact List.forall_mem_cons.2 ⟨placed, ih _⟩
  | leave _ ih => exact ih around
  | ask placed _ ih => exact List.forall_mem_cons.2 ⟨placed, ih _ _⟩

end Dialogue

namespace Job

variable {α : Type} {own outer : Option Scope}

/-- A job whose dialogue is sheltered. -/
def Sheltered (own outer : Option Scope) : Job α → Prop
  | .ready scopes d => d.Sheltered own outer scopes
  | .waiting _ f argument scopes resume =>
    (Dialogue.ask (.await f argument) resume).Sheltered own outer scopes
  | .finished _ => True

end Job

/-- A turn that goes through sheltered events, and leaves a sheltered job behind. -/
structure Turn.Sheltered {α : Type} (own outer : Option Scope) (turn : Turn α) : Prop where
  events : ∀ event ∈ turn.events, event.Sheltered own outer
  job : turn.job.Sheltered own outer

theorem Turn.Sheltered.after {α : Type} {own outer : Option Scope} {turn : Turn α}
    {events : List Event} (sheltered : turn.Sheltered own outer)
    (earlier : ∀ event ∈ events, event.Sheltered own outer) :
    (turn.after events).Sheltered own outer :=
  ⟨List.forall_mem_append.2 ⟨earlier, sheltered.events⟩, sheltered.job⟩

/-- A sheltered dialogue is sheltered up to its next pause, and from there. -/
theorem Dialogue.Sheltered.startAmid {α : Type} {own outer : Option Scope} {scopes : List Scope}
    {d : Dialogue α} (sheltered : d.Sheltered own outer scopes) (around : Surroundings) :
    (Job.startAmid around scopes d).Sheltered own outer := by
  induction sheltered generalizing around with
  | done a => exact ⟨nofun, trivial⟩
  | note placed _ ih => exact (ih _).after (List.forall_mem_singleton.2 placed)
  | leave _ ih => exact ih around
  | @ask scopes q resume placed later ih =>
    cases q with
    | await f argument =>
      rw [Job.startAmid]
      cases (around []).collaborators.pauses f with
      | zero => exact (ih _ _).after (List.forall_mem_singleton.2 placed)
      -- A pause comes ahead of the answer, so that the query is left to a later turn.
      | succ pauses => exact ⟨nofun, .ask placed later⟩
    | _ => exact (ih _ _).after (List.forall_mem_singleton.2 placed)

namespace Job.Sheltered

variable {α : Type} {own outer : Option Scope} {job : Job α}

/-- The step: a turn of a sheltered job is sheltered, whatever it finds. -/
theorem turnAmid (sheltered : job.Sheltered own outer) (around : Surroundings) :
    (job.turnAmid around).Sheltered own outer := by
  cases job with
  | ready scopes d => exact Dialogue.Sheltered.startAmid sheltered around
  | waiting pauses f argument scopes resume =>
    cases pauses with
    | succ pauses => exact ⟨nofun, sheltered⟩
    | zero =>
      cases sheltered with
      | ask placed later => exact ((later _).startAmid _).after (List.forall_mem_singleton.2 placed)
  | finished a => exact ⟨nofun, trivial⟩

/-- The run: so is any number of turns. -/
theorem turnsAmid (sheltered : job.Sheltered own outer) (visits : List Surroundings) :
    (job.turnsAmid visits).Sheltered own outer := by
  induction visits generalizing job with
  | nil => exact ⟨nofun, sheltered⟩
  | cons around later ih =>
    have first := sheltered.turnAmid around
    exact (ih first.job).after first.events

end Job.Sheltered

/-! ## Parses -/

namespace Dialogue

variable (config : Config) (mode : Mode) (log : Log) (hasRequest callsBack : Bool)
  (needed : Payload)

/-- What a parse asks is asked in its own scope. -/
theorem sheltered_of_parses {own outer : Option Scope} (q : Query) (parses : q.Parses config) :
    (Event.asked q own).Sheltered own outer := by
  cases q with
  | deliver delivery => exact parses.elim False.elim False.elim
  | _ => rfl

/-- What a fault comes to is noted in its scope, and so it is sheltered there. -/
theorem sheltered_conclude {β : Type} {own outer : Option Scope} {scopes : List Scope} (e : Fault)
    {next : Except Fault Outcome → Dialogue β} (inside : scopes.head? = own)
    (onward : ∀ ending, (next ending).Sheltered own outer scopes) :
    ((conclude mode log e).run >>= next).Sheltered own outer scopes := by
  rw [conclude_eq]
  induction conclusionNotes mode log e with
  | nil => exact onward _
  | cons n notes ih => exact .note inside ih

/-- Once a parse has opened its scope, it is sheltered there, and so is what follows it outside. -/
theorem sheltered_parse {β : Type} (next : Except Fault Outcome → Dialogue β) :
    ∃ rest, ((parse config mode log hasRequest needed).run >>= next) =
        .enter mode.operation rest ∧
      ∀ scope scopes outer, (∀ ending, (next ending).Sheltered (some scope) outer scopes) →
        rest.Sheltered (some scope) outer (scope :: scopes) := by
  unfold parse within
  rw [ExceptT.run_mk, bind_enter, bind_bind, bind_bind]
  refine ⟨_, rfl, fun scope scopes outer onward => ?_⟩
  refine (orderly_attempt config mode log hasRequest needed).sheltered_bind rfl
    (sheltered_of_parses config) fun ending => ?_
  cases ending with
  | ok outcome => exact .leave (onward (.ok outcome))
  | error e => exact sheltered_conclude mode log e rfl fun ending => .leave (onward ending)

/-- A parse at once opens its scope, and is sheltered in it to the end. -/
theorem sheltered_parseNow :
    ∃ rest, (parse config .immediate log hasRequest needed).run =
        .enter Mode.immediate.operation rest ∧
      ∀ scope scopes outer, rest.Sheltered (some scope) outer (scope :: scopes) := by
  obtain ⟨rest, same, sheltered⟩ :=
    sheltered_parse config .immediate log hasRequest needed pure
  rw [bind_pure_self] at same
  exact ⟨rest, same, fun scope scopes outer => sheltered scope scopes outer fun _ => .done _⟩

/-- A parse that waits opens its scope, and is sheltered in it until it calls back outside. -/
theorem sheltered_parseThen :
    ∃ rest, (parseThen config log hasRequest callsBack needed).run =
        .enter Mode.awaiting.operation rest ∧
      ∀ scope scopes, rest.Sheltered (some scope) scopes.head? (scope :: scopes) := by
  obtain ⟨rest, same, sheltered⟩ := sheltered_parse config .awaiting log hasRequest needed _
  refine ⟨rest, same, fun scope scopes => sheltered scope scopes _ fun ending => ?_⟩
  cases ending with
  | error e => exact .done _
  | ok outcome =>
    cases callsBack with
    | false => exact .done _
    | true =>
      refine .ask rfl fun answer => ?_
      cases answer <;> exact .done _

/-- So it is when a parse that waits takes turns: its scope is the one that the first turn opens. -/
theorem sheltered_turnsAmid_parseThen (scopes : List Scope) (first : Surroundings)
    (later : List Surroundings) :
    ∀ event ∈ ((Job.ready scopes
        (parseThen config log hasRequest callsBack needed).run).turnsAmid
          (first :: later)).events,
      event.Sheltered (some ⟨(first []).clock.requestId, some "parse"⟩) scopes.head? := by
  obtain ⟨rest, same, sheltered⟩ :=
    sheltered_parseThen config log hasRequest callsBack needed
  have opened := (sheltered ((first []).opening Mode.awaiting.operation) scopes).startAmid first
  rw [same, Job.turnsAmid]
  exact ((opened.job.turnsAmid later).after opened.events).events

end Dialogue

namespace Scene

variable (scene : Scene) (scopes : List Scope) (config : Config) (needed : Payload)
  (callback : Option Callback)

theorem sheltered_parseNow :
    ∀ event ∈ (scene.parseNow scopes config needed).events,
      event.Sheltered (some ⟨(scene.host []).clock.requestId, some "parse_sync"⟩) scopes.head? := by
  obtain ⟨rest, same, sheltered⟩ := Dialogue.sheltered_parseNow config
    (scene.host []).log (scene.request []).isPresent needed
  rw [parseNow, same]
  exact (sheltered _ scopes scopes.head?).events_runAmid (scene.around none)

theorem sheltered_parseWaiting :
    ∀ event ∈ (scene.parseWaiting scopes config needed callback).events,
      event.Sheltered (some ⟨(scene.host []).clock.requestId, some "parse"⟩) scopes.head? := by
  obtain ⟨rest, same, sheltered⟩ := Dialogue.sheltered_parseThen config
    (scene.host []).log (scene.request []).isPresent callback.isSome needed
  rw [parseWaiting, same]
  exact (sheltered _ scopes).events_runAmid (scene.around callback)

end Scene

namespace Host

variable (host : Host) (scopes : List Scope) (config : Config) (call : Call)
  (callback : Option Callback)

/-- The job that a parse is put among others as. -/
def job : Job (Except Fault Outcome) := (host.schedule scopes config call callback).2.job

/-- A parse that takes turns is sheltered in the scope that its first turn opens, whatever it finds
in any turn. -/
theorem sheltered_turnsAmid (first : Surroundings) (later : List Surroundings) :
    ∀ event ∈ ((host.job scopes config call callback).turnsAmid (first :: later)).events,
      event.Sheltered (some ⟨(first []).clock.requestId, some "parse"⟩) scopes.head? := by
  exact Dialogue.sheltered_turnsAmid_parseThen config host.log
    call.request.isPresent callback.isSome call.needed scopes first later

/-- Among the jobs of a crew a parse is sheltered in its scope, whatever turns the others get. -/
theorem sheltered_run {crew : Crew (Except Fault Outcome)} {number : Nat}
    (listed : crew[number]? = some (host.world call.request callback,
      host.job scopes config call callback)) (order : List Nat) :
    ∀ event ∈ Crew.eventsOf number (crew.run order).1,
      event.Sheltered (some ⟨host.clock.requestId, some "parse"⟩) scopes.head? := by
  obtain ⟨made, -⟩ := Crew.run_of_listed order listed
  rw [made, ← Job.turnsAmid_const]
  cases order.count number with
  | zero => exact nofun
  | succ count =>
    rw [List.replicate_succ]
    exact host.sheltered_turnsAmid scopes config call callback _ _

end Host

end Intake
