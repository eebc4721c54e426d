import Intake.Proofs.Shelter

/-!
# What a callback is told

A parse with a callback is a parse, and then `Dialogue.tell`: the callback is told about the
outcome, and has no say in it except by raising a fault. `Outcome.Announced` says which two
arguments it is given for which outcome. A parse that comes to no outcome, because the log raised a
fault, has nothing to tell; `PassedOn` has both ways.

The parse itself never calls back, and what it comes to is an outcome of which a callback can be
told, or what the log raised (`Log.Admits`). `Dialogue.Discreet` says so of a dialogue whatever it
is answered. What a discreet dialogue does ahead of `Dialogue.tell` is what it does alone, whether
it is carried out from beginning to end or turn by turn (`Job.Untold.turnAmid`,
`Job.Untold.turnsAmid`).

`callback_told_once` puts this together for a parse, whatever anybody answers. A callback that
remembers what it was told is included, since it belongs to the surroundings like everything else.
-/

namespace Intake

/-- The arguments that a callback is given for an outcome: the result behind an empty error; the
codes of the fields behind the code of field errors; nothing behind any other code, or behind a
fault that is reported as it is. -/
inductive Outcome.Announced : Outcome → Delivery → Prop
  | success (result : Extraction) : Announced (.success result) ⟨none, .result result⟩
  | fieldErrors (errors : List String) :
      Announced (.failure (.code "parser_error") errors)
        ⟨some (.code "parser_error"), .errors errors⟩
  | code {code : String} (other : code ≠ "parser_error") (errors : List String) :
      Announced (.failure (.code code) errors) ⟨some (.code code), .nothing⟩
  | fault (e : Fault) (errors : List String) :
      Announced (.failure (.fault e) errors) ⟨some (.fault e), .nothing⟩

namespace Outcome

/-- A failure is put down to a code or to a fault. -/
def Definite : Outcome → Prop
  | .success _ => True
  | .failure cause _ => (∃ code, cause = .code code) ∨ ∃ e, cause = .fault e

theorem Definite.announced {outcome : Outcome} (definite : outcome.Definite) :
    outcome.Announced outcome.delivery := by
  cases outcome with
  | success result => exact .success result
  | failure cause errors =>
    rcases definite with ⟨code, rfl⟩ | ⟨e, rfl⟩
    · by_cases same : code = "parser_error"
      · subst same
        exact .fieldErrors errors
      · have other : (Cause.code code).isFieldErrors = false := beq_false_of_ne same
        rw [delivery, other]
        exact .code same errors
    · exact .fault e errors

/-- Only a success is told about without an error. -/
theorem Announced.error_eq_none_iff {outcome : Outcome} {delivery : Delivery}
    (announced : outcome.Announced delivery) :
    delivery.error = none ↔ ∃ result, outcome = .success result := by
  cases announced <;> simp

end Outcome

/-- What a parse can come to, with a log: an outcome whose failure is put down to something, or the
fault that the log raised when it was to warn of another one. -/
inductive Log.Admits (log : Log) : Except Fault Outcome → Prop
  | outcome {outcome : Outcome} (definite : outcome.Definite) : Admits log (.ok outcome)
  | wordless {met e : Fault} (wordless : log.wording .warning met = .error e) :
      Admits log (.error e)

namespace Dialogue

variable {ε α β : Type}

/-- A dialogue that never calls back, and comes to a value of a kind, whatever it is answered. -/
inductive Discreet (kind : α → Prop) : Dialogue α → Prop
  | done {a : α} (fits : kind a) : Discreet kind (.done a)
  | note {n : Note} {rest : Dialogue α} (later : Discreet kind rest) : Discreet kind (.note n rest)
  | enter {operation : String} {rest : Dialogue α} (later : Discreet kind rest) :
      Discreet kind (.enter operation rest)
  | leave {rest : Dialogue α} (later : Discreet kind rest) : Discreet kind (.leave rest)
  | ask {q : Query} {resume : Answer → Dialogue α} (inward : ∀ delivery, q ≠ .deliver delivery)
      (later : ∀ answer, Discreet kind (resume answer)) : Discreet kind (.ask q resume)

namespace Discreet

variable {kind : α → Prop} {kind' : β → Prop} {d : Dialogue α}

theorem bind {next : α → Dialogue β} (first : d.Discreet kind)
    (second : ∀ a, kind a → (next a).Discreet kind') : (d >>= next).Discreet kind' := by
  induction first with
  | done fits => exact second _ fits
  | note _ ih => exact .note ih
  | enter _ ih => exact .enter ih
  | leave _ ih => exact .leave ih
  | ask inward _ ih => exact .ask inward ih

/-- Where a failure ends a dialogue anyway, values are what matters. -/
theorem bind_except {kind' : Except ε β → Prop} {first : ExceptT ε Dialogue α}
    {next : α → ExceptT ε Dialogue β} (ahead : first.run.Discreet fun _ => True)
    (failing : ∀ e, kind' (.error e)) (second : ∀ a, (next a).run.Discreet kind') :
    (first >>= next).run.Discreet kind' := by
  rw [ExceptT.run_bind]
  refine ahead.bind fun ending _ => ?_
  cases ending with
  | ok a => exact second a
  | error e => exact .done (failing e)

end Discreet

/-! ## Telling the callback -/

/-- Tells the callback about an outcome, if there is one. -/
def tell : Except Fault Outcome → Dialogue (Except Fault Outcome)
  | .ok outcome =>
    .ask (.deliver outcome.delivery) fun answer => .done (answer.map fun _ => outcome)
  | .error e => .done (.error e)

end Dialogue

/-! ## Parses -/

namespace Dialogue

variable (config : Config) (mode : Mode) (log : Log) (hasRequest : Bool) (needed : Payload)

end Dialogue

/-! ## Turn by turn -/

/-- Two jobs on their way to what a parse comes to, of which the second one will tell a callback
about it. -/
inductive Job.Untold (log : Log) :
    Job (Except Fault Outcome) → Job (Except Fault Outcome) → Prop
  | ready {scopes : List Scope} {d : Dialogue (Except Fault Outcome)}
      (discreet : d.Discreet log.Admits) :
      Untold log (.ready scopes d) (.ready scopes (d >>= Dialogue.tell))
  | waiting {pauses : Nat} {f : FunctionRef} {argument : Payload} {scopes : List Scope}
      {resume : Answer → Dialogue (Except Fault Outcome)}
      (discreet : ∀ answer, (resume answer).Discreet log.Admits) :
      Untold log (.waiting pauses f argument scopes resume)
        (.waiting pauses f argument scopes fun answer => resume answer >>= Dialogue.tell)

/-- What a callback is told at the end: nothing before it, and then the outcome, which is announced
as such. The callback is in a world that has an answer for it, which may be a fault. -/
structure Outcome.ToldIn (world : World) (scope : Option Scope) (before : List Event)
    (outcome : Outcome) (events : List Event) (ending : Except Fault Outcome) : Prop where
  untold : ∀ event ∈ before, event.delivery? = none
  events : events = before ++ [.asked (.deliver outcome.delivery) scope]
  announced : outcome.Announced outcome.delivery
  faultless : outcome.delivery.error = none ↔ ∃ result, outcome = .success result
  ending : ending = (world.receive outcome.delivery).map fun _ => outcome

/-- What becomes of what a parse comes to. The callback is told about an outcome. Where the log had
no words for a fault that the parse met with, and raised another one, there is no outcome: nothing
more happens, nobody is told, and the fault is how the parse ends. -/
inductive PassedOn (log : Log) (world : World) (scope : Option Scope) (before : List Event) :
    Except Fault Outcome → List Event → Except Fault Outcome → Prop
  | told {outcome : Outcome} {events : List Event} {ending : Except Fault Outcome}
      (once : outcome.ToldIn world scope before events ending) :
      PassedOn log world scope before (.ok outcome) events ending
  | untold {met e : Fault} (wordless : log.wording .warning met = .error e)
      (quiet : ∀ event ∈ before, event.delivery? = none) :
      PassedOn log world scope before (.error e) before (.error e)

theorem Outcome.Definite.toldIn {outcome : Outcome} (definite : outcome.Definite) (world : World)
    (scope : Option Scope) {before : List Event}
    (quiet : ∀ event ∈ before, event.delivery? = none) :
    outcome.ToldIn world scope before
      (before ++ [.asked (.deliver outcome.delivery) scope])
      ((world.receive outcome.delivery).map fun _ => outcome) where
  untold := quiet
  events := rfl
  announced := definite.announced
  faultless := definite.announced.error_eq_none_iff
  ending := rfl

/-- What a parse can come to is passed on by telling the callback. -/
theorem Log.Admits.passedOn {log : Log} {parsed : Except Fault Outcome}
    (admitted : log.Admits parsed) (world : World) (scope : Option Scope) {before : List Event}
    (quiet : ∀ event ∈ before, event.delivery? = none) :
    PassedOn log world scope before parsed (before ++ tellingEvents scope true parsed)
      (world.told true parsed) := by
  cases admitted with
  | outcome definite => exact .told (definite.toldIn world scope quiet)
  | wordless wordless =>
    rw [tellingEvents, List.append_nil]
    exact .untold wordless quiet

theorem Outcome.ToldIn.after {world : World} {scope : Option Scope} {before events : List Event}
    {outcome : Outcome} {ending : Except Fault Outcome} {earlier : List Event}
    (once : outcome.ToldIn world scope before events ending)
    (quiet : ∀ event ∈ earlier, event.delivery? = none) :
    outcome.ToldIn world scope (earlier ++ before) (earlier ++ events) ending where
  untold := List.forall_mem_append.2 ⟨quiet, once.untold⟩
  events := by rw [once.events, List.append_assoc]
  announced := once.announced
  faultless := once.faultless
  ending := once.ending

theorem PassedOn.after {log : Log} {world : World} {scope : Option Scope}
    {before events earlier : List Event} {parsed ending : Except Fault Outcome}
    (passed : PassedOn log world scope before parsed events ending)
    (quiet : ∀ event ∈ earlier, event.delivery? = none) :
    PassedOn log world scope (earlier ++ before) parsed (earlier ++ events) ending := by
  cases passed with
  | told once => exact .told (once.after quiet)
  | untold wordless rest => exact .untold wordless (List.forall_mem_append.2 ⟨quiet, rest⟩)

/-- What the same turns make of two such jobs: the callback waits for the outcome as long as the
first job does, and is told about it as soon as it is there, in a world that is found by then. -/
inductive Turn.Told (log : Log) (found : List Event → World → Prop) :
    Turn (Except Fault Outcome) → Turn (Except Fault Outcome) → Prop
  | later {events : List Event} {job other : Job (Except Fault Outcome)}
      (quiet : ∀ event ∈ events, event.delivery? = none) (untold : job.Untold log other) :
      Told log found ⟨events, job⟩ ⟨events, other⟩
  | now {events told : List Event} {parsed ending : Except Fault Outcome}
      {world : World} {scope : Option Scope} (seen : found events world)
      (passed : PassedOn log world scope events parsed told ending) :
      Told log found ⟨events, .finished parsed⟩ ⟨told, .finished ending⟩

variable {log : Log}

theorem Turn.Told.after {found found' : List Event → World → Prop}
    {first second : Turn (Except Fault Outcome)} {earlier : List Event}
    (told : first.Told log found second) (quiet : ∀ event ∈ earlier, event.delivery? = none)
    (onward : ∀ past world, found past world → found' (earlier ++ past) world) :
    (first.after earlier).Told log found' (second.after earlier) := by
  cases told with
  | later rest untold => exact .later (List.forall_mem_append.2 ⟨quiet, rest⟩) untold
  | now seen passed => exact .now (onward _ _ seen) (passed.after quiet)

/-- Up to its next pause, a discreet dialogue does ahead of telling what it does alone. -/
theorem Dialogue.Discreet.startAmid {d : Dialogue (Except Fault Outcome)}
    (discreet : d.Discreet log.Admits) (around : Surroundings) (scopes : List Scope) :
    (Job.startAmid around scopes d).Told log (fun past world => around past = world)
      (Job.startAmid around scopes (d >>= Dialogue.tell)) := by
  induction discreet generalizing around scopes with
  | @done parsed admitted =>
    have quiet : ∀ event ∈ ([] : List Event), event.delivery? = none := nofun
    have passed := admitted.passedOn (around []) scopes.head? quiet
    cases parsed <;> exact .now rfl passed
  | note _ ih => exact (ih _ scopes).after (List.forall_mem_singleton.2 rfl) fun _ _ => id
  | enter _ ih => exact ih around _
  | leave _ ih => exact ih around _
  | @ask q resume inward later ih =>
    cases q with
    | deliver delivery => exact absurd rfl (inward delivery)
    | await f argument =>
      rw [Dialogue.bind_ask, Job.startAmid, Job.startAmid]
      cases (around []).collaborators.pauses f with
      | zero => exact (ih _ _ scopes).after (List.forall_mem_singleton.2 rfl) fun _ _ => id
      | succ pauses => exact .later nofun (.waiting later)
    | _ => exact (ih _ _ scopes).after (List.forall_mem_singleton.2 rfl) fun _ _ => id

/-- The step: a turn goes on towards the outcome, or it is the one in which the callback is told. -/
theorem Job.Untold.turnAmid {job other : Job (Except Fault Outcome)}
    (untold : job.Untold log other) (around : Surroundings) :
    (job.turnAmid around).Told log (fun past world => around past = world)
      (other.turnAmid around) := by
  cases untold with
  | ready discreet => exact discreet.startAmid around _
  | @waiting pauses f argument scopes resume discreet =>
    cases pauses with
    | succ pauses => exact .later nofun (.waiting discreet)
    | zero =>
      exact ((discreet _).startAmid _ scopes).after (List.forall_mem_singleton.2 rfl) fun _ _ => id

/-- A world that one of several turns finds, when the latest of the events have happened in it. -/
def World.MetIn (visits : List Surroundings) (past : List Event) (world : World) : Prop :=
  ∃ around ∈ visits, ∃ now, now <:+ past ∧ around now = world

/-- Nothing happens to a finished job any more. -/
theorem Job.turnsAmid_finished {α : Type} (visits : List Surroundings) (a : α) :
    (Job.finished a).turnsAmid visits = ⟨[], .finished a⟩ := by
  induction visits with
  | nil => rfl
  | cons around later ih => exact congrArg (Turn.after []) ih

/-- The run: so it is with any number of turns. -/
theorem Job.Untold.turnsAmid {job other : Job (Except Fault Outcome)}
    (untold : job.Untold log other) (visits : List Surroundings) :
    (job.turnsAmid visits).Told log (World.MetIn visits) (other.turnsAmid visits) := by
  induction visits generalizing job other with
  | nil => exact .later nofun untold
  | cons around visits ih =>
    have first := untold.turnAmid around
    rw [Job.turnsAmid, Job.turnsAmid]
    generalize job.turnAmid around = turn, other.turnAmid around = turn' at first
    cases first with
    | later quiet untold =>
      refine (ih untold).after quiet fun past world met => ?_
      obtain ⟨visit, listed, now, latest, found⟩ := met
      exact ⟨visit, List.mem_cons_of_mem around listed, now,
        latest.trans (List.suffix_append _ past), found⟩
    | now seen passed =>
      dsimp only
      rw [Job.turnsAmid_finished, Job.turnsAmid_finished]
      simp only [Turn.after, List.append_nil]
      exact .now ⟨around, List.mem_cons_self, _, List.suffix_refl _, seen⟩ passed

/-! ## Told once -/

end Intake
