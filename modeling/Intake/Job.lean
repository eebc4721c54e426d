import Intake.World

/-!
Dialogues that take turns. A job is a dialogue that is carried out piece by piece: each turn goes
on to the next pause of a function that the dialogue waits for, or to the end. A job keeps its own
scopes, beginning with those that were open where it was made.

Any number of jobs can take turns in any order, each in its own world; `Crew.roundRobin` gives a
turn to each of them, round after round.
-/

namespace Intake

/-- A dialogue on its way, with its scopes. -/
inductive Job (α : Type) where
  | ready (scopes : List Scope) (d : Dialogue α)
  | waiting (pauses : Nat) (f : FunctionRef) (argument : Payload) (scopes : List Scope)
    (resume : Answer → Dialogue α)
  | finished (a : α)

/-- What one turn of a job leads to. -/
structure Turn (α : Type) where
  events : List Event
  job : Job α

/-- A turn with events ahead of it. -/
def Turn.after {α : Type} (events : List Event) (turn : Turn α) : Turn α :=
  { turn with events := events ++ turn.events }

namespace Job

variable {α : Type}

/-- Carries out a dialogue up to its next pause. -/
def start (world : World) (scopes : List Scope) : Dialogue α → Turn α
  | .done a => ⟨[], .finished a⟩
  | .note n rest => (start world scopes rest).after [.recorded ⟨n, scopes.head?⟩]
  | .enter operation rest => start world (world.opening operation :: scopes) rest
  | .leave rest => start world scopes.tail rest
  | .ask (.await f argument) resume =>
    match world.collaborators.pauses f with
    | pauses + 1 => ⟨[], .waiting pauses f argument scopes resume⟩
    | 0 =>
      (start world scopes (resume (world.answer scopes.head? (.await f argument)))).after
        [.asked (.await f argument) scopes.head?]
  | .ask q resume =>
    (start world scopes (resume (world.answer scopes.head? q))).after [.asked q scopes.head?]

/-- One turn of a job. A function answers once its pauses are over. -/
def turn (world : World) : Job α → Turn α
  | .ready scopes d => start world scopes d
  | .waiting (pauses + 1) f argument scopes resume =>
    ⟨[], .waiting pauses f argument scopes resume⟩
  | .waiting 0 f argument scopes resume =>
    (start world scopes (resume (world.answer scopes.head? (.await f argument)))).after
      [.asked (.await f argument) scopes.head?]
  | .finished a => ⟨[], .finished a⟩

/-- How many pauses a query makes. -/
def pausesAt (world : World) : Query → Nat
  | .await f _ => world.collaborators.pauses f
  | _ => 0

/-- How many pauses a dialogue makes altogether. -/
def pausesOf (world : World) (scopes : List Scope) : Dialogue α → Nat
  | .done _ => 0
  | .note _ rest => pausesOf world scopes rest
  | .enter operation rest => pausesOf world (world.opening operation :: scopes) rest
  | .leave rest => pausesOf world scopes.tail rest
  | .ask q resume =>
    pausesAt world q + pausesOf world scopes (resume (world.answer scopes.head? q))

/-- How many turns a job needs to finish. -/
def turnsLeft (world : World) : Job α → Nat
  | .ready scopes d => pausesOf world scopes d + 1
  | .waiting pauses f argument scopes resume =>
    pauses + 1 + pausesOf world scopes (resume (world.answer scopes.head? (.await f argument)))
  | .finished _ => 0

/-- What a job ends with when it gets all its turns. -/
def result (world : World) : Job α → α
  | .ready scopes d => (d.run world scopes).value
  | .waiting _ f argument scopes resume =>
    ((resume (world.answer scopes.head? (.await f argument))).run world scopes).value
  | .finished a => a

end Job

/-- Jobs side by side, each in a world of its own. -/
abbrev Crew (α : Type) := List (World × Job α)

namespace Crew

variable {α : Type}

/-- Gives the job of a number a turn. A number without a job changes nothing. -/
def turn (crew : Crew α) (number : Nat) : List (Nat × Event) × Crew α :=
  match crew[number]? with
  | some (world, job) =>
    let next := job.turn world
    (next.events.map fun event => (number, event), crew.set number (world, next.job))
  | none => ([], crew)

/-- Gives turns in the order of a list of numbers. -/
def run (crew : Crew α) : List Nat → List (Nat × Event) × Crew α
  | [] => ([], crew)
  | number :: order =>
    let (events, crew) := crew.turn number
    let (later, crew) := crew.run order
    (events ++ later, crew)

/-- How many rounds it takes until every job is finished. -/
def roundsLeft (crew : Crew α) : Nat :=
  crew.foldr (fun (world, job) rounds => max (job.turnsLeft world) rounds) 0

/-- The order in which every job has its turn in every round. -/
def roundRobinOrder (size rounds : Nat) : List Nat :=
  (List.replicate rounds (List.range size)).flatten

/-- Gives turns round after round until every job is finished. -/
def roundRobin (crew : Crew α) : List (Nat × Event) × List α :=
  let (events, crew) := crew.run (roundRobinOrder crew.length crew.roundsLeft)
  (events, crew.map fun (world, job) => job.result world)

end Crew

end Intake
