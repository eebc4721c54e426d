import Intake.Dialogue

/-!
Carrying a dialogue out. A world answers the queries of one dialogue: it holds the request, the
functions, the callback and the clock. Scopes are opened and closed on top of those that are open
already; what a function sees of them, and what a note is recorded under, is the innermost one.

`Dialogue.run` gives the course of a dialogue: its value, the scopes that are open in the end, and
the events on the way, in order. `Dialogue.run_bind` says that the course of a continuation follows
that of the dialogue before it.
-/

namespace Intake

/-- What the functions do, and what the log makes of faults. A function sees the scope that it is
called in, and lets others go on for a number of times before it answers. -/
structure Collaborators where
  respond : FunctionRef → Option Scope → Payload → Answer
  pauses : FunctionRef → Nat
  wording : Level → Fault → Except Fault String

/-- The surroundings of one dialogue. -/
structure World where
  collaborators : Collaborators
  clock : Clock
  member : String → Except Fault Payload
  receive : Delivery → Answer

/-- The answer to a query that is asked in a scope. An asynchronous function that is called does
nothing until it is waited for. -/
def World.answer (world : World) (scope : Option Scope) : Query → Answer
  | .member name => world.member name
  | .call f argument =>
    if f.asynchronous then .ok (.pending f argument)
    else world.collaborators.respond f scope argument
  | .begin f argument => .ok (.pending f argument)
  | .await f argument => world.collaborators.respond f scope argument
  | .deliver delivery => world.receive delivery

/-- The scope that a dialogue opens now. -/
def World.opening (world : World) (operation : String) : Scope :=
  .opening world.clock none (some operation)

/-- What happens when a dialogue is carried out, with the scope that it happens in. -/
inductive Event where
  | asked (q : Query) (scope : Option Scope)
  | recorded (r : Record)
  deriving Repr

/-- What a callback is told by an event. -/
def Event.delivery? : Event → Option Delivery
  | .asked (.deliver delivery) _ => some delivery
  | _ => none

/-- The function that an event calls, and its argument. -/
def Event.call? : Event → Option (FunctionRef × Payload)
  | .asked (.call f argument) _ => some (f, argument)
  | .asked (.await f argument) _ => some (f, argument)
  | _ => none

/-- What an event leaves in the log. -/
def Event.record? : Event → Option Record
  | .recorded r => some r
  | _ => none

/-- The course of a dialogue. -/
structure Course (α : Type) where
  events : List Event
  scopes : List Scope
  value : α
  deriving Repr

/-- A course with events ahead of it. -/
def Course.after {α : Type} (events : List Event) (course : Course α) : Course α :=
  { course with events := events ++ course.events }

namespace Dialogue

variable {α β : Type}

/-- Carries out a dialogue from beginning to end, where some scopes are open. -/
def run (world : World) (scopes : List Scope) : Dialogue α → Course α
  | .done a => ⟨[], scopes, a⟩
  | .note n rest => (rest.run world scopes).after [.recorded ⟨n, scopes.head?⟩]
  | .enter operation rest => rest.run world (world.opening operation :: scopes)
  | .leave rest => rest.run world scopes.tail
  | .ask q resume =>
    ((resume (world.answer scopes.head? q)).run world scopes).after [.asked q scopes.head?]

theorem run_bind (world : World) (scopes : List Scope) (d : Dialogue α) (next : α → Dialogue β) :
    (d >>= next).run world scopes =
      ((next (d.run world scopes).value).run world (d.run world scopes).scopes).after
        (d.run world scopes).events := by
  induction d generalizing scopes with
  | done a => simp [run, Course.after]
  | note n rest ih => simp [run, Course.after, ih]
  | enter operation rest ih => simp [run, ih]
  | leave rest ih => simp [run, ih]
  | ask q resume ih => simp [run, Course.after, ih]

end Dialogue

end Intake
