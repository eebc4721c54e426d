import Intake.Journal
import Intake.Outcome

/-!
Dialogues: computations that consult their surroundings. A dialogue is finished, or it makes a note
and goes on, or it opens or closes a scope and goes on, or it asks a query and goes on with the
answer, whatever that will be. It says nothing about who answers, so that everything it can do under
any answers can be read off it.

A query reads a member of the request, calls a function, begins a function and waits for it, or
delivers an outcome to a callback. Answers are payloads or faults.

Dialogues form a lawful monad. `Dialogue.within` encloses a dialogue in a scope.
-/

namespace Intake

/-- What a dialogue asks. -/
inductive Query where
  /-- Reads a member of the request. -/
  | member (name : String)
  /-- Calls a function. What an asynchronous one gives at once is pending, and nobody waits for it.
  -/
  | call (f : FunctionRef) (argument : Payload)
  /-- Calls a function whose answer is going to be waited for. -/
  | begin (f : FunctionRef) (argument : Payload)
  /-- Waits for the answer of a function that has been called. -/
  | await (f : FunctionRef) (argument : Payload)
  /-- Calls back. -/
  | deliver (delivery : Delivery)
  deriving Repr

/-- What a query is answered with. -/
abbrev Answer := Except Fault Payload

/-- A computation that makes notes, moves between scopes and asks queries on its way to a value. -/
inductive Dialogue (α : Type) where
  | done (a : α)
  | note (n : Note) (rest : Dialogue α)
  | enter (operation : String) (rest : Dialogue α)
  | leave (rest : Dialogue α)
  | ask (q : Query) (resume : Answer → Dialogue α)

namespace Dialogue

variable {α β γ : Type}

/-- Continues a dialogue with another one once it is finished. -/
def bind : Dialogue α → (α → Dialogue β) → Dialogue β
  | .done a, next => next a
  | .note n rest, next => .note n (rest.bind next)
  | .enter operation rest, next => .enter operation (rest.bind next)
  | .leave rest, next => .leave (rest.bind next)
  | .ask q resume, next => .ask q fun answer => (resume answer).bind next

instance : Monad Dialogue where
  pure := .done
  bind := bind

@[simp] theorem pure_eq_done (a : α) : (pure a : Dialogue α) = .done a := rfl

@[simp] theorem bind_done (a : α) (next : α → Dialogue β) : (done a >>= next) = next a := rfl

@[simp] theorem bind_note (n : Note) (rest : Dialogue α) (next : α → Dialogue β) :
    (note n rest >>= next) = note n (rest >>= next) := rfl

@[simp] theorem bind_enter (operation : String) (rest : Dialogue α) (next : α → Dialogue β) :
    (enter operation rest >>= next) = enter operation (rest >>= next) := rfl

@[simp] theorem bind_leave (rest : Dialogue α) (next : α → Dialogue β) :
    (leave rest >>= next) = leave (rest >>= next) := rfl

@[simp] theorem bind_ask (q : Query) (resume : Answer → Dialogue α) (next : α → Dialogue β) :
    (ask q resume >>= next) = ask q fun answer => resume answer >>= next := rfl

theorem bind_pure_self (d : Dialogue α) : (d >>= fun a => pure a) = d := by
  induction d with
  | done a => rfl
  | note n rest ih => rw [bind_note, ih]
  | enter operation rest ih => rw [bind_enter, ih]
  | leave rest ih => rw [bind_leave, ih]
  | ask q resume ih => rw [bind_ask]; congr 1; funext answer; exact ih answer

theorem bind_bind (d : Dialogue α) (first : α → Dialogue β) (second : β → Dialogue γ) :
    (d >>= first >>= second) = (d >>= fun a => first a >>= second) := by
  induction d with
  | done a => rfl
  | note n rest ih => rw [bind_note, bind_note, bind_note, ih]
  | enter operation rest ih => rw [bind_enter, bind_enter, bind_enter, ih]
  | leave rest ih => rw [bind_leave, bind_leave, bind_leave, ih]
  | ask q resume ih =>
    rw [bind_ask, bind_ask, bind_ask]
    congr 1
    funext answer
    exact ih answer

instance : LawfulMonad Dialogue :=
  LawfulMonad.mk' Dialogue (fun d => bind_pure_self d) (fun _ _ => rfl) bind_bind

/-- Makes a note. -/
def remark (n : Note) : Dialogue Unit := .note n (.done ())

/-- Asks a query, for its answer. -/
def query (q : Query) : Dialogue Answer := .ask q .done

/-- Carries a dialogue out in a scope of its own, which is closed at the end. -/
def within (operation : String) (d : Dialogue α) : Dialogue α :=
  .enter operation (d >>= fun a => .leave (.done a))

end Dialogue

/-- A dialogue that can fail. -/
abbrev Action := ExceptT Fault Dialogue

namespace Action

/-- Asks a query; a fault in the answer is the action's own. -/
def query (q : Query) : Action Payload := ExceptT.mk (Dialogue.query q)

/-- Runs an action and takes what it ends with, fault or not, as the value. -/
def observe {α : Type} (action : Action α) : Action (Except Fault α) :=
  ExceptT.lift action.run

/-- Makes a note on a fault, in the words that the log has for it. Where it raises another fault
instead, so does the action. -/
def report (log : Log) (level : Level) (e : Fault) (note : String → Note) : Action Unit :=
  match log.wording level e with
  | .ok words => ExceptT.lift (Dialogue.remark (note words))
  | .error instead => throw instead

/-- Calls a value, which is a fault unless it is a function. -/
def call (f argument : Payload) : Action Payload :=
  match f with
  | .function f => query (.call f argument)
  | other => throw (.notCallable other.typeName)

/-- Calls a value and waits for its answer, whatever is at hand when it has been called. -/
def await (f argument : Payload) : Action Payload :=
  match f with
  | .function f =>
    ExceptT.mk (Dialogue.query (.begin f argument) >>= fun _ => Dialogue.query (.await f argument))
  | other => throw (.notCallable other.typeName)

end Action

end Intake
