import Intake.Fault
import Intake.RequestId

/-!
What a parse leaves in the log. Work for one request happens in a scope, which gives the request an
id and names the operation; what is noted in a scope is recorded under it.

A note on a fault tells what the fault says. It is the log that puts that into words, and where it
cannot, making the note fails.
-/

namespace Intake

/-- A scope: the id of the request that is worked on, and the operation. -/
structure Scope where
  id : String
  operation : Option String
  deriving DecidableEq, Repr

/-- The scope that is opened now. An id that is not given, or empty, is made from the clock. -/
def Scope.opening (clock : Clock) (id operation : Option String) : Scope :=
  ⟨match id with
    | some given => if given.isEmpty then clock.requestId else given
    | none => clock.requestId,
    operation⟩

/-- How much attention a note asks for. -/
inductive Level where
  | debug
  | warning
  deriving DecidableEq, Repr

/-- The name of a level. -/
def Level.name : Level → String
  | .debug => "DEBUG"
  | .warning => "WARNING"

/-- Something to be noted, with the fault that it is about. -/
structure Note where
  level : Level
  message : String
  fault : Option Fault
  deriving Repr

/-- A note for debugging. -/
def Note.debug (message : String) : Note := ⟨.debug, message, none⟩

/-- How the log is kept: whether specifiers are traced, and how a fault is put into words on a
level, which can raise another one. -/
structure Log where
  tracing : Bool
  wording : Level → Fault → Except Fault String

/-- A note as it stands in the log, under the scope that it was made in. -/
structure Record where
  note : Note
  scope : Option Scope
  deriving Repr

end Intake
