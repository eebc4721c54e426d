import Intake.Fault

/-!
The arguments that a builder refuses: one that it has been given already, and one that it does not
know. The first of them is reported.
-/

namespace Intake.Builder

/-- The fault of giving a builder an argument of a name, if it is one. -/
def refusal? (builder : Builder) (known : String → Bool) (argument : String) : Option Fault :=
  if builder.taken.contains argument then some (.repeatedArgument builder argument)
  else if known argument then none
  else some (.unknownArgument builder argument)

/-- Checks the names of the arguments that are given to a builder. -/
def check (builder : Builder) (known : String → Bool) (arguments : List String) :
    Except Fault Unit :=
  match arguments.findSome? (builder.refusal? known) with
  | some e => .error e
  | none => .ok ()

/-- Arguments pass exactly when each of them is known and none has been given already. -/
theorem check_eq_ok_iff {builder : Builder} {known : String → Bool} {arguments : List String} :
    builder.check known arguments = .ok () ↔
      ∀ argument ∈ arguments, argument ∉ builder.taken ∧ known argument = true := by
  have passes : ∀ argument, builder.refusal? known argument = none ↔
      argument ∉ builder.taken ∧ known argument = true := by
    intro argument
    simp only [refusal?, List.contains_iff_mem]
    by_cases given : argument ∈ builder.taken
    · simp [given]
    · cases known argument <;> simp [given]
  unfold check
  constructor
  · intro accepted argument member
    split at accepted
    · cases accepted
    · next none => exact (passes argument).1 (List.findSome?_eq_none_iff.1 none argument member)
  · intro accepted
    rw [List.findSome?_eq_none_iff.2 fun argument member =>
      (passes argument).2 (accepted argument member)]

end Intake.Builder
