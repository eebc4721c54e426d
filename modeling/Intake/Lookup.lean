import Intake.Config
import Intake.Dialogue
import Intake.Payload.Entry
import Intake.Specifier

/-!
Looking up one field. A field is found when its section has an entry of its name, whatever the
value; a field without an entry is found, as null, when it is optional, and a field whose section is
absent never is. The sanitizer sees the values that are marked for it, except those that the
configuration leaves alone.
-/

namespace Intake

/-- The section of the request behind a source, null where there is none. What is neither a record
nor a view is no section. -/
def readSection (source : Source) : Action Payload := do
  let value ← Action.query (.member source.name)
  return if value.fields?.isSome then value else .null

/-- Passes a value to the sanitizer, if it is marked and not to be left alone. -/
def cleanValue (config : Config) (sanitize : Bool) (value : Payload) : Action Payload :=
  if sanitize && !config.leavesAlone value then Action.call config.sanitizer value else pure value

/-- What the entry of a field comes to. -/
def cleanEntry (config : Config) (sanitize optional : Bool) : Option Payload →
    Action (Option Payload)
  | none => return if optional then some .null else none
  | some value => some <$> cleanValue config sanitize value

/-- Looks up a field of a section. There is no value when the field, or its section, is missing. -/
def lookUpField (config : Config) (fields : Payload) (name : String) (sanitize optional : Bool) :
    Action (Option Payload) :=
  if fields.isNull then return none
  else do cleanEntry config sanitize optional (← ExceptT.mk (pure (fields.get? name)))

/-- Looks up the field that a specifier asks for, in the section of a source. -/
def lookUp (config : Config) (source : Source) (spec : Specifier) : Action (Option Payload) := do
  let fields ← readSection source
  lookUpField config fields spec.lookupName spec.sanitize spec.optional

/-- Resolves a specifier, which has to name a source. -/
def resolve (config : Config) (spec : Specifier) : Action (Option Payload) :=
  match spec.source with
  | some source => lookUp config source spec
  | none => throw (.noMember Payload.null.typeName "value")

end Intake
