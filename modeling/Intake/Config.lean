import Intake.Builder.Arguments
import Intake.NameSet
import Intake.Payload.Walk

/-!
Configurations. A configuration holds the collaborators of a parser, the specifiers that it always
carries out, the kinds of values that it never sanitizes, and whether callers are held to the
grammar.

`Config.ofFields?` builds a configuration from fields as they are, with no check but that lists can
be walked over and kinds have a text. Building one from options is in `Intake.Config.Options`.
-/

namespace Intake

/-- A configuration. A collaborator that is not set is null, and any value can stand for the switch
that disables the grammar. -/
structure Config where
  sanitizer : Payload
  alwaysParsed : List Payload
  authorizer : Payload
  unsanitizedKinds : NameSet
  grammarSwitch : Payload

namespace Config

/-- The fields of a configuration. -/
inductive Field where
  | sanitizer
  | alwaysParsed
  | authorizer
  | unsanitizedKinds
  | grammarSwitch
  deriving DecidableEq, Repr

/-- The name of a field. -/
def Field.name : Field → String
  | .sanitizer => "sanitize_function"
  | .alwaysParsed => "always_parse"
  | .authorizer => "auth_function"
  | .unsanitizedKinds => "exclude_sanitize_types"
  | .grammarSwitch => "disable_regex"

/-- The other name of a field, which options can be given under as well. -/
def Field.camelName : Field → String
  | .sanitizer => "sanitizeFunction"
  | .alwaysParsed => "alwaysParse"
  | .authorizer => "authFunction"
  | .unsanitizedKinds => "excludeSanitizeTypes"
  | .grammarSwitch => "disableRegex"

/-- All fields. -/
def Field.all : List Field :=
  [.sanitizer, .alwaysParsed, .authorizer, .unsanitizedKinds, .grammarSwitch]

/-- The field of a name. -/
def Field.ofName? (name : String) : Option Field :=
  Field.all.find? fun field => field.name == name

/-- The kinds that are not sanitized unless a configuration decides. -/
def defaultUnsanitizedKinds : NameSet :=
  .ofList [Payload.Kind.boolean.name, Payload.Kind.number.name]

/-- The set of kinds that a list of payloads names, each by its text. -/
def kindsOf (items : List Payload) : Except Fault NameSet := do
  let names ← items.mapM Payload.asText
  return .ofList (names.map Payload.canonicalKind)

/-- The configuration that sets nothing. -/
def default (grammarDisabled : Bool) : Config where
  sanitizer := .null
  alwaysParsed := []
  authorizer := .null
  unsanitizedKinds := defaultUnsanitizedKinds
  grammarSwitch := .bool grammarDisabled

/-- Whether a sanitizer is configured. -/
def canSanitize (config : Config) : Bool := !config.sanitizer.isNull

/-- Whether an authorizer is configured. -/
def canAuthorize (config : Config) : Bool := !config.authorizer.isNull

/-- Whether callers need not keep to the grammar. -/
def grammarDisabled (config : Config) : Bool := config.grammarSwitch.isTruthy

/-- Whether a value is never passed to the sanitizer. -/
def leavesAlone (config : Config) (value : Payload) : Bool :=
  value.isNull || config.unsanitizedKinds.contains value.kind.name

/-- The configuration with the given fields, and defaults for the others. The lists are copied, the
names of kinds are made canonical, and everything else is kept as it is. Lists that cannot be walked
over, and kinds without a text, are faults. -/
def ofFields? (grammarDisabled : Bool) (fields : Fields Payload) : Except Fault Config := do
  Builder.config.check (fun name => (Field.ofName? name).isSome) fields.names
  let given (field : Field) := fields.get? field.name
  let always ← (given .alwaysParsed).elim (pure []) Payload.elements
  let kinds ← (given .unsanitizedKinds).elim (pure defaultUnsanitizedKinds) fun value =>
    value.elements >>= kindsOf
  return {
    sanitizer := (given .sanitizer).getD .null
    alwaysParsed := always
    authorizer := (given .authorizer).getD .null
    unsanitizedKinds := kinds
    grammarSwitch := (given .grammarSwitch).getD (.bool grammarDisabled) }

end Config

end Intake
