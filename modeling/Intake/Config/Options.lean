import Intake.Config
import Intake.Journal

/-!
Configurations from options. Options come in two batches, of which the second overrides the first,
and each may name a field in either of its two ways; the last entry for a field counts. A value of
the wrong type never fails: the field is left at its default, and a note is made. What can fail is
the text of a kind.

`Config.ofOptions` gives the configuration together with the notes, in the order in which they are
made: options without a field first, then values that were not used.
-/

namespace Intake.Config

/-- The field that an option sets. -/
def Field.ofOption? (name : String) : Option Field :=
  Field.all.find? fun field => field.camelName == name || field.name == name

/-- The note that an option sets no field. -/
def unknownOption (name : String) : Note :=
  .debug ("Ignoring unknown parser option " ++ Text.quoted name)

/-- The options that have been gone through: under the name of each field the value that counts so
far, and a note on each option that sets none. -/
structure Merged where
  fields : Fields Payload
  notes : List Note

/-- Goes on to the next option. -/
def Merged.add (merged : Merged) (option : String × Payload) : Merged :=
  match Field.ofOption? option.1 with
  | some field => { merged with fields := merged.fields.put field.name option.2 }
  | none => { merged with notes := merged.notes ++ [unknownOption option.1] }

/-- Goes through options in order. -/
def merge (options : Fields Payload) : Merged :=
  options.foldl Merged.add ⟨[], []⟩

/-! ## Arguments

What counts for a field is turned into the argument that the configuration is built with, if it is
of any use. -/

/-- A collaborator as an option gives it: a function, or else none. -/
def collaboratorOption (field : Field) : Option Payload → Option Payload × List Note
  | none => (none, [])
  | some .null => (some .null, [])
  | some (.function f) => (some (.function f), [])
  | some _ => (some .null, [.debug (field.name ++ " is not callable, treating it as unset")])

/-- The specifiers that an option says to carry out always. -/
def alwaysParsedOption : Option Payload → Option Payload × List Note
  | none => (none, [])
  | some value =>
    match value.sequence? with
    | some items => (some (.tuple items), [])
    | none => (none, [.debug "always_parse is not a list, using no always-parsed specifiers"])

/-- The kinds that an option says never to sanitize. A kind without a text is a fault. -/
def unsanitizedKindsOption : Option Payload → Except Fault (Option Payload × List Note)
  | none => .ok (none, [])
  | some value =>
    match value.collection? with
    | some items => do
      let kinds ← kindsOf items
      return (some (.frozenSet (kinds.toList.map .text)), [])
    | none => .ok (none, [.debug "exclude_sanitize_types is not a list, using defaults"])

/-- The switch as an option gives it: whether it is on. -/
def switchOption (value : Option Payload) : Option Payload :=
  value.map fun switch => .bool switch.isTruthy

/-- Arguments under the names of their fields. -/
def arguments (chosen : Field → Option Payload) : Fields Payload :=
  Field.all.filterMap fun field => (chosen field).map fun value => (field.name, value)

/-- The configuration that options and overrides amount to, and the notes on what was not used. -/
def ofOptions (grammarDisabled : Bool) (options overrides : Fields Payload) :
    Except Fault (Config × List Note) := do
  let merged := merge (options ++ overrides)
  let given (field : Field) := merged.fields.get? field.name
  let (sanitizer, sanitizerNotes) := collaboratorOption .sanitizer (given .sanitizer)
  let (authorizer, authorizerNotes) := collaboratorOption .authorizer (given .authorizer)
  let (always, alwaysNotes) := alwaysParsedOption (given .alwaysParsed)
  let (kinds, kindNotes) ← unsanitizedKindsOption (given .unsanitizedKinds)
  let config ← ofFields? grammarDisabled <| arguments fun
    | .sanitizer => sanitizer
    | .alwaysParsed => always
    | .authorizer => authorizer
    | .unsanitizedKinds => kinds
    | .grammarSwitch => switchOption (given .grammarSwitch)
  return (config, merged.notes ++ sanitizerNotes ++ authorizerNotes ++ alwaysNotes ++ kindNotes)

end Intake.Config
