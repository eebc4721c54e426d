import Intake.Lookup
import Intake.Specifier.Compile

/-!
Gathering the fields that a list of specifiers asks for. The specifiers are visited in order. One
that needs a collaborator that is not configured, or an authorization that cannot be waited for,
stops the list for good, and so does a fault; a field that is missing, or a specifier without a
source, is only noted down as a field error. A specifier of the principal is noted down too, and
several of them come to one authorization.

`gather` is a fold of `visit` over the keys.
-/

namespace Intake

/-- Whether a parse answers at once or may wait. Only one that may wait can authorize. -/
inductive Mode where
  | immediate
  | awaiting
  deriving DecidableEq, Repr

/-- The operation that a parse runs as. -/
def Mode.operation : Mode → String
  | .immediate => "parse_sync"
  | .awaiting => "parse"

/-- A demand for the principal of the request. It is optional as soon as one specifier says so. -/
structure Demand where
  optional : Bool
  deriving DecidableEq, Repr

/-- A demand joined to those before it. -/
def Demand.join (optional : Bool) : Option Demand → Demand
  | none => ⟨optional⟩
  | some earlier => ⟨optional || earlier.optional⟩

/-- What has been gathered so far. -/
structure Gathered where
  result : Extraction
  errors : List FieldError
  demand : Option Demand
  deriving Repr

/-- Nothing gathered yet. -/
def Gathered.empty : Gathered := ⟨.empty, [], none⟩

/-- Why a list of specifiers was not carried out. -/
inductive Stop where
  | fatal (code : ErrorCode)
  | fault (e : Fault)
  deriving Repr

/-- A gathering action, which can be stopped. -/
abbrev Visit := ExceptT Stop Dialogue

/-- An action whose fault stops the list. -/
def Visit.ofAction {α : Type} (action : Action α) : Visit α :=
  ExceptT.mk (action.run >>= fun answer => pure (answer.mapError Stop.fault))

/-- The note that a specifier has been read. -/
def compiledNote (spec : Specifier) : Note :=
  .debug ("Compiled specifier " ++ Text.quoted spec.raw ++ " -> " ++ spec.text)

/-- Why a key that cannot be read stops a list. One that is rejected lacks a sanitizer. -/
def Stop.unreadable : Fault → Stop
  | .rejection _ => .fatal .sanitizerNotSet
  | e => .fault e

/-- Reads the next specifier. -/
def readSpecifier (config : Config) (key : Payload) : Visit Specifier :=
  match Specifier.compile config.canSanitize key with
  | .ok spec => pure spec
  | .error e => throw (.unreadable e)

/-- Carries out a specifier of the principal. -/
def visitDemand (config : Config) (mode : Mode) (gathered : Gathered) (optional : Bool) :
    Visit Gathered :=
  match mode with
  | .immediate => throw (.fatal .immediateAuthorization)
  | .awaiting =>
    if config.canAuthorize then
      pure { gathered with demand := some (.join optional gathered.demand) }
    else
      throw (.fatal .authorizerNotSet)

/-- Carries out a specifier of a field. -/
def visitField (config : Config) (gathered : Gathered) (s : Section) (spec : Specifier) :
    Visit Gathered := do
  match ← Visit.ofAction (lookUp config (.field s) spec) with
  | some value => pure { gathered with result := gathered.result.store s spec.fieldName value }
  | none => pure { gathered with errors := gathered.errors ++ [.missing s spec.fieldName] }

/-- Carries out a specifier that has been read. One without a source is a field error. -/
def carryOut (config : Config) (mode : Mode) (gathered : Gathered) (spec : Specifier) :
    Visit Gathered :=
  match spec.source with
  | some .auth => visitDemand config mode gathered spec.optional
  | some (.field s) => visitField config gathered s spec
  | none => pure { gathered with errors := gathered.errors ++ [.unknownSource spec.raw] }

/-- Notes that a specifier has been read, when tracing. -/
def trace (tracing : Bool) (spec : Specifier) : Visit Unit :=
  if tracing then ExceptT.lift (Dialogue.remark (compiledNote spec)) else pure ()

/-- Reads one specifier and carries it out. -/
def visit (config : Config) (mode : Mode) (tracing : Bool) (gathered : Gathered) (key : Payload) :
    Visit Gathered := do
  let spec ← readSpecifier config key
  trace tracing spec
  carryOut config mode gathered spec

/-- Carries out a list of specifiers. -/
def gather (config : Config) (mode : Mode) (tracing : Bool) (keys : List Payload) :
    Visit Gathered :=
  keys.foldlM (visit config mode tracing) Gathered.empty

/-- The specifiers that are always carried out, followed by the elements of a payload. -/
def joinedKeys (config : Config) (needed : Payload) : Except Fault (List Payload) :=
  match needed.elements? with
  | some keys => .ok (config.alwaysParsed ++ keys)
  | none => .error (.notJoinable needed.typeName)

/-- What asking so many times for the next specifier yields: nothing once all have been read, or one
could not be. That a payload has no elements shows when the first one is asked for. -/
def readings (config : Config) (needed : Payload) :
    Nat → Except Fault (List (Option (Except Fault Specifier)))
  | 0 => .ok []
  | count + 1 => do
    let found := Specifier.compileAll config.canSanitize (← joinedKeys config needed)
    return (List.range (count + 1)).map fun position => found[position]?

/-- Carries out the specifiers that are always carried out, and then those of a payload. -/
def gatherFrom (config : Config) (mode : Mode) (tracing : Bool) (needed : Payload) :
    Visit Gathered :=
  match joinedKeys config needed with
  | .ok keys => gather config mode tracing keys
  | .error e => throw (.fault e)

end Intake
