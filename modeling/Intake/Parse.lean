import Intake.Authorization
import Intake.Gathering
import Intake.Specifier.Grammar

/-!
Parsing a request: the call is checked, the fields are gathered, and if every field was found and
the principal was asked for, the request is authorized. Whatever goes wrong on the way, a parse ends
with an outcome, provided that the log has words for it. A callback, which is told about the
outcome, can make it fail after that.

`checkCall` is the check of the call, `attempt` the parse as far as it can fail, `conclude` what a
fault comes to, `parse` all of it, and `parseThen` the parse with a callback.
-/

namespace Intake

/-! ## The call -/

/-- A rejection of the call itself. -/
def rejectedCall (code : ErrorCode) : Fault :=
  .rejection ⟨.callShape code.text, ⟨some "check_input", none, none⟩⟩

/-- A rejection of a key that does not keep to the grammar, or the fault that making it raises. -/
def refusedKey (key : Payload) : Fault :=
  match Specifier.refusal key none with
  | .ok rejection => .rejection rejection
  | .error e => e

/-- Checks a call: specifiers have to be listed, there has to be a request and something to parse,
and unless the grammar is disabled every listed specifier has to keep to it. The first of these that
fails is reported. The result is the list. -/
def checkCall (config : Config) (hasRequest : Bool) (needed : Payload) :
    Except Fault (List Payload) :=
  match needed.sequence? with
  | none => .error (rejectedCall .specifiersNotListed)
  | some keys =>
    if !hasRequest then .error (rejectedCall .noRequest)
    else if keys.isEmpty && config.alwaysParsed.isEmpty then
      .error (rejectedCall .nothingRequested)
    else if config.grammarDisabled then .ok keys
    else
      match keys.find? fun key => !Specifier.isValid key with
      | some key => .error (refusedKey key)
      | none => .ok keys

/-! ## The parse -/

/-- Authorizes the request if that has been asked for, and adds the principal to the result. -/
def authorizeGathered (config : Config) (log : Log) (gathered : Gathered) : Action Outcome := do
  match gathered.demand with
  | none => return .success gathered.result
  | some demand =>
    let headers ← readSection (.field .headers)
    let principal ← authorize log config.authorizer headers demand.optional
    return .success { gathered.result with authorization := principal }

/-- Goes on from what has been gathered. -/
def finishGathering (config : Config) (log : Log) : Except Stop Gathered → Action Outcome
  | .error (.fatal code) => return .ofCode code.text
  | .error (.fault e) => throw e
  | .ok gathered =>
    if gathered.errors.isEmpty then authorizeGathered config log gathered
    else return .ofFieldErrors gathered.errors

/-- A parse as far as it can fail. -/
def attempt (config : Config) (mode : Mode) (log : Log) (hasRequest : Bool) (needed : Payload) :
    Action Outcome :=
  match checkCall config hasRequest needed with
  | .error e => throw e
  | .ok keys => do
    let gathered ← ExceptT.lift (gather config mode log.tracing (config.alwaysParsed ++ keys)).run
    finishGathering config log gathered

/-- The note that a parse met with a fault that is not its own, with the words for the fault. -/
def unexpectedNote (mode : Mode) (e : Fault) (words : String) : Note :=
  ⟨.warning, "Unexpected error in operation '" ++ mode.operation ++ "': " ++ e.className ++ ": " ++
    words, some e⟩

/-- Reports a fault as it is, with a warning. Where the log has no words for it, what it raises
instead is not reported but raised. -/
def warn (mode : Mode) (log : Log) (e : Fault) : Action Outcome := do
  Action.report log .warning e (unexpectedNote mode e)
  return .failure (.fault e) []

/-- What a fault comes to. A rejection is reported by its code and a failed authorization by the
fault behind it; any other fault is unexpected. -/
def conclude (mode : Mode) (log : Log) : Fault → Action Outcome
  | .rejection r => return .ofCode r.code
  | .authFailure e => return .failure (.fault e) []
  | e => warn mode log e

/-- Parses a request, in a scope of its own. -/
def parse (config : Config) (mode : Mode) (log : Log) (hasRequest : Bool) (needed : Payload) :
    Action Outcome :=
  ExceptT.mk <| Dialogue.within mode.operation do
    match ← (attempt config mode log hasRequest needed).run with
    | .ok outcome => return .ok outcome
    | .error e => (conclude mode log e).run

/-- Tells the callback about an outcome, if there is a callback. -/
def callBack (callsBack : Bool) (outcome : Outcome) : Action Unit :=
  if callsBack then discard (Action.query (.deliver outcome.delivery)) else pure ()

/-- Parses a request, waiting where necessary, and then calls back, out of the scope of the parse. A
fault of the callback is the only one, provided that the log has words for every fault. -/
def parseThen (config : Config) (log : Log) (hasRequest callsBack : Bool) (needed : Payload) :
    Action Outcome := do
  let outcome ← parse config .awaiting log hasRequest needed
  callBack callsBack outcome
  return outcome

end Intake
