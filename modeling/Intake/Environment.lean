import Intake.Text.Lowercase

/-!
The environment: two variables, one of which switches the grammar of specifiers off where a
configuration leaves that open, and one of which switches debugging on.
-/

namespace Intake

/-- The environment variables that matter, where they are set. -/
structure Environment where
  disableGrammar : Option String
  debug : Option String
  deriving DecidableEq, Repr

namespace Environment

/-- An environment in which neither variable is set. -/
def unset : Environment := ⟨none, none⟩

/-- The name of the variable that switches the grammar off. -/
def disableGrammarName : String := "REQUEST_PARSER_DISABLE_REGEX"

/-- The name of the variable that switches debugging on. -/
def debugName : String := "REQUEST_PARSER_DEBUG"

/-- Sets or unsets a variable by its name. Other variables do not matter. -/
def assign (environment : Environment) (name : String) (value : Option String) : Environment :=
  if name = disableGrammarName then { environment with disableGrammar := value }
  else if name = debugName then { environment with debug := value }
  else environment

/-- Whether a variable says true, in any letter case. -/
def isOn (value : Option String) : Bool :=
  value.any fun text => Text.lower text == "true"

/-- Whether the grammar is switched off unless a configuration decides. -/
def grammarDisabled (environment : Environment) : Bool :=
  isOn environment.disableGrammar

/-- Whether debugging is switched on. -/
def debugging (environment : Environment) : Bool :=
  isOn environment.debug

end Environment

end Intake
