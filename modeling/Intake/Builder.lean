/-!
What is built from named arguments. A builder is given some arguments by the one who calls it, under
names of its own, and the named ones on top of them. Which names it refuses is in
`Intake.Builder.Arguments`.
-/

namespace Intake

/-- What is built from named arguments. -/
inductive Builder where
  /-- A parser, from options and overrides. -/
  | parser
  /-- A configuration, from options and overrides. -/
  | options
  /-- A configuration, from its fields. -/
  | config
  /-- An extraction, from its sections and the principal. -/
  | extraction
  /-- A request, from its sections. -/
  | request
  deriving DecidableEq, Repr

namespace Builder

/-- The name of a builder, as error messages give it. -/
def name : Builder → String
  | .parser => "RequestParser.__init__()"
  | .options => "ParserConfig.from_options()"
  | .config => "ParserConfig.__init__()"
  | .extraction => "ExtractionResult.__init__()"
  | .request => "Request.__init__()"

/-- The names of the arguments that a builder is given in any case. -/
def taken : Builder → List String
  | .parser => ["self", "options"]
  | .options => ["cls", "options"]
  | .config => ["self"]
  | .extraction => ["self"]
  | .request => ["self"]

end Builder

end Intake
