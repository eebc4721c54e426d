import Intake.Builder
import Intake.ErrorCode
import Intake.Text.Quoted

/-!
Faults: everything that a step of a parse can fail with.

A `Rejection` is a fault with a code of its own, under which the failure is reported. Every other
fault is reported as it is. What a fault says is computed from its cause, in `Fault.message`; there
are faults that say nothing, because asking them raises another one.
-/

namespace Intake

/-! ## Rejections -/

/-- A moment on the calendar, with its distance from universal time in minutes where known. -/
structure Timestamp where
  year : Nat
  month : Nat
  day : Nat
  hour : Nat
  minute : Nat
  second : Nat
  microsecond : Nat
  offset : Option Int
  deriving DecidableEq, Repr

/-- A number in at least `width` decimal digits. -/
def padded (width n : Nat) : String :=
  let digits := toString n
  String.ofList (List.replicate (width - digits.length) '0') ++ digits

/-- The text of an offset from universal time. -/
def offsetText (minutes : Int) : String :=
  (if minutes < 0 then "-" else "+") ++ padded 2 (minutes.natAbs / 60) ++ ":" ++
    padded 2 (minutes.natAbs % 60)

/-- The text of a moment. Microseconds are left out when there are none. -/
def Timestamp.text (t : Timestamp) : String :=
  padded 4 t.year ++ "-" ++ padded 2 t.month ++ "-" ++ padded 2 t.day ++ "T" ++
    padded 2 t.hour ++ ":" ++ padded 2 t.minute ++ ":" ++ padded 2 t.second ++
    (if t.microsecond = 0 then "" else "." ++ padded 6 t.microsecond) ++
    t.offset.elim "" offsetText

/-- The circumstances of a rejection. -/
structure Context where
  operation : Option String
  specifier : Option String
  timestamp : Option Timestamp
  deriving DecidableEq, Repr

/-- Circumstances of which nothing is known. -/
def Context.unknown : Context := ⟨none, none, none⟩

/-- Why something was rejected. -/
inductive RejectionCause where
  | general (code : String) (message : Option String) (severity : String)
  | callShape (code : String)
  | configuration (code : String)
  /-- The key is kept as the text that it has, alone and inside other text. -/
  | grammar (key shown : String)
  | noPrincipal
  deriving DecidableEq, Repr

/-- A fault that is reported under a code. -/
structure Rejection where
  cause : RejectionCause
  context : Context
  deriving DecidableEq, Repr

namespace Rejection

/-- The code that the rejection is reported under. -/
def code (r : Rejection) : String :=
  match r.cause with
  | .general code _ _ => code
  | .callShape code => code
  | .configuration code => code
  | .grammar key _ => grammarCode key
  | .noPrincipal => ErrorCode.noPrincipal.text

/-- What the rejection says. A general one without a message of its own says its code. -/
def message (r : Rejection) : String :=
  match r.cause with
  | .general code message _ =>
    match message with
    | some said => if said.isEmpty then code else said
    | none => code
  | .callShape code => "Invalid parse call: " ++ code
  | .configuration code =>
    "Parser configuration does not support this specifier: " ++ code
  | .grammar _ shown => "Specifier " ++ shown ++ " does not match the specifier grammar"
  | .noPrincipal => "Auth function returned no principal"

/-- How bad the rejection is. Calls and settings that cannot work are worse than bad data. -/
def severity (r : Rejection) : String :=
  match r.cause with
  | .general _ _ severity => severity
  | .callShape _ => "high"
  | .configuration _ => "high"
  | .grammar _ _ => "medium"
  | .noPrincipal => "medium"

/-- The class that the rejection belongs to. -/
def className (r : Rejection) : String :=
  match r.cause with
  | .general _ _ _ => "RequestParserError"
  | .callShape _ => "CallShapeError"
  | .configuration _ => "ConfigurationError"
  | .grammar _ _ => "SpecifierGrammarError"
  | .noPrincipal => "AuthorizationError"

end Rejection

/-! ## Faults -/

/-- The classes of faults that collaborators and requests raise on their own account. -/
inductive FaultClass where
  | value
  | runtime
  | lookup
  | key
  | type
  | attribute
  deriving DecidableEq, Repr

/-- The name of a class of faults. -/
def FaultClass.name : FaultClass → String
  | .value => "ValueError"
  | .runtime => "RuntimeError"
  | .lookup => "LookupError"
  | .key => "KeyError"
  | .type => "TypeError"
  | .attribute => "AttributeError"

/-- The most digits that a number is written in. -/
@[irreducible] def digitLimit : Nat := 4300

/-- What a step can fail with. -/
inductive Fault where
  /-- Raised by a collaborator or a request. -/
  | raised (cls : FaultClass) (message : Option String)
  /-- Reported under a code of its own. -/
  | rejection (r : Rejection)
  /-- Raised by the function that a required authorization depends on. -/
  | authFailure (inner : Fault)
  /-- Raised by a collaborator or a request, but what it says cannot be told: asking for it raises
  another fault. -/
  | speechless (className : String) (instead : Fault)
  /-- A number was to be written down that has more digits than are written. -/
  | tooManyDigits
  /-- A value was called that is not a function. -/
  | notCallable (typeName : String)
  /-- A value was walked over that has no elements. -/
  | notIterable (typeName : String)
  /-- A value without elements was joined to the specifiers that are always carried out. -/
  | notJoinable (typeName : String)
  /-- A member was read of a value that has no such member. -/
  | noMember (typeName member : String)
  /-- A value was asked whether it holds a name that cannot hold any. -/
  | notContainer (typeName : String)
  /-- Octets were asked whether they hold a text. -/
  | textAmongOctets
  /-- A value without entries was asked for one. -/
  | noEntries (typeName : String)
  /-- A list or a tuple was asked for an item by a name. -/
  | itemByName (typeName : String)
  /-- A text was asked for a character by a name. -/
  | characterByName
  /-- An element that was to be a name and a value has no elements. -/
  | notPair (position : Nat)
  /-- An element that was to be a name and a value has more or fewer elements. -/
  | pairLength (position length : Nat)
  /-- A value that can change was used as a name, or put into a set. -/
  | changeable (typeName : String)
  /-- Something was built with an argument that it does not have. -/
  | unknownArgument (builder : Builder) (argument : String)
  /-- Something was built with an argument that it had been given already. -/
  | repeatedArgument (builder : Builder) (argument : String)
  /-- A field of a finished configuration was assigned to. -/
  | frozenField (name : String)
  /-- A result was asked for a section that a source does not have. -/
  | noSection (sourceName : String)
  /-- There is no source of a name. -/
  | unknownSource (name : String)
  deriving Repr

namespace Fault

/-- The class that a fault belongs to. -/
def className : Fault → String
  | .raised cls _ => cls.name
  | .rejection r => r.className
  | .authFailure _ => "AuthFailure"
  | .speechless className _ => className
  | .tooManyDigits => FaultClass.value.name
  | .notCallable _ => FaultClass.type.name
  | .notIterable _ => FaultClass.type.name
  | .notJoinable _ => FaultClass.type.name
  | .noMember _ _ => FaultClass.attribute.name
  | .notContainer _ => FaultClass.type.name
  | .textAmongOctets => FaultClass.type.name
  | .noEntries _ => FaultClass.type.name
  | .itemByName _ => FaultClass.type.name
  | .characterByName => FaultClass.type.name
  | .notPair _ => FaultClass.type.name
  | .pairLength _ _ => FaultClass.value.name
  | .changeable _ => FaultClass.type.name
  | .unknownArgument _ _ => FaultClass.type.name
  | .repeatedArgument _ _ => FaultClass.type.name
  | .frozenField _ => "FrozenInstanceError"
  | .noSection _ => FaultClass.value.name
  | .unknownSource _ => FaultClass.value.name

/-- What a fault says, unless that raises another one. A key that was not found is quoted. -/
def message : Fault → Except Fault String
  | .raised .key (some key) => .ok (Text.quoted key)
  | .raised _ said => .ok (said.getD "")
  | .rejection r => .ok r.message
  | .authFailure inner => inner.message
  | .speechless _ instead => .error instead
  | .tooManyDigits =>
    .ok ("Exceeds the limit (" ++ toString digitLimit ++
      " digits) for integer string conversion; " ++
      "use sys.set_int_max_str_digits() to increase the limit")
  | .notCallable typeName => .ok ("'" ++ typeName ++ "' object is not callable")
  | .notIterable typeName => .ok ("'" ++ typeName ++ "' object is not iterable")
  | .notJoinable typeName => .ok ("Value after * must be an iterable, not " ++ typeName)
  | .noMember typeName member =>
    .ok ("'" ++ typeName ++ "' object has no attribute '" ++ member ++ "'")
  | .notContainer typeName => .ok ("argument of type '" ++ typeName ++ "' is not iterable")
  | .textAmongOctets => .ok "a bytes-like object is required, not 'str'"
  | .noEntries typeName => .ok ("'" ++ typeName ++ "' object is not subscriptable")
  | .itemByName typeName => .ok (typeName ++ " indices must be integers or slices, not str")
  | .characterByName => .ok "string indices must be integers, not 'str'"
  | .notPair position =>
    .ok ("cannot convert dictionary update sequence element #" ++ toString position ++
      " to a sequence")
  | .pairLength position length =>
    .ok ("dictionary update sequence element #" ++ toString position ++ " has length " ++
      toString length ++ "; 2 is required")
  | .changeable typeName => .ok ("unhashable type: '" ++ typeName ++ "'")
  | .unknownArgument builder argument =>
    .ok (builder.name ++ " got an unexpected keyword argument '" ++ argument ++ "'")
  | .repeatedArgument builder argument =>
    .ok (builder.name ++ " got multiple values for argument '" ++ argument ++ "'")
  | .frozenField name => .ok ("cannot assign to field " ++ Text.quoted name)
  | .noSection sourceName => .ok (sourceName ++ " has no result section")
  | .unknownSource name => .ok (Text.quoted name ++ " is not a valid Source")

/-- Whether a fault says that a member is not there; reading a member treats it as absent. -/
def isMissingMember : Fault → Bool
  | .raised .attribute _ => true
  | .speechless className _ => className == FaultClass.attribute.name
  | .noMember _ _ => true
  | _ => false

end Fault

end Intake
