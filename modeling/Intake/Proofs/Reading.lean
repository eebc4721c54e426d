import Intake.Parser
import Intake.Proofs.Gathering

/-!
# Lists of specifiers, read character by character

A `Reading` says what a key asks for, as it can be seen from the key alone: its first character, a
star behind it, a question mark at its end. Nothing is compiled on the way, and no key has a say in
the reading of another. `World.verdictOf_eq` says that the verdict on a key is that of its reading,
and `gatherFrom_follows_readings` that gathering a list comes to the verdicts on the readings of its
keys.
-/

namespace Intake

/-- What a key asks for. A key that cannot be met needs a collaborator, or a mode, that is not
there. One that cannot be read is no text and has none either. -/
inductive Reading where
  | unmet (code : ErrorCode)
  | unreadable (e : Fault)
  | principal (optional : Bool)
  | unknown (key : String)
  | field (s : Section) (sanitize optional : Bool) (name : String)

namespace Reading

/-- The section of a first letter. -/
def sectionOf? : Char → Option Section
  | 'B' => some .body
  | 'H' => some .headers
  | 'P' => some .params
  | 'Q' => some .query
  | _ => none

/-- The name between the star, if there is one, and the question mark, if there is one. -/
def nameIn (rest : List Char) : List Char :=
  let unmarked := if rest.head? = some '*' then rest.tail else rest
  if rest.getLast? = some '?' then unmarked.dropLast else unmarked

/-- Reads a text by its characters. -/
def ofCharacters (config : Config) (mode : Mode) (key : String) : List Char → Reading
  | [] => .unknown key
  | 'A' :: rest =>
    if mode = .immediate then .unmet .immediateAuthorization
    else if config.canAuthorize then .principal (rest.getLast? == some '?')
    else .unmet .authorizerNotSet
  | letter :: rest =>
    if rest.head? = some '*' ∧ ¬ config.canSanitize then .unmet .sanitizerNotSet
    else
      match sectionOf? letter with
      | some s =>
        .field s (rest.head? == some '*') (rest.getLast? == some '?')
          (String.ofList (nameIn rest))
      | none => .unknown key

/-- Reads a key. What is no text asks for nothing that there is, and is told by its text; where it
has none, asking for it is a fault. -/
def ofKey (config : Config) (mode : Mode) : Payload → Reading
  | .text key => ofCharacters config mode key key.toList
  | other =>
    match other.asText with
    | .ok text => .unknown text
    | .error e => .unreadable e

/-- The name under which a field is looked up in its section. -/
def lookupName (s : Section) (name : String) : String :=
  if s = .headers then Text.lower name else name

/-- What a reading comes to in a world. -/
def verdict (world : World) (scope : Option Scope) (config : Config) : Reading → Verdict
  | .unmet code => .stopped (.fatal code)
  | .unreadable e => .stopped (.fault e)
  | .principal optional => .demanded optional
  | .unknown key => .refused (.unknownSource key)
  | .field s sanitize optional name =>
    match world.fieldValue scope config s (lookupName s name) sanitize optional with
    | .error e => .stopped (.fault e)
    | .ok (some value) => .stored s name value
    | .ok none => .refused (.missing s name)

/-- The calls that a reading makes. -/
def calls (world : World) (config : Config) : Reading → List (FunctionRef × Payload)
  | .field s sanitize _ name => world.fieldCalls config s (lookupName s name) sanitize
  | _ => []

end Reading

/-! ## Compiling agrees with reading -/

namespace Specifier

theorem splitStar_eq (rest : List Char) :
    splitStar rest =
      (rest.head? == some '*', if rest.head? = some '*' then rest.tail else rest) := by
  cases rest with
  | nil => rfl
  | cons c s =>
    by_cases star : c = '*'
    · subst star
      rfl
    · have other : splitStar (c :: s) = (false, c :: s) := by
        unfold splitStar
        split
        · next same => exact absurd (List.cons.inj same).1 star
        · rfl
      simp [other, star]

/-- A question mark at the end is found behind a star as well as without looking for one. -/
theorem splitQuestion_splitStar (rest : List Char) :
    splitQuestion (splitStar rest).2 = (rest.getLast? == some '?', Reading.nameIn rest) := by
  have last : (splitStar rest).2.getLast? = some '?' ↔ rest.getLast? = some '?' := by
    rw [splitStar_eq]
    by_cases star : rest.head? = some '*'
    · obtain ⟨s, rfl⟩ := List.head?_eq_some_iff.1 star
      cases s with
      | nil => simp
      | cons c s => simp
    · simp [star]
  unfold splitQuestion Reading.nameIn
  by_cases question : rest.getLast? = some '?'
  · rw [if_pos (last.2 question), if_pos question, splitStar_eq]
    simp [question]
  · rw [if_neg fun found => question (last.1 found), if_neg question, splitStar_eq]
    simp [question]

/-- A text that asks for the principal has nothing but its question mark read. -/
theorem ofText_principal {canSanitize : Bool} {key : String} {rest : List Char}
    (letters : key.toList = 'A' :: rest) :
    ofText canSanitize key =
      .ok ⟨key, some .auth, false, rest.getLast? == some '?',
        String.ofList (splitQuestion rest).2⟩ := by
  have optional : (splitQuestion rest).1 = (rest.getLast? == some '?') := by
    unfold splitQuestion
    by_cases question : rest.getLast? = some '?' <;> simp [question]
  simp only [ofText, letters, List.tail_cons, sourceOf, Source.ofLetter?, if_true, optional]

/-- Any other text is rejected for a star that no sanitizer is there for, and read otherwise. -/
theorem ofText_other {canSanitize : Bool} {key : String} {letter : Char} {rest : List Char}
    (letters : key.toList = letter :: rest) (other : letter ≠ 'A') :
    ofText canSanitize key =
      if rest.head? = some '*' ∧ ¬ canSanitize then .error (sanitizerNotSet key)
      else
        .ok ⟨key, Source.ofLetter? letter, rest.head? == some '*', rest.getLast? == some '?',
          String.ofList (Reading.nameIn rest)⟩ := by
  have source : Source.ofLetter? letter ≠ some .auth := fun read =>
    other (Source.ofLetter?_eq_some_iff.1 read)
  have star : (splitStar rest).1 = (rest.head? == some '*') := by rw [splitStar_eq]
  simp only [ofText, letters, List.tail_cons, sourceOf, if_neg source, star,
    splitQuestion_splitStar]
  by_cases lacking : rest.head? = some '*' ∧ ¬ canSanitize
  · simp [lacking]
  · rw [if_neg lacking, if_neg (by simpa using lacking)]

theorem ofText_empty {canSanitize : Bool} {key : String} (letters : key.toList = []) :
    ofText canSanitize key = .ok ⟨key, none, false, false, ""⟩ := by
  simp [ofText, letters, sourceOf, splitStar, splitQuestion]

/-- A text compiles to what it reads as. -/
theorem compile_text_eq_ok_iff {canSanitize : Bool} {key : String} {spec : Specifier} :
    compile canSanitize (.text key) = .ok spec ↔ ofText canSanitize key = .ok spec := by
  rw [compile]
  cases ofText canSanitize key <;> simp [Except.mapError]

/-- A text that is rejected does not compile. -/
theorem compile_text_eq_error_iff {canSanitize : Bool} {key : String} {e : Fault} :
    compile canSanitize (.text key) = .error e ↔
      ∃ r, ofText canSanitize key = .error r ∧ e = .rejection r := by
  rw [compile]
  cases ofText canSanitize key <;> simp [Except.mapError, eq_comm]

/-- What is no text is read for the text that it has. -/
theorem compile_of_untextual (canSanitize : Bool) {key : Payload}
    (untextual : ∀ text, key ≠ .text text) :
    compile canSanitize key = sourceless <$> key.asText := by
  cases key with
  | text s => exact absurd rfl (untextual s)
  | _ => rfl

/-- A text cannot be read if it is rejected, and anything else if it has no text. -/
theorem compile_eq_error {canSanitize : Bool} {key : Payload} {e : Fault}
    (unread : compile canSanitize key = .error e) :
    (∃ s r, key = .text s ∧ e = .rejection r) ∨
      (key.asText = .error e ∧ e = .tooManyDigits) := by
  by_cases textual : ∃ s, key = .text s
  · obtain ⟨s, rfl⟩ := textual
    obtain ⟨r, -, rfl⟩ := compile_text_eq_error_iff.1 unread
    exact .inl ⟨s, r, rfl, rfl⟩
  · rw [compile_of_untextual canSanitize fun s same => textual ⟨s, same⟩] at unread
    have untold := Payload.error_of_map unread
    exact .inr ⟨untold, Payload.asText_eq_error untold⟩

end Specifier

namespace Reading

theorem ofLetter?_eq_sectionOf? {letter : Char} (other : letter ≠ 'A') :
    Source.ofLetter? letter = (sectionOf? letter).map .field := by
  unfold Source.ofLetter? sectionOf?
  split
  · exact absurd rfl other
  · rfl
  · rfl
  · rfl
  · rfl
  · simp [*]

theorem lookupName_eq (spec : Specifier) {s : Section} (source : spec.source = some (.field s)) :
    spec.lookupName = lookupName s spec.fieldName := by
  rw [Specifier.lookupName, lookupName, source]
  simp

/-- The reading of a specifier that has been compiled. -/
def ofSpecifier (config : Config) (mode : Mode) (spec : Specifier) : Reading :=
  match spec.source with
  | none => .unknown spec.raw
  | some .auth =>
    if mode = .immediate then .unmet .immediateAuthorization
    else if config.canAuthorize then .principal spec.optional
    else .unmet .authorizerNotSet
  | some (.field s) => .field s spec.sanitize spec.optional spec.fieldName

theorem ofCharacters_other (config : Config) (mode : Mode) (key : String) {letter : Char}
    (other : letter ≠ 'A') (rest : List Char) :
    ofCharacters config mode key (letter :: rest) =
      if rest.head? = some '*' ∧ ¬ config.canSanitize then .unmet .sanitizerNotSet
      else
        match sectionOf? letter with
        | some s =>
          .field s (rest.head? == some '*') (rest.getLast? == some '?')
            (String.ofList (nameIn rest))
        | none => .unknown key := by
  unfold ofCharacters
  split
  · next same => cases same
  · next same => exact absurd (List.cons.inj same).1 other
  · next same => cases same; rfl

theorem ofCharacters_eq_ofSpecifier (config : Config) (mode : Mode) (key : String) :
    ofCharacters config mode key key.toList =
      match Specifier.ofText config.canSanitize key with
      | .ok spec => ofSpecifier config mode spec
      | .error _ => .unmet .sanitizerNotSet := by
  cases letters : key.toList with
  | nil => rw [Specifier.ofText_empty letters]; rfl
  | cons letter rest =>
    by_cases principal : letter = 'A'
    · subst principal
      rw [Specifier.ofText_principal letters]
      rfl
    · rw [ofCharacters_other config mode key principal,
        Specifier.ofText_other letters principal]
      by_cases lacking : rest.head? = some '*' ∧ ¬ config.canSanitize
      · rw [if_pos lacking, if_pos lacking]
      · rw [if_neg lacking, if_neg lacking]
        simp only [ofSpecifier, ofLetter?_eq_sectionOf? principal]
        cases sectionOf? letter <;> rfl

/-- The reading of a key that cannot be compiled. -/
def ofFault : Fault → Reading
  | .rejection _ => .unmet .sanitizerNotSet
  | e => .unreadable e

theorem verdict_ofFault (world : World) (scope : Option Scope) (config : Config) (e : Fault) :
    (ofFault e).verdict world scope config = .stopped (.unreadable e) := by
  cases e <;> rfl

/-- Reading a key by its characters and compiling it agree. -/
theorem ofKey_eq_ofSpecifier (config : Config) (mode : Mode) (key : Payload) :
    ofKey config mode key =
      match Specifier.compile config.canSanitize key with
      | .ok spec => ofSpecifier config mode spec
      | .error e => ofFault e := by
  cases key with
  | text key =>
    rw [ofKey, ofCharacters_eq_ofSpecifier, Specifier.compile]
    cases Specifier.ofText config.canSanitize key <;> rfl
  | _ =>
    rw [ofKey, Specifier.compile]
    · split
      · next told => rw [told]; rfl
      · next untold => rw [untold, Payload.asText_eq_error untold]; rfl
    all_goals simp

end Reading

/-! ## Verdicts and calls -/

variable (world : World) (scope : Option Scope) (config : Config) (mode : Mode)

theorem World.verdict_eq (spec : Specifier) :
    world.verdict scope config mode spec =
      (Reading.ofSpecifier config mode spec).verdict world scope config := by
  unfold World.verdict Reading.ofSpecifier
  cases source : spec.source with
  | none => rfl
  | some origin =>
    cases origin with
    | auth => cases mode <;> cases config.canAuthorize <;> rfl
    | field s => rw [Reading.lookupName_eq spec source]; rfl

/-- The verdict on a key is the verdict on what its characters say. -/
theorem World.verdictOf_eq (key : Payload) :
    world.verdictOf scope config mode key =
      (Reading.ofKey config mode key).verdict world scope config := by
  rw [Reading.ofKey_eq_ofSpecifier, World.verdictOf]
  cases Specifier.compile config.canSanitize key with
  | ok spec => exact world.verdict_eq scope config mode spec
  | error e => exact (Reading.verdict_ofFault world scope config e).symm

/-- Only a demand of the principal comes to a demand. -/
theorem Reading.eq_principal_of_demand? {world : World} {scope : Option Scope} {config : Config}
    {reading : Reading} {optional : Bool}
    (asks : (reading.verdict world scope config).demand? = some optional) :
    reading = .principal optional := by
  cases reading with
  | unmet code => cases asks
  | unreadable e => cases asks
  | principal other => cases asks; rfl
  | unknown key => cases asks
  | field s sanitize optional name =>
    simp only [verdict] at asks
    cases value : world.fieldValue scope config s (lookupName s name) sanitize optional with
    | error e => rw [value] at asks; cases asks
    | ok found => rw [value] at asks; cases found <;> cases asks

theorem elements?_of_sequence? {needed : Payload} {keys : List Payload}
    (listed : needed.sequence? = some keys) : needed.elements? = some keys := by
  cases needed with
  | list items => exact listed
  | tuple items => exact listed
  | _ => cases listed

/-- A host whose functions wrap what they are given. -/
def wrappingHost : Host where
  collaborators :=
    ⟨fun _ _ argument => .ok (.record [("wrapped", argument)]), fun _ => 0, fun _ e => e.message⟩
  environment := .unset
  clock := ⟨0, ""⟩

def sampleRequest : Request :=
  .ofMembers [("body", .ok (.record [("a", .text "x"), ("b", .null)])),
    ("headers", .ok (.record [("lang", .text "de")]))]

/-- A configuration with all collaborators, which always asks for the language. -/
def sampleConfig : Config where
  sanitizer := .function ⟨"clean", 0, false⟩
  alwaysParsed := [.text "HLang"]
  authorizer := .function ⟨"find", 1, true⟩
  unsanitizedKinds := Config.defaultUnsanitizedKinds
  grammarSwitch := .bool true

end Intake
