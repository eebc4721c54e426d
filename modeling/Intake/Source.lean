/-!
Where a field comes from. A request has four sections; besides them, a specifier can ask for the
principal that the request is authorized as.
-/

namespace Intake

/-- A section of a request. -/
inductive Section where
  | body
  | headers
  | params
  | query
  deriving DecidableEq, Repr

/-- The name of the member that holds the section. -/
def Section.name : Section → String
  | .body => "body"
  | .headers => "headers"
  | .params => "params"
  | .query => "query"

/-- The sections, in the order in which a request is asked for them. -/
def Section.all : List Section := [.body, .headers, .params, .query]

/-- Whether a section has the name. -/
def Section.isName (name : String) : Bool :=
  Section.all.any fun s => s.name == name

/-- What a specifier asks for: the authorized principal, or a field of a section. -/
inductive Source where
  | auth
  | field (s : Section)
  deriving DecidableEq, Repr

namespace Source

/-- The name of a source. -/
def name : Source → String
  | .auth => "auth"
  | .field s => s.name

/-- The section of a source that has one. -/
def section? : Source → Option Section
  | .auth => none
  | .field s => some s

/-- The source that a specifier's first letter stands for. -/
def ofLetter? : Char → Option Source
  | 'A' => some .auth
  | 'B' => some (.field .body)
  | 'H' => some (.field .headers)
  | 'P' => some (.field .params)
  | 'Q' => some (.field .query)
  | _ => none

/-- The source of a name. -/
def ofName? (name : String) : Option Source :=
  (Source.auth :: Section.all.map .field).find? fun source => source.name == name

/-- The source that a text of one letter stands for. -/
def ofText? (s : String) : Option Source :=
  match s.toList with
  | [c] => ofLetter? c
  | _ => none

/-- The letter of a source. -/
def letter : Source → Char
  | .auth => 'A'
  | .field .body => 'B'
  | .field .headers => 'H'
  | .field .params => 'P'
  | .field .query => 'Q'

theorem ofLetter?_eq_some_iff {c : Char} {source : Source} :
    ofLetter? c = some source ↔ c = source.letter := by
  constructor
  · intro read
    unfold ofLetter? at read
    split at read <;> cases read <;> rfl
  · rintro rfl
    rcases source with _ | s
    · rfl
    · cases s <;> rfl

end Source

end Intake
