import Intake.Fault
import Intake.Payload

/-!
The text of a payload. `Payload.display` is its text inside other text, where texts are quoted and
views are marked as views; `Payload.asText` is its text standing alone, where a text is itself and a
view reads like the record that it shows.

Not every payload has a text. A number of more digits than `digitLimit` is not written down, and so
neither is anything that it stands in; asking for the text is a fault.
-/

namespace Intake.Payload

/-- Puts separated parts between two brackets. -/
def enclose (opening closing : String) (parts : List String) : String :=
  opening ++ ", ".intercalate parts ++ closing

/-- The brackets of a tuple, with the comma that tells a tuple of one item from the item. -/
def encloseTuple : List String → String
  | [only] => "(" ++ only ++ ",)"
  | parts => enclose "(" ")" parts

/-- The digits of a whole number, with its sign. -/
def displayWhole (n : Int) : Except Fault String :=
  if n.natAbs < Nat.pow 10 digitLimit then .ok (toString n) else .error .tooManyDigits

mutual

/-- The text of a payload inside other text. -/
def display : Payload → Except Fault String
  | .null => .ok "None"
  | .bool b => .ok (if b then "True" else "False")
  | .int n => displayWhole n
  | .float digits => .ok digits
  | .text s => .ok (Text.quoted s)
  | .octets data => .ok (Text.quotedOctets data)
  | .list items => enclose "[" "]" <$> displayAll items
  | .tuple items => encloseTuple <$> displayAll items
  | .set [] => .ok "set()"
  | .set items => enclose "\x7b" "\x7d" <$> displayAll items
  | .frozenSet [] => .ok "frozenset()"
  | .frozenSet items => enclose "frozenset(\x7b" "\x7d)" <$> displayAll items
  | .record fields => enclose "\x7b" "\x7d" <$> displayFields fields
  | .view fields => enclose "mappingproxy(\x7b" "\x7d)" <$> displayFields fields
  | .function f => .ok ("<function " ++ f.label ++ ">")
  | .pending f _ => .ok ("<coroutine " ++ f.label ++ ">")

/-- The texts of several payloads. -/
def displayAll : List Payload → Except Fault (List String)
  | [] => .ok []
  | item :: rest => List.cons <$> display item <*> displayAll rest

/-- The texts of several fields, each with its name. -/
def displayFields : List (String × Payload) → Except Fault (List String)
  | [] => .ok []
  | (name, value) :: rest =>
    (fun shown later => (Text.quoted name ++ ": " ++ shown) :: later) <$>
      display value <*> displayFields rest

end

/-- The text of a payload standing alone. -/
def asText : Payload → Except Fault String
  | .text s => .ok s
  | .view fields => (record fields).display
  | other => other.display

/-! ## Payloads with a text and without -/

theorem displayWhole_eq_error {n : Int} {e : Fault} (fails : displayWhole n = .error e) :
    e = .tooManyDigits := by
  by_cases short : n.natAbs < Nat.pow 10 digitLimit
  · rw [displayWhole, if_pos short] at fails
    cases fails
  · rw [displayWhole, if_neg short] at fails
    exact (Except.error.inj fails).symm

theorem error_of_map {α β : Type} {f : α → β} {found : Except Fault α} {e : Fault}
    (fails : f <$> found = .error e) : found = .error e := by
  cases found with
  | ok a => cases fails
  | error other => exact congrArg Except.error (Except.error.inj fails)

mutual

/-- There is one reason for which a payload has no text. -/
theorem display_eq_error {e : Fault} : ∀ p : Payload, display p = .error e → e = .tooManyDigits
  | .int _, fails => displayWhole_eq_error fails
  | .list items, fails => displayAll_eq_error items (error_of_map fails)
  | .tuple items, fails => displayAll_eq_error items (error_of_map fails)
  | .set (item :: rest), fails => displayAll_eq_error (item :: rest) (error_of_map fails)
  | .frozenSet (item :: rest), fails => displayAll_eq_error (item :: rest) (error_of_map fails)
  | .record fields, fails => displayFields_eq_error fields (error_of_map fails)
  | .view fields, fails => displayFields_eq_error fields (error_of_map fails)

theorem displayAll_eq_error {e : Fault} :
    ∀ items : List Payload, displayAll items = .error e → e = .tooManyDigits
  | item :: rest, fails => by
    cases shown : display item with
    | error other =>
      rw [displayAll, shown] at fails
      cases fails
      exact display_eq_error item shown
    | ok text =>
      rw [displayAll, shown] at fails
      exact displayAll_eq_error rest (error_of_map fails)

theorem displayFields_eq_error {e : Fault} :
    ∀ fields : List (String × Payload), displayFields fields = .error e → e = .tooManyDigits
  | (_, value) :: rest, fails => by
    cases shown : display value with
    | error other =>
      rw [displayFields, shown] at fails
      cases fails
      exact display_eq_error value shown
    | ok text =>
      rw [displayFields, shown] at fails
      exact displayFields_eq_error rest (error_of_map fails)

end

theorem asText_eq_error {p : Payload} {e : Fault} (fails : p.asText = .error e) :
    e = .tooManyDigits := by
  cases p with
  | text s => cases fails
  | view fields => exact display_eq_error (record fields) fails
  | _ => exact display_eq_error _ fails

/-- What has a text standing alone has one inside other text. -/
theorem exists_display_of_asText {p : Payload} {text : String} (told : p.asText = .ok text) :
    ∃ shown, p.display = .ok shown := by
  cases p with
  | text s => exact ⟨_, rfl⟩
  | view fields =>
    cases parts : displayFields fields with
    | error e => rw [asText, display, parts] at told; cases told
    | ok parts' => exact ⟨_, by rw [display, parts]; rfl⟩
  | _ => exact ⟨text, told⟩

@[simp] theorem asText_view (fields : List (String × Payload)) :
    (view fields).asText = (record fields).asText := rfl

end Intake.Payload
