import Intake.Proofs.Collecting
import Intake.Proofs.Keys

/-!
# Stars change values only

A star behind the first letter of a key asks for the value of the field to be cleaned.
`Payload.StarsTo` relates a key to itself and to the key with such a star. The names of fields, the
errors and the demands do not depend on stars; a value does, where there is one that is not to be
left alone, and then it is what the sanitizer makes of the value in the request.

Where a field is asked for more than once it is the last key of the field that decides. What it
stores in both lists is found under the name in both results, so that the results are compared as
the verdicts are, one by one (`Verdict.values_of_starred`).

`stars_change_values_only` says what follows for gathering a list.
-/

namespace Intake

/-! ## Keys -/

/-- A key is as it was, or it names a field and has been given the star that it lacked. -/
inductive Payload.StarsTo : Payload → Payload → Prop
  | same (key : Payload) : StarsTo key key
  | starred {key : String} (s : Section) {rest : List Char}
      (letters : key.toList = (Source.field s).letter :: rest)
      (unstarred : rest.head? ≠ some '*') :
      StarsTo (.text key) (.text (String.ofList ((Source.field s).letter :: '*' :: rest)))

/-- The grammar admits the star. -/
theorem Payload.StarsTo.isValid {key other : Payload} (starred : key.StarsTo other)
    (valid : Specifier.isValid key = true) : Specifier.isValid other = true := by
  cases starred with
  | same => exact valid
  | @starred key s rest letters unstarred =>
    obtain ⟨parts, proper, rfl⟩ := Specifier.isValid_text_iff.1 valid
    rw [Specifier.Parts.toList_key] at letters
    obtain ⟨letter, rfl⟩ := List.cons.inj letters
    have plain : parts.sanitize = false := by
      cases sanitize : parts.sanitize with
      | false => rfl
      | true => rw [sanitize] at unstarred; exact absurd rfl unstarred
    refine Specifier.isValid_text_iff.2 ⟨{ parts with sanitize := true }, proper, ?_⟩
    rw [← String.toList_inj, String.toList_ofList, Specifier.Parts.toList_key, ← letter, plain]
    rfl

/-! ## Readings -/

namespace Reading

/-- A reading is as it was, or the field is to be cleaned. -/
inductive StarsTo : Reading → Reading → Prop
  | same (reading : Reading) : StarsTo reading reading
  | field (s : Section) (optional : Bool) (name : String) :
      StarsTo (.field s false optional name) (.field s true optional name)

theorem getLast?_star_cons (rest : List Char) :
    ('*' :: rest).getLast? = some '?' ↔ rest.getLast? = some '?' := by
  rw [List.getLast?_cons]
  cases rest.getLast? <;> simp

/-- A star is no part of the name. -/
theorem nameIn_star_cons {rest : List Char} (unstarred : rest.head? ≠ some '*') :
    nameIn ('*' :: rest) = nameIn rest := by
  unfold nameIn
  simp only [getLast?_star_cons, if_neg unstarred, List.head?_cons, if_true, List.tail_cons]

theorem starsTo_ofKey {config : Config} (able : config.canSanitize = true) (mode : Mode)
    {key other : Payload} (starred : key.StarsTo other) :
    (ofKey config mode key).StarsTo (ofKey config mode other) := by
  cases starred with
  | same => exact .same _
  | @starred key s rest letters unstarred =>
    have question : (('*' :: rest).getLast? == some '?') = (rest.getLast? == some '?') := by
      rw [Bool.eq_iff_iff, beq_iff_eq, beq_iff_eq, getLast?_star_cons]
    have plain : (rest.head? == some '*') = false := beq_eq_false_iff_ne.2 unstarred
    simp only [ofKey, letters, String.toList_ofList, ofCharacters_field, able, not_true, and_false,
      if_false, question, plain, nameIn_star_cons unstarred]
    exact .field _ _ _

end Reading

/-! ## Verdicts -/

/-- The request has a value for a field that is not to be left alone. -/
structure World.Exposes (world : World) (config : Config) (s : Section) (name : String)
    (raw : Payload) : Prop where
  present : world.entry s (Reading.lookupName s name) = .ok (some (some raw))
  notNull : raw.isNull = false
  notExcepted : config.unsanitizedKinds.contains raw.kind.name = false

/-- A verdict is as it was, or an exposed value is stored as it has been cleaned. -/
inductive Verdict.StarsTo (exposed : Section → String → Payload → Prop)
    (clean : Payload → Payload) : Verdict → Verdict → Prop
  | same (verdict : Verdict) : StarsTo exposed clean verdict verdict
  | cleaned {s : Section} {name : String} {raw : Payload} (found : exposed s name raw) :
      StarsTo exposed clean (.stored s name raw) (.stored s name (clean raw))

theorem Reading.StarsTo.verdict {reading other : Reading} (starred : reading.StarsTo other)
    {world : World} {config : Config} {clean : Payload → Payload}
    (cleans : world.CleansBy config clean) (scope : Option Scope) :
    Verdict.StarsTo (world.Exposes config) clean (reading.verdict world scope config)
      (other.verdict world scope config) := by
  cases starred with
  | same => exact .same _
  | field s optional name =>
    cases entry : world.entry s (Reading.lookupName s name) with
    | error e =>
      rw [Reading.verdict_of_unread entry, Reading.verdict_of_unread entry]
      exact .same _
    | ok there =>
      rcases there with _ | _ | value
      · rw [Reading.verdict_of_sectionless entry, Reading.verdict_of_sectionless entry]
        exact .same _
      · rw [Reading.verdict_of_missing entry, Reading.verdict_of_missing entry]
        exact .same _
      · rw [Reading.verdict_of_value entry, Reading.verdict_of_value entry, cleans.cleaned_eq,
          cleans.cleaned_eq]
        cases alone : config.leavesAlone value with
        | true => exact .same _
        | false =>
          obtain ⟨notNull, notExcepted⟩ := Bool.or_eq_false_iff.1 alone
          exact .cleaned ⟨entry, notNull, notExcepted⟩

namespace Verdict

variable {exposed : Section → String → Payload → Prop} {clean : Payload → Payload}
  {verdicts others : List Verdict}
  (starred : List.Forall₂ (StarsTo exposed clean) verdicts others)

include starred

/-- What does not look at stored values is not changed. -/
theorem map_of_starred {α : Type} {f : Verdict → α}
    (blind : ∀ s name value other, f (.stored s name value) = f (.stored s name other)) :
    verdicts.map f = others.map f := by
  refine map_eq_of_related (fun verdict other step => ?_) starred
  cases step with
  | same => rfl
  | cleaned => exact blind _ _ _ _

theorem names_of_starred (s : Section) :
    ((extraction others).get s).names = ((extraction verdicts).get s).names := by
  have named : (others.filterMap (stored? s)).map (fun pair => (pair.1, ())) =
      (verdicts.filterMap (stored? s)).map fun pair => (pair.1, ()) := by
    rw [List.map_filterMap, List.map_filterMap]
    refine (filterMap_eq_of_map_eq
      (map_of_starred starred fun other name value another => ?_)).symm
    by_cases inside : other = s <;> simp [stored?, inside]
  rw [get_extraction, get_extraction, Fields.names_ofPairs, named, ← Fields.names_ofPairs]

/-- What is found under a name is as it was, or it is what has become of an exposed value. -/
theorem values_of_starred (s : Section) (name : String) :
    Option.Rel (fun value cleaned => cleaned = value ∨
        ∃ raw, exposed s name raw ∧ cleaned = clean raw)
      (((extraction verdicts).get s).get? name) (((extraction others).get s).get? name) := by
  rw [get?_extraction, get?_extraction]
  refine getLast?_of_related (List.rel_filterMap (fun verdict other step => ?_) starred)
  cases step with
  | same =>
    cases storedAt? s name verdict with
    | none => exact .none
    | some value => exact .some (.inl rfl)
  | @cleaned other field raw found =>
    rw [storedAt?_stored, storedAt?_stored]
    by_cases here : other = s ∧ field = name
    · rw [if_pos here, if_pos here]
      rcases here with ⟨rfl, rfl⟩
      exact .some (.inr ⟨raw, found, rfl⟩)
    · rw [if_neg here, if_neg here]
      exact .none

/-- If cleaning changes nothing, neither do stars. -/
theorem eq_of_starred (harmless : ∀ value, clean value = value) : others = verdicts := by
  refine (List.forall₂_eq_eq_eq ▸ starred.imp fun verdict other step => ?_ : verdicts = others).symm
  cases step with
  | same => rfl
  | cleaned => rw [harmless]

end Verdict

/-! ## What is gathered -/

/-- What is gathered where stars have been added. The errors are the same, and so are the demand and
the names in every section. A value is the same, or an exposed value of the field has been
cleaned. -/
structure Gathered.StarsTo (exposed : Section → String → Payload → Prop)
    (clean : Payload → Payload) (plain starred : Gathered) : Prop where
  errors : starred.errors = plain.errors
  demand : starred.demand = plain.demand
  authorization : starred.result.authorization = plain.result.authorization
  names : ∀ s, (starred.result.get s).names = (plain.result.get s).names
  values : ∀ s name value, (starred.result.get s).get? name = some value →
    (plain.result.get s).get? name = some value ∨ ∃ raw, exposed s name raw ∧ value = clean raw

/-- What starred verdicts come to is starred. -/
theorem Verdict.gathered_of_starred {exposed : Section → String → Payload → Prop}
    {clean : Payload → Payload} {verdicts others : List Verdict}
    (starred : List.Forall₂ (StarsTo exposed clean) verdicts others) :
    (gathered verdicts).StarsTo exposed clean (gathered others) where
  errors := (filterMap_eq_of_map_eq (map_of_starred starred fun _ _ _ _ => rfl)).symm
  demand := congrArg demandOf
    (filterMap_eq_of_map_eq (map_of_starred starred fun _ _ _ _ => rfl)).symm
  authorization := rfl
  names := names_of_starred starred
  values s name value found := by
    have related := values_of_starred starred s name
    have here : ((extraction others).get s).get? name = some value := found
    rw [here] at related
    cases before : ((extraction verdicts).get s).get? name with
    | none => rw [before] at related; cases related
    | some old =>
      rw [before] at related
      cases related with
      | some related =>
        rcases related with rfl | cleaned
        · exact .inl before
        · exact .inr cleaned

/-- Stars that are added to a list change values only. The list is stopped as it was, by the same
code or the same fault, or it comes to the same errors, the same demand and the same names, with
values that have been cleaned where there is something to clean. If the sanitizer changes nothing,
neither do the stars; and the grammar admits them. -/
theorem stars_change_values_only (host : Host) (request : Request) (scopes : List Scope)
    (config : Config) (mode : Mode) {clean : Payload → Payload}
    (cleans : (host.world request none).CleansBy config clean) {needed starred : Payload}
    {keys others : List Payload} (listed : needed.sequence? = some keys)
    (listedToo : starred.sequence? = some others)
    (marked : List.Forall₂ Payload.StarsTo keys others) :
    let before := host.collected scopes config mode ⟨request, needed⟩
    let after := host.collected scopes config mode ⟨request, starred⟩
    ((∃ stop, before = .error stop ∧ after = .error stop) ∨
      ∃ plain cleaned, before = .ok plain ∧ after = .ok cleaned ∧
        plain.StarsTo ((host.world request none).Exposes config) clean cleaned) ∧
    ((∀ value, clean value = value) → after = before) ∧
    ∀ key other, Payload.StarsTo key other →
      Specifier.isValid key = true → Specifier.isValid other = true := by
  intro before after
  have ends : before = _ := host.collected_eq request scopes config mode listed
  have endsToo : after = _ := host.collected_eq request scopes config mode listedToo
  rw [ends, endsToo, World.gathering, World.gathering]
  generalize host.world request none = world at cleans ⊢
  have pairs := world.forall₂_verdictOf scopes.head? config mode
    (fun key other step =>
      (Reading.starsTo_ofKey cleans.canSanitize_eq mode step).verdict cleans scopes.head?)
    (forall₂_joined .same config marked)
  refine ⟨?_, fun harmless => ?_, fun key other step => step.isValid⟩
  · rcases Verdict.outcome_of_stops (Verdict.map_of_starred pairs fun _ _ _ _ => rfl) with
      stopped | ⟨gathered, gatheredToo⟩
    · exact .inl stopped
    · exact .inr ⟨_, _, gathered, gatheredToo, Verdict.gathered_of_starred pairs⟩
  · rw [Verdict.eq_of_starred pairs harmless]

/-- A star on the last key of a field decides, but null is left alone. -/
theorem stars_change_values_only_sample :
    let wrap := fun value => Payload.record [("wrapped", value)]
    let keys := [Payload.text "B*a", .text "Ba", .text "Bb", .text "Qpage"]
    let others := [Payload.text "B*a", .text "B*a", .text "B*b", .text "Qpage"]
    let plain : Gathered :=
      ⟨⟨[("a", .text "x"), ("b", .null)], [], [("Lang", .text "de")], [], .null⟩,
        [.missing .query "page"], none⟩
    let world := wrappingHost.world sampleRequest none
    world.CleansBy sampleConfig wrap ∧
      (Payload.list keys).sequence? = some keys ∧ (Payload.list others).sequence? = some others ∧
      List.Forall₂ Payload.StarsTo keys others ∧
      wrappingHost.collected [] sampleConfig .awaiting ⟨sampleRequest, .list keys⟩ = .ok plain ∧
      ∃ cleaned, wrappingHost.collected [] sampleConfig .awaiting
          ⟨sampleRequest, .list others⟩ = .ok cleaned ∧
        plain.StarsTo (world.Exposes sampleConfig) wrap cleaned ∧
        (cleaned.result.get .body).get? "a" = some (wrap (.text "x")) := by
  intro wrap keys others plain world
  have cleans : world.CleansBy sampleConfig wrap := fun _ _ => rfl
  have marked : List.Forall₂ Payload.StarsTo keys others :=
    .cons (.same _) (.cons (@Payload.StarsTo.starred "Ba" .body ['a'] rfl (by decide))
      (.cons (@Payload.StarsTo.starred "Bb" .body ['b'] rfl (by decide)) (.cons (.same _) .nil)))
  have before : wrappingHost.collected [] sampleConfig .awaiting ⟨sampleRequest, .list keys⟩ =
      .ok plain := rfl
  refine ⟨cleans, rfl, rfl, marked, before, ?_⟩
  obtain ⟨⟨stop, stopped, -⟩ | ⟨_, cleaned, collected, after, starred⟩, -⟩ :=
    stars_change_values_only wrappingHost sampleRequest [] sampleConfig .awaiting cleans
      (rfl : (Payload.list keys).sequence? = _) (rfl : (Payload.list others).sequence? = _) marked
  · cases before.symm.trans stopped
  · cases before.symm.trans collected
    refine ⟨cleaned, after, starred, ?_⟩
    cases after
    rfl

end Intake
