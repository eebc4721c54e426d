import Intake.Proofs.Collecting

/-!
# Header names in other letter case

A header is looked up under its name in lower case, and stored, or reported missing, under its name
as it is written. `Payload.Respells` relates a key to itself, and a key that asks for a header to a
key that asks for the same header in another spelling. The verdicts on two such keys are the same
but for the spelling (`Verdict.Respells`).

What is found among the headers under a name is more than the verdict on one key: another key may
ask for the same header, and then it depends on the spellings whether they share one entry. Where no
other key does (`Config.OnlyAt`), the entry is what the key at that position stores
(`World.header_of_onlyAt`).

`header_spelling_is_irrelevant` says what follows for gathering a list.
-/

namespace Intake

/-! ## Keys -/

/-- A key is as it was, or it asks for the same header, with the same markers, in another spelling.
Whether there is a sanitizer does not matter to what a key asks for. -/
inductive Payload.Respells : Payload → Payload → Prop
  | same (key : Payload) : Respells key key
  | header {key other : String} {spec another : Specifier}
      (read : Specifier.ofText true key = .ok spec)
      (readToo : Specifier.ofText true other = .ok another)
      (header : spec.source = some (.field .headers))
      (headerToo : another.source = some (.field .headers))
      (star : another.sanitize = spec.sanitize) (question : another.optional = spec.optional)
      (name : Text.lower another.fieldName = Text.lower spec.fieldName) :
      Respells (.text key) (.text other)

/-- The header that a key asks for, as it is written. -/
def Config.headerName? (config : Config) (key : Payload) : Option String :=
  match Specifier.compile config.canSanitize key with
  | .ok spec => if spec.source = some (.field .headers) then some spec.fieldName else none
  | .error _ => none

/-- A text that can be read with a sanitizer is read alike without one, unless it has a star. -/
theorem Specifier.ofText_of_able {key : String} {spec : Specifier}
    (read : ofText true key = .ok spec) (canSanitize : Bool) :
    ofText canSanitize key =
      if spec.sanitize && !canSanitize then .error (sanitizerNotSet key) else .ok spec := by
  simp only [ofText] at read ⊢
  by_cases auth : sourceOf key.toList = some .auth
  · rw [if_pos auth] at read ⊢
    cases read
    rfl
  · rw [if_neg auth] at read ⊢
    rw [Bool.not_true, Bool.and_false, if_neg Bool.false_ne_true] at read
    cases read
    rfl

/-! ## Readings and verdicts -/

/-- A reading is as it was, or it is of the same header in another spelling. -/
inductive Reading.Respells : Reading → Reading → Prop
  | same (reading : Reading) : Respells reading reading
  | header (sanitize optional : Bool) {name another : String}
      (lower : Text.lower another = Text.lower name) :
      Respells (.field .headers sanitize optional name) (.field .headers sanitize optional another)

theorem Reading.respells_ofKey (config : Config) (mode : Mode) {key other : Payload}
    (respelled : key.Respells other) :
    (ofKey config mode key).Respells (ofKey config mode other) := by
  cases respelled with
  | same => exact .same _
  | @header key other spec another read readToo header headerToo star question name =>
    rw [ofKey_eq_ofSpecifier, ofKey_eq_ofSpecifier, Specifier.compile, Specifier.compile,
      Specifier.ofText_of_able read, Specifier.ofText_of_able readToo, star]
    by_cases lacking : (spec.sanitize && !config.canSanitize) = true
    · rw [if_pos lacking, if_pos lacking]
      exact .same _
    · rw [if_neg lacking, if_neg lacking]
      simp only [Except.mapError, ofSpecifier, header, headerToo, star, question]
      exact .header _ _ name

/-- An error is as it was, or it is about the same header in another spelling. -/
inductive FieldError.Respells : FieldError → FieldError → Prop
  | same (error : FieldError) : Respells error error
  | header {name another : String} (lower : Text.lower another = Text.lower name) :
      Respells (.missing .headers name) (.missing .headers another)

/-- A verdict is as it was, or it is about the same header in another spelling. -/
inductive Verdict.Respells : Verdict → Verdict → Prop
  | same (verdict : Verdict) : Respells verdict verdict
  | stored {name another : String} (lower : Text.lower another = Text.lower name)
      (value : Payload) : Respells (.stored .headers name value) (.stored .headers another value)
  | refused {name another : String} (lower : Text.lower another = Text.lower name) :
      Respells (.refused (.missing .headers name)) (.refused (.missing .headers another))

theorem Reading.Respells.verdict {reading other : Reading} (respelled : reading.Respells other)
    (world : World) (scope : Option Scope) (config : Config) :
    (reading.verdict world scope config).Respells (other.verdict world scope config) := by
  cases respelled with
  | same => exact .same _
  | @header sanitize optional name another lower =>
    have lookup : lookupName .headers another = lookupName .headers name := lower
    simp only [Reading.verdict, lookup]
    cases world.fieldValue scope config .headers (lookupName .headers name) sanitize optional with
    | error e => exact .same _
    | ok found =>
      cases found with
      | none => exact .refused lower
      | some value => exact .stored lower value

namespace Verdict

variable {verdicts others : List Verdict} (respelled : List.Forall₂ Respells verdicts others)

/-- The value that is stored among the headers, if one is. -/
def header? : Verdict → Option Payload
  | .stored .headers _ value => some value
  | _ => none

include respelled

/-- What does not look at the spelling of headers is not changed. -/
theorem map_of_respelled {α : Type} {f : Verdict → α}
    (stored : ∀ name another value,
      f (.stored .headers name value) = f (.stored .headers another value))
    (refused : ∀ name another,
      f (.refused (.missing .headers name)) = f (.refused (.missing .headers another))) :
    verdicts.map f = others.map f := by
  refine map_eq_of_related (fun verdict other step => ?_) respelled
  cases step with
  | same => rfl
  | stored => exact stored _ _ _
  | refused => exact refused _ _

theorem errors_of_respelled :
    List.Forall₂ FieldError.Respells (verdicts.filterMap error?) (others.filterMap error?) := by
  refine List.rel_filterMap (fun verdict other step => ?_) respelled
  cases step with
  | same =>
    cases error? verdict with
    | none => exact .none
    | some error => exact .some (.same error)
  | stored => exact .none
  | refused lower => exact .some (.header lower)

/-- The fields of the other sections are the same. -/
theorem get_of_respelled {s : Section} (other : s ≠ .headers) :
    (extraction others).get s = (extraction verdicts).get s := by
  have elsewhere : ¬ Section.headers = s := fun same => other same.symm
  have stored : ∀ name value, stored? s (.stored .headers name value) = none := fun _ _ =>
    if_neg elsewhere
  have same := map_of_respelled respelled (f := stored? s)
    (fun name another value => (stored name value).trans (stored another value).symm)
    fun _ _ => rfl
  rw [get_extraction, get_extraction, filterMap_eq_of_map_eq same]

end Verdict

/-! ## One header -/

/-- Of a list of keys, the one at a position asks for a header of a name, and no other one asks for
that header, in whatever spelling. -/
structure Config.OnlyAt (config : Config) (keys : List Payload) (position : Nat) (name : String) :
    Prop where
  here : keys[position]?.bind config.headerName? = some name
  alone : ∀ other, (keys[other]?.bind config.headerName?).map Text.lower = some (Text.lower name) →
    other = position

section OneHeader

variable {config : Config} {keys others : List Payload} {position : Nat} {name another : String}

/-- The header that a key asks for is the same, in lower case, in another spelling. -/
theorem Payload.Respells.headerName? {key other : Payload} (respelled : key.Respells other) :
    (config.headerName? key).map Text.lower = (config.headerName? other).map Text.lower := by
  cases respelled with
  | same => rfl
  | @header key other spec another read readToo header headerToo star question name =>
    simp only [Config.headerName?, Specifier.compile, Specifier.ofText_of_able read,
      Specifier.ofText_of_able readToo, star]
    by_cases lacking : (spec.sanitize && !config.canSanitize) = true
    · rw [if_pos lacking, if_pos lacking]
      rfl
    · rw [if_neg lacking, if_neg lacking]
      simp only [Except.mapError, header, headerToo, if_true, Option.map_some, name]

theorem headerName?_of_respelled (config : Config)
    (respelled : List.Forall₂ Payload.Respells keys others) (position : Nat) :
    (keys[position]?.bind config.headerName?).map Text.lower =
      (others[position]?.bind config.headerName?).map Text.lower := by
  have lowered : keys.map (fun key => (config.headerName? key).map Text.lower) =
      others.map fun key => (config.headerName? key).map Text.lower :=
    map_eq_of_related (fun _ _ step => step.headerName?) respelled
  rw [Option.map_bind, Option.map_bind]
  exact getElem?_bind_of_map_eq lowered position

theorem Config.OnlyAt.of_respelled (only : config.OnlyAt keys position name)
    (respelled : List.Forall₂ Payload.Respells keys others)
    (here : others[position]?.bind config.headerName? = some another) :
    config.OnlyAt others position another := by
  refine ⟨here, fun other found => only.alone other ?_⟩
  have lower := headerName?_of_respelled config respelled position
  rw [only.here, here, Option.map_some, Option.map_some, Option.some.injEq] at lower
  rw [headerName?_of_respelled config respelled, found, lower]

variable (world : World) (scope : Option Scope) (mode : Mode)

/-- What is stored among the headers is stored under the name that the key asks for. -/
theorem World.headerName?_of_stored {key value : Payload}
    (stored : world.verdictOf scope config mode key = .stored .headers name value) :
    config.headerName? key = some name := by
  rw [verdictOf_eq] at stored
  obtain ⟨sanitize, optional, read⟩ := Reading.eq_field_of_stored stored
  rw [Reading.ofKey_eq_ofSpecifier] at read
  unfold Config.headerName?
  cases compiled : Specifier.compile config.canSanitize key with
  | error e => rw [compiled] at read; cases e <;> cases read
  | ok spec =>
    rw [compiled] at read
    dsimp only at read ⊢
    unfold Reading.ofSpecifier at read
    rcases source : spec.source with _ | _ | s
    · rw [source] at read; cases read
    · cases mode <;> cases able : config.canAuthorize <;> simp [source, able] at read
    · rw [source] at read
      cases read
      rfl

theorem World.storedAt?_verdictOf {key : Payload} (asks : config.headerName? key = some name) :
    (world.verdictOf scope config mode key).storedAt? .headers name =
      (world.verdictOf scope config mode key).header? := by
  cases verdict : world.verdictOf scope config mode key with
  | stored s field value =>
    cases s with
    | headers =>
      have same := world.headerName?_of_stored scope mode verdict
      rw [asks] at same
      cases same
      exact if_pos ⟨rfl, rfl⟩
    | _ => rfl
  | _ => rfl

/-- Where no other key asks for a header, what is found there is what the key stores. -/
theorem World.header_of_onlyAt (only : config.OnlyAt keys position name) :
    ((Verdict.extraction (keys.map (world.verdictOf scope config mode))).get .headers).get? name =
      (keys.map (world.verdictOf scope config mode))[position]?.bind Verdict.header? := by
  have alone : ∀ other verdict,
      (keys.map (world.verdictOf scope config mode))[other]? = some verdict →
        verdict.storedAt? .headers name ≠ none → other = position := by
    intro other verdict found something
    rw [List.getElem?_map] at found
    obtain ⟨key, here, rfl⟩ := Option.map_eq_some_iff.1 found
    obtain ⟨value, stored⟩ := Option.ne_none_iff_exists'.1 something
    refine only.alone other ?_
    rw [here, Option.bind_some, world.headerName?_of_stored scope mode
      (Verdict.storedAt?_eq_some_iff.1 stored)]
    rfl
  obtain ⟨key, here, asks⟩ := Option.bind_eq_some_iff.1 only.here
  rw [Verdict.get?_extraction, filterMap_eq_of_only alone, List.getElem?_map, here,
    Option.map_some, Option.bind_some, Option.bind_some,
    world.storedAt?_verdictOf scope mode asks]
  cases Verdict.header? _ <;> rfl

end OneHeader

/-! ## What is gathered -/

/-- What is gathered where headers are spelled in another way. The fields of the other sections are
the same, and so is the demand; and the errors are the same, one by one, but for the spelling. -/
structure Gathered.Respells (first second : Gathered) : Prop where
  fields : ∀ s, s ≠ .headers → second.result.get s = first.result.get s
  authorization : second.result.authorization = first.result.authorization
  errors : List.Forall₂ FieldError.Respells first.errors second.errors
  demand : second.demand = first.demand

/-- The letter case of header names does not matter. If names of headers are spelled in another way,
with the same lower case, the list is stopped as it was, by the same code or the same fault, or it
comes to the same but for the spelling; and a header that only one key asks for has the same entry,
or none, under either spelling. -/
theorem header_spelling_is_irrelevant (host : Host) (request : Request) (scopes : List Scope)
    (config : Config) (mode : Mode) {needed respelled : Payload} {keys others : List Payload}
    (listed : needed.sequence? = some keys) (listedToo : respelled.sequence? = some others)
    (alike : List.Forall₂ Payload.Respells keys others) :
    let before := host.collected scopes config mode ⟨request, needed⟩
    let after := host.collected scopes config mode ⟨request, respelled⟩
    (∃ stop, before = .error stop ∧ after = .error stop) ∨
      ∃ first second, before = .ok first ∧ after = .ok second ∧ first.Respells second ∧
        ∀ position name another, config.OnlyAt (config.alwaysParsed ++ keys) position name →
          (config.alwaysParsed ++ others)[position]?.bind config.headerName? = some another →
          (first.result.get .headers).get? name = (second.result.get .headers).get? another := by
  intro before after
  have ends : before = _ := host.collected_eq request scopes config mode listed
  have endsToo : after = _ := host.collected_eq request scopes config mode listedToo
  rw [ends, endsToo, World.gathering, World.gathering]
  generalize host.world request none = world
  have joined := forall₂_joined .same config alike
  have pairs := world.forall₂_verdictOf scopes.head? config mode
    (fun key other step =>
      (Reading.respells_ofKey config mode step).verdict world scopes.head? config) joined
  have unspelled {α : Type} (f : Verdict → α) := Verdict.map_of_respelled pairs (f := f)
  rcases Verdict.outcome_of_stops (unspelled Verdict.stop? (fun _ _ _ => rfl) fun _ _ => rfl) with
    stopped | ⟨gathered, gatheredToo⟩
  · exact .inl stopped
  · refine .inr ⟨_, _, gathered, gatheredToo, ⟨?_, rfl, ?_, ?_⟩, ?_⟩
    · exact fun s => Verdict.get_of_respelled pairs
    · exact Verdict.errors_of_respelled pairs
    · exact congrArg Verdict.demandOf (filterMap_eq_of_map_eq
        (unspelled Verdict.demand? (fun _ _ _ => rfl) fun _ _ => rfl)).symm
    · intro position name another only here
      have first := world.header_of_onlyAt scopes.head? mode only
      have second := world.header_of_onlyAt scopes.head? mode (only.of_respelled joined here)
      have same := getElem?_bind_of_map_eq
        (unspelled Verdict.header? (fun _ _ _ => rfl) fun _ _ => rfl) position
      exact (first.trans same).trans second.symm

/-- The one header that is there is found under either spelling, and the one that is missing is
reported in the spelling that it was asked for in. -/
theorem header_spelling_is_irrelevant_sample :
    let config := { sampleConfig with alwaysParsed := [] }
    let keys := [Payload.text "H*Lang", .text "HX-Tag", .text "Qpage"]
    let others := [Payload.text "H*lANG", .text "Hx-TAG", .text "Qpage"]
    let found := Payload.record [("wrapped", .text "de")]
    let first : Gathered := ⟨⟨[], [], [("Lang", found)], [], .null⟩,
      [.missing .headers "X-Tag", .missing .query "page"], none⟩
    (Payload.list keys).sequence? = some keys ∧ (Payload.list others).sequence? = some others ∧
      List.Forall₂ Payload.Respells keys others ∧
      wrappingHost.collected [] config .awaiting ⟨sampleRequest, .list keys⟩ = .ok first ∧
      ∃ second, wrappingHost.collected [] config .awaiting ⟨sampleRequest, .list others⟩ =
          .ok second ∧
        first.Respells second ∧ (second.result.get .headers).get? "lANG" = some found := by
  intro config keys others found first
  have alike : List.Forall₂ Payload.Respells keys others :=
    .cons (.header rfl rfl rfl rfl rfl rfl (by decide))
      (.cons (.header rfl rfl rfl rfl rfl rfl (by decide)) (.cons (.same _) .nil))
  have before : wrappingHost.collected [] config .awaiting ⟨sampleRequest, .list keys⟩ =
      .ok first := rfl
  have only : config.OnlyAt keys 0 "Lang" := by
    refine ⟨rfl, fun other asks => ?_⟩
    match other, asks with
    | 0, _ => rfl
    | 1, asks => exact absurd asks (by decide)
    | 2, asks => cases asks
    | other + 3, asks => cases asks
  refine ⟨rfl, rfl, alike, before, ?_⟩
  rcases header_spelling_is_irrelevant wrappingHost sampleRequest [] config .awaiting
    (rfl : (Payload.list keys).sequence? = _) (rfl : (Payload.list others).sequence? = _) alike with
    ⟨stop, stopped, -⟩ | ⟨_, second, collected, after, respells, entries⟩
  · cases before.symm.trans stopped
  · cases before.symm.trans collected
    exact ⟨second, after, respells, (entries 0 "Lang" "lANG" only rfl).symm⟩

end Intake
