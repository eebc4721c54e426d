import Intake.Proofs.Collecting
import Intake.Proofs.Keys

/-!
# Question marks only relax

A question mark at the end of a key says that its field may be missing, or that the request may go
without a principal. `Payload.RelaxesTo` relates a key to itself and to the key with such a mark,
and the relation is carried through what becomes of a key: its reading (`Reading.RelaxesTo`), its
verdict (`Verdict.RelaxesTo`), and what a list comes to (`Gathered.RelaxesTo`).

A verdict changes in two ways only. A demand of the principal becomes an optional one; and a field
that its section lacks is stored as null where it was an error. The second cannot hide a value,
because every key of the same field finds the same lack (`Reading.null_of_lacks`). A field whose
section is absent remains an error.

`question_marks_only_relax` says what follows for gathering a list and for a parse.
-/

namespace Intake

/-! ## Keys -/

/-- A key is as it was, or it names a source and has been given the question mark that it lacked. -/
inductive Payload.RelaxesTo : Payload → Payload → Prop
  | same (key : Payload) : RelaxesTo key key
  | marked {key : String} {source : Source} (letter : key.toList.head? = some source.letter)
      (unmarked : key.toList.getLast? ≠ some '?') : RelaxesTo (.text key) (.text (key ++ "?"))

/-- The grammar admits the question mark. -/
theorem Payload.RelaxesTo.isValid {key other : Payload} (relaxed : key.RelaxesTo other)
    (valid : Specifier.isValid key = true) : Specifier.isValid other = true := by
  cases relaxed with
  | same => exact valid
  | @marked key source letter unmarked =>
    obtain ⟨parts, proper, rfl⟩ := Specifier.isValid_text_iff.1 valid
    have required : parts.optional = false := by
      rw [Specifier.Parts.toList_key] at unmarked
      cases optional : parts.optional with
      | false => rfl
      | true =>
        rw [optional, ← List.append_assoc, ← List.cons_append] at unmarked
        exact absurd List.getLast?_concat unmarked
    refine Specifier.isValid_text_iff.2 ⟨{ parts with optional := true }, proper, ?_⟩
    rw [← String.toList_inj, String.toList_append, Specifier.Parts.toList_key,
      Specifier.Parts.toList_key, required]
    simp [Specifier.question]

/-! ## Readings -/

namespace Reading

/-- A reading is as it was, or it has become optional. -/
inductive RelaxesTo : Reading → Reading → Prop
  | same (reading : Reading) : RelaxesTo reading reading
  | principal (optional : Bool) : RelaxesTo (.principal optional) (.principal true)
  | field (s : Section) (sanitize optional : Bool) (name : String) :
      RelaxesTo (.field s sanitize optional name) (.field s sanitize true name)

theorem head?_append_question (rest : List Char) :
    (rest ++ ['?']).head? = some '*' ↔ rest.head? = some '*' := by
  cases rest <;> simp

/-- A question mark is no part of the name. -/
theorem nameIn_append_question {rest : List Char} (unmarked : rest.getLast? ≠ some '?') :
    nameIn (rest ++ ['?']) = nameIn rest := by
  unfold nameIn
  rw [if_pos List.getLast?_concat, if_neg unmarked]
  by_cases star : rest.head? = some '*'
  · obtain ⟨name, rfl⟩ := List.head?_eq_some_iff.1 star
    simp
  · rw [if_neg star, if_neg (mt (head?_append_question rest).1 star), List.dropLast_concat]

variable (config : Config) (mode : Mode)

theorem relaxesTo_principal (key other : String) (rest : List Char) :
    (ofCharacters config mode key ('A' :: rest)).RelaxesTo
      (ofCharacters config mode other ('A' :: (rest ++ ['?']))) := by
  have marked : ((rest ++ ['?']).getLast? == some '?') = true := by simp
  simp only [ofCharacters, marked]
  by_cases immediate : mode = .immediate
  · simp only [if_pos immediate]
    exact .same _
  · simp only [if_neg immediate]
    by_cases able : config.canAuthorize = true
    · simp only [if_pos able]
      exact .principal _
    · simp only [if_neg able]
      exact .same _

theorem relaxesTo_field (key other : String) (s : Section) {rest : List Char}
    (unmarked : rest.getLast? ≠ some '?') :
    (ofCharacters config mode key ((Source.field s).letter :: rest)).RelaxesTo
      (ofCharacters config mode other ((Source.field s).letter :: (rest ++ ['?']))) := by
  have marked : ((rest ++ ['?']).getLast? == some '?') = true := by simp
  have star : ((rest ++ ['?']).head? == some '*') = (rest.head? == some '*') := by
    rw [Bool.eq_iff_iff, beq_iff_eq, beq_iff_eq, head?_append_question]
  simp only [ofCharacters_field, head?_append_question, star, marked,
    nameIn_append_question unmarked]
  by_cases lacking : rest.head? = some '*' ∧ ¬ config.canSanitize
  · rw [if_pos lacking, if_pos lacking]
    exact .same _
  · rw [if_neg lacking, if_neg lacking]
    exact .field _ _ _ _

theorem relaxesTo_ofKey {key other : Payload} (relaxed : key.RelaxesTo other) :
    (ofKey config mode key).RelaxesTo (ofKey config mode other) := by
  cases relaxed with
  | same => exact .same _
  | @marked key source first unmarked =>
    obtain ⟨rest, letters⟩ := List.head?_eq_some_iff.1 first
    have lettersToo : (key ++ "?").toList = source.letter :: (rest ++ ['?']) := by
      rw [String.toList_append, letters]
      rfl
    have plain : rest.getLast? ≠ some '?' := fun last =>
      unmarked (by rw [letters, List.getLast?_cons, last]; rfl)
    rw [ofKey, ofKey, letters, lettersToo]
    cases source with
    | auth => exact relaxesTo_principal config mode _ _ rest
    | field s => exact relaxesTo_field config mode _ _ s plain

end Reading

/-! ## Verdicts -/

/-- A section of the request is there, and it has nothing for a field of the name. -/
def World.lacks (world : World) (s : Section) (name : String) : Prop :=
  world.entry s (Reading.lookupName s name) = .ok (some none)

/-- Whatever is stored for a field that its section lacks is null. -/
theorem Reading.null_of_lacks {world : World} {scope : Option Scope} {config : Config}
    {reading : Reading} {s : Section} {name : String} {value : Payload}
    (lacking : world.lacks s name)
    (stored : reading.verdict world scope config = .stored s name value) : value = .null := by
  obtain ⟨sanitize, optional, rfl⟩ := eq_field_of_stored stored
  rw [verdict_of_missing lacking] at stored
  cases optional <;> cases stored
  rfl

/-- A verdict is as it was, or a demand has become optional, or an error about a field that its
section lacks has been filled in with null. -/
inductive Verdict.RelaxesTo (lacks : Section → String → Prop) : Verdict → Verdict → Prop
  | same (verdict : Verdict) : RelaxesTo lacks verdict verdict
  | demanded (optional : Bool) : RelaxesTo lacks (.demanded optional) (.demanded true)
  | filled {s : Section} {name : String} (lacking : lacks s name) :
      RelaxesTo lacks (.refused (.missing s name)) (.stored s name .null)

theorem Reading.RelaxesTo.verdict {reading other : Reading} (relaxed : reading.RelaxesTo other)
    (world : World) (scope : Option Scope) (config : Config) :
    Verdict.RelaxesTo world.lacks (reading.verdict world scope config)
      (other.verdict world scope config) := by
  cases relaxed with
  | same => exact .same _
  | principal optional => exact .demanded optional
  | field s sanitize optional name =>
    -- Being optional makes a difference only where the section is there and lacks the field.
    cases entry : world.entry s (Reading.lookupName s name) with
    | error e =>
      rw [Reading.verdict_of_unread entry, Reading.verdict_of_unread entry]
      exact .same _
    | ok there =>
      rcases there with _ | _ | value
      · rw [Reading.verdict_of_sectionless entry, Reading.verdict_of_sectionless entry]
        exact .same _
      · rw [Reading.verdict_of_missing entry, Reading.verdict_of_missing entry]
        cases optional with
        | true => exact .same _
        | false => exact .filled entry
      · rw [Reading.verdict_of_value entry, Reading.verdict_of_value entry]
        exact .same _

namespace Verdict

variable {lacks : Section → String → Prop} {verdicts others : List Verdict}
  (relaxed : List.Forall₂ (RelaxesTo lacks) verdicts others)

include relaxed

theorem stops_of_relaxed : verdicts.map stop? = others.map stop? := by
  refine map_eq_of_related (fun verdict other step => ?_) relaxed
  cases step <;> rfl

theorem errors_of_relaxed : (others.filterMap error?).Sublist (verdicts.filterMap error?) := by
  refine filterMap_sublist_of_related (fun other verdict step => ?_) relaxed.flip
  cases step with
  | same => exact .inr rfl
  | demanded => exact .inl rfl
  | filled => exact .inl rfl

/-- As many demands are made, and those that were optional still are. -/
theorem demands_of_relaxed :
    List.Forall₂ (fun optional another : Bool => optional = true → another = true)
      (verdicts.filterMap demand?) (others.filterMap demand?) := by
  refine List.rel_filterMap (fun verdict other step => ?_) relaxed
  cases step with
  | same =>
    cases demand? verdict with
    | none => exact .none
    | some optional => exact .some id
  | demanded => exact .some fun _ => rfl
  | filled => exact .none

/-- Where there are no errors, nothing is filled in. -/
theorem extraction_of_relaxed (clean : verdicts.filterMap error? = []) :
    extraction others = extraction verdicts := by
  have unfilled : ∀ verdict ∈ verdicts, error? verdict = none := List.filterMap_eq_nil_iff.1 clean
  have pairs := (List.forall₂_and_left (p := fun verdict => error? verdict = none) verdicts
    others).2 ⟨unfilled, relaxed⟩
  refine (extraction_congr fun s => filterMap_eq_of_map_eq (map_eq_of_related ?_ pairs)).symm
  rintro verdict other ⟨quiet, step⟩
  cases step with
  | same => rfl
  | demanded => rfl
  | filled => cases quiet

/-- All values that were stored under a name still are, and there are more only for a field that its
section lacks. -/
theorem values_of_relaxed (s : Section) (name : String) :
    (verdicts.filterMap (storedAt? s name)).Sublist (others.filterMap (storedAt? s name)) ∧
      (¬ lacks s name →
        verdicts.filterMap (storedAt? s name) = others.filterMap (storedAt? s name)) := by
  refine ⟨filterMap_sublist_of_related (fun verdict other step => ?_) relaxed,
    fun provided =>
      filterMap_eq_of_map_eq (map_eq_of_related (fun verdict other step => ?_) relaxed)⟩
  · cases step with
    | same => exact .inr rfl
    | demanded => exact .inl rfl
    | filled => exact .inl rfl
  · cases step with
    | same => rfl
    | demanded => rfl
    | @filled lacking field proof =>
      have elsewhere : ¬ (lacking = s ∧ field = name) := by
        rintro ⟨rfl, rfl⟩
        exact provided proof
      exact (if_neg elsewhere).symm

end Verdict

/-! ## What is gathered -/

/-- What is gathered where question marks have been added. Errors may be gone, and in their place
there is null; nothing else is there that was not there before, and what was there is there still,
with the same value. If there were no errors, the fields are the same altogether. The principal is
demanded if it was before, and optional if it was before. -/
structure Gathered.RelaxesTo (strict relaxed : Gathered) : Prop where
  errors : relaxed.errors.Sublist strict.errors
  kept : ∀ s name value, (strict.result.get s).get? name = some value →
    (relaxed.result.get s).get? name = some value
  filled : ∀ s name value, (relaxed.result.get s).get? name = some value →
    (strict.result.get s).get? name = some value ∨
      (strict.result.get s).get? name = none ∧ value = .null
  authorization : relaxed.result.authorization = strict.result.authorization
  same : strict.errors = [] → relaxed.result = strict.result
  demand : Option.Rel (fun required another => required.optional = true → another.optional = true)
    strict.demand relaxed.demand

/-- A demand that several come to is optional if it was before. -/
theorem Verdict.demandOf_of_relaxed {demands others : List Bool}
    (pairs : List.Forall₂ (fun optional another : Bool => optional = true → another = true)
      demands others) :
    Option.Rel (fun required another => required.optional = true → another.optional = true)
      (demandOf demands) (demandOf others) := by
  have any : demands.any id = true → others.any id = true := by
    induction pairs with
    | nil => exact id
    | cons first _ ih =>
      rw [List.any_cons, List.any_cons, Bool.or_eq_true, Bool.or_eq_true]
      exact Or.imp first ih
  cases pairs with
  | nil => exact .none
  | cons first rest => exact .some any

namespace Verdict

variable {lacks : Section → String → Prop} {verdicts others : List Verdict}
  (relaxed : List.Forall₂ (RelaxesTo lacks) verdicts others)
  (nulls : ∀ s name, lacks s name → ∀ value ∈ others.filterMap (storedAt? s name), value = .null)

include relaxed nulls

theorem kept_of_relaxed {s : Section} {name : String} {value : Payload}
    (found : ((extraction verdicts).get s).get? name = some value) :
    ((extraction others).get s).get? name = some value := by
  obtain ⟨more, same⟩ := values_of_relaxed relaxed s name
  rw [get?_extraction] at found ⊢
  by_cases lacking : lacks s name
  · have listed := more.mem (List.mem_of_getLast? found)
    obtain ⟨last, lastFound⟩ := Option.ne_none_iff_exists'.1
      (mt List.getLast?_eq_none_iff.1 (List.ne_nil_of_mem listed))
    rw [lastFound, nulls s name lacking _ listed,
      nulls s name lacking _ (List.mem_of_getLast? lastFound)]
  · rw [← same lacking, found]

theorem filled_of_relaxed {s : Section} {name : String} {value : Payload}
    (found : ((extraction others).get s).get? name = some value) :
    ((extraction verdicts).get s).get? name = some value ∨
      ((extraction verdicts).get s).get? name = none ∧ value = .null := by
  obtain ⟨more, same⟩ := values_of_relaxed relaxed s name
  rw [get?_extraction] at found ⊢
  by_cases lacking : lacks s name
  · have null := nulls s name lacking _ (List.mem_of_getLast? found)
    cases before : (verdicts.filterMap (storedAt? s name)).getLast? with
    | none => exact .inr ⟨rfl, null⟩
    | some old =>
      rw [null, nulls s name lacking _ (more.mem (List.mem_of_getLast? before))]
      exact .inl rfl
  · rw [same lacking, found]
    exact .inl rfl

/-- What relaxed verdicts come to is more relaxed. -/
theorem gathered_of_relaxed : (gathered verdicts).RelaxesTo (gathered others) where
  errors := errors_of_relaxed relaxed
  kept _ _ _ := kept_of_relaxed relaxed nulls
  filled _ _ _ := filled_of_relaxed relaxed nulls
  authorization := rfl
  same := extraction_of_relaxed relaxed
  demand := demandOf_of_relaxed (demands_of_relaxed relaxed)

end Verdict

namespace World

variable (world : World) (scope : Option Scope) (config : Config) (mode : Mode)

/-- Every value that a list stores for a field that its section lacks is null. -/
theorem null_of_lacks {s : Section} {name : String} (lacking : world.lacks s name)
    (keys : List Payload) {value : Payload}
    (stored : value ∈ (keys.map (world.verdictOf scope config mode)).filterMap
      (Verdict.storedAt? s name)) : value = .null := by
  obtain ⟨key, -, here⟩ := exists_key_of_stored stored
  rw [verdictOf_eq] at here
  exact Reading.null_of_lacks lacking here

/-- A list with more question marks is stopped like the list without them, or it comes to something
more relaxed. -/
theorem gathering_of_relaxed {keys others : List Payload}
    (relaxed : List.Forall₂ Payload.RelaxesTo keys others) :
    (∃ stop, world.gathering scope config mode (config.alwaysParsed ++ keys) = .error stop ∧
        world.gathering scope config mode (config.alwaysParsed ++ others) = .error stop) ∨
      ∃ strict lenient,
        world.gathering scope config mode (config.alwaysParsed ++ keys) = .ok strict ∧
        world.gathering scope config mode (config.alwaysParsed ++ others) = .ok lenient ∧
        strict.RelaxesTo lenient := by
  have pairs := world.forall₂_verdictOf scope config mode
    (fun key other step => (Reading.relaxesTo_ofKey config mode step).verdict world scope config)
    (forall₂_joined .same config relaxed)
  rcases Verdict.outcome_of_stops (Verdict.stops_of_relaxed pairs) with stopped | ⟨ends, endsToo⟩
  · exact .inl stopped
  · exact .inr ⟨_, _, ends, endsToo, Verdict.gathered_of_relaxed pairs fun s name lacking value =>
      world.null_of_lacks scope config mode lacking _⟩

/-! ## Parses -/

variable {log : Log} {needed relaxed : Payload} {keys others : List Payload} {hasRequest : Bool}

theorem checkCall_of_relaxed (listed : relaxed.sequence? = some others)
    (marked : List.Forall₂ Payload.RelaxesTo keys others)
    (checked : checkCall config hasRequest needed = .ok keys) :
    checkCall config hasRequest relaxed = .ok others := by
  obtain ⟨-, present, something, regular⟩ := checkCall_eq_ok_iff.1 checked
  refine checkCall_eq_ok_iff.2 ⟨listed, present, ?_, regular.imp id fun valid => ?_⟩
  · intro nothing
    obtain ⟨always, none⟩ := List.append_eq_nil_iff.1 nothing
    rw [none, List.forall₂_nil_right_iff] at marked
    exact something (List.append_eq_nil_iff.2 ⟨always, marked⟩)
  · have pairs := (List.forall₂_and_left (p := fun key => Specifier.isValid key = true) keys
      others).2 ⟨valid, marked⟩
    have admitted := (List.forall₂_and_left (p := fun key => Specifier.isValid key = true) others
      keys).1 (pairs.flip.imp fun other key found => ⟨found.2.isValid found.1, trivial⟩)
    exact admitted.1

/-- A principal that is found is found as well where there need not be one. -/
theorem principal_of_relaxed {required another : Bool} {principal : Payload}
    (stays : required = true → another = true)
    (found : world.principal scope config log required = .ok principal) :
    world.principal scope config log another = .ok principal := by
  unfold World.principal at found ⊢
  cases read : world.sectionPayload .headers with
  | error e => rw [read] at found; cases found
  | ok headers =>
    rw [read] at found
    dsimp only at found ⊢
    cases required with
    | true => rw [stays rfl]; exact found
    | false =>
      -- Without a question mark, what was found is somebody.
      cases answer : world.awaited scope config.authorizer (givenHeaders headers) with
      | error e => rw [answer] at found; cases found
      | ok known =>
        rw [answer] at found
        by_cases somebody : known.isTruthy = true
        · simp only [settledPrincipal, if_pos somebody] at found ⊢
          exact found
        · simp [settledPrincipal, somebody] at found

/-- What a list provides without errors, with a principal or without one, it provides as well with
more question marks. -/
theorem provided_of_relaxed {strict lenient : Gathered} {result : Extraction}
    (relaxed : strict.RelaxesTo lenient) (clean : strict.errors = [])
    (provided : world.provided scope config log strict = .ok result) :
    world.provided scope config log lenient = .ok result := by
  have same := relaxed.same clean
  have demand := relaxed.demand
  rw [provided_eq_ok_iff] at provided ⊢
  rcases provided with ⟨undemanded, rfl⟩ | ⟨required, principal, demanded, found, rfl⟩
  · rw [undemanded] at demand
    cases after : lenient.demand with
    | none => exact .inl ⟨rfl, same⟩
    | some another => rw [after] at demand; cases demand
  · rw [demanded] at demand
    cases after : lenient.demand with
    | none => rw [after] at demand; cases demand
    | some another =>
      rw [after] at demand
      cases demand with
      | some stays =>
        exact .inr ⟨another, principal, rfl, world.principal_of_relaxed scope config stays found,
          by rw [same]⟩

theorem attemptEnding_of_relaxed (listed : relaxed.sequence? = some others)
    (listedBefore : needed.sequence? = some keys)
    (marked : List.Forall₂ Payload.RelaxesTo keys others) {result : Extraction}
    (succeeds :
      world.attemptEnding scope config mode log hasRequest needed = .ok (.success result)) :
    world.attemptEnding scope config mode log hasRequest relaxed = .ok (.success result) := by
  obtain ⟨strict, checked, collected, clean, provided⟩ :=
    (attemptEnding_eq_success_iff listedBefore).1 succeeds
  rcases world.gathering_of_relaxed scope config mode marked with
    ⟨stop, stopped, -⟩ | ⟨before, lenient, ends, endsToo, relaxes⟩
  · rw [collected] at stopped
    cases stopped
  · rw [collected] at ends
    cases ends
    refine (attemptEnding_eq_success_iff listed).2 ⟨lenient,
      checkCall_of_relaxed config listed marked checked, endsToo, ?_,
      world.provided_of_relaxed scope config relaxes clean provided⟩
    have fewer := relaxes.errors
    rw [clean] at fewer
    exact List.sublist_nil.1 fewer

end World

/-- Question marks that are added to a list only relax it. If the list is stopped, by a code or by a
fault, it still is, by the same one. Otherwise it comes to something more relaxed: errors may be
gone, with null in their place, and nothing else about the fields is different. Whatever a parse
provides, at once or with waiting, it provides as well with the question marks. -/
theorem question_marks_only_relax (host : Host) (request : Request) (scopes : List Scope)
    (config : Config) (mode : Mode) {needed relaxed : Payload} {keys others : List Payload}
    (listed : needed.sequence? = some keys) (listedToo : relaxed.sequence? = some others)
    (marked : List.Forall₂ Payload.RelaxesTo keys others) :
    let strict := host.collected scopes config mode ⟨request, needed⟩
    let lenient := host.collected scopes config mode ⟨request, relaxed⟩
    (∀ stop, strict = .error stop → lenient = .error stop) ∧
      (∀ gathered, strict = .ok gathered →
        ∃ another, lenient = .ok another ∧ gathered.RelaxesTo another) ∧
      (∀ result, (host.parseNow scopes config ⟨request, needed⟩).value = .ok (.success result) →
        (host.parseNow scopes config ⟨request, relaxed⟩).value = .ok (.success result)) ∧
      ∀ callback result,
        (host.parseWaiting scopes config ⟨request, needed⟩ callback).value =
            .ok (.success result) →
          (host.parseWaiting scopes config ⟨request, relaxed⟩ callback).value =
            .ok (.success result) := by
  intro strict lenient
  have ends : strict = _ := host.collected_eq request scopes config mode listed
  have endsToo : lenient = _ := host.collected_eq request scopes config mode listedToo
  have gathered := (host.world request none).gathering_of_relaxed scopes.head? config mode marked
  have attempted : ∀ callback mode result,
      host.ending config ⟨request, needed⟩ callback mode = .ok (.success result) →
        host.ending config ⟨request, relaxed⟩ callback mode = .ok (.success result) :=
    fun callback mode result => World.attemptEnding_of_relaxed _ _ config mode listedToo listed
      marked
  rw [← ends, ← endsToo] at gathered
  refine ⟨fun stop stopped => ?_, fun found collected => ?_, fun result succeeds => ?_,
    fun callback result succeeds => ?_⟩
  · rcases gathered with ⟨other, before, after⟩ | ⟨_, _, before, -, -⟩
    · rw [stopped] at before
      cases before
      exact after
    · rw [stopped] at before
      cases before
  · rcases gathered with ⟨other, before, -⟩ | ⟨_, another, before, after, relaxes⟩
    · rw [collected] at before
      cases before
    · rw [collected] at before
      cases before
      exact ⟨another, after, relaxes⟩
  · rw [Host.parseNow_eq] at succeeds ⊢
    exact outcomeOf_eq_success_iff.2
      (attempted none .immediate result (outcomeOf_eq_success_iff.1 succeeds))
  · rw [Host.parseWaiting_eq] at succeeds ⊢
    have before := outcomeOf_eq_success_iff.1 (eq_of_told succeeds)
    have after := attempted callback .awaiting result before
    rw [before] at succeeds
    rw [after]
    exact succeeds

/-- Of two fields that are missing only the one whose section is there becomes null; and a principal
that has been found is found again where it has become optional. -/
theorem question_marks_only_relax_sample :
    let strict := [Payload.text "Bc", .text "B*a", .text "Qpage"]
    let lenient := [Payload.text "Bc?", .text "B*a?", .text "Qpage?"]
    let asked := Payload.tuple [.text "B*a", .text "A"]
    let askedOptionally := Payload.tuple [.text "B*a", .text "A?"]
    let provided : Extraction := ⟨[("a", .record [("wrapped", .text "x")])], [],
      [("Lang", .text "de")], [], .record [("wrapped", .record [("lang", .text "de")])]⟩
    (Payload.list strict).sequence? = some strict ∧
      (Payload.list lenient).sequence? = some lenient ∧
      List.Forall₂ Payload.RelaxesTo strict lenient ∧
      (∃ another, wrappingHost.collected [] sampleConfig .immediate
          ⟨sampleRequest, .list lenient⟩ = .ok another ∧
        Gathered.RelaxesTo
          ⟨⟨[("a", .record [("wrapped", .text "x")])], [], [("Lang", .text "de")], [], .null⟩,
            [.missing .body "c", .missing .query "page"], none⟩ another) ∧
      (wrappingHost.parseWaiting [] sampleConfig ⟨sampleRequest, asked⟩ none).value =
        .ok (.success provided) ∧
      (wrappingHost.parseWaiting [] sampleConfig ⟨sampleRequest, askedOptionally⟩ none).value =
        .ok (.success provided) := by
  intro strict lenient asked askedOptionally provided
  have marked : List.Forall₂ Payload.RelaxesTo strict lenient :=
    .cons (@Payload.RelaxesTo.marked "Bc" (.field .body) rfl (by decide))
      (.cons (@Payload.RelaxesTo.marked "B*a" (.field .body) rfl (by decide))
        (.cons (@Payload.RelaxesTo.marked "Qpage" (.field .query) rfl (by decide)) .nil))
  have asks : List.Forall₂ Payload.RelaxesTo [.text "B*a", .text "A"] [.text "B*a", .text "A?"] :=
    .cons (.same _) (.cons (@Payload.RelaxesTo.marked "A" .auth rfl (by decide)) .nil)
  have relaxed := question_marks_only_relax wrappingHost sampleRequest [] sampleConfig .immediate
    (rfl : (Payload.list strict).sequence? = _) (rfl : (Payload.list lenient).sequence? = _) marked
  have relaxedToo := question_marks_only_relax wrappingHost sampleRequest [] sampleConfig .awaiting
    (rfl : asked.sequence? = _) (rfl : askedOptionally.sequence? = _) asks
  exact ⟨rfl, rfl, marked, relaxed.2.1 _ rfl, rfl, relaxedToo.2.2.2 none provided rfl⟩

end Intake
