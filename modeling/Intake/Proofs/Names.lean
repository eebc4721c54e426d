import Intake.Proofs.Keys
import Intake.Proofs.Scene

/-!
# The names of a call that keeps to the grammar

An entry that keeps to the grammar is read with a source and, if that is a section, with a name that
the grammar admits (`Specifier.regular_of_isValid`). So whatever the entry is answered, carrying it
out notes down no unknown source, and it stores a value, or misses one, only under such a name.
`Gathered.Grows` says so of what has been gathered before and after: it is kept by a visit
(`Dialogue.yields_visit_grows`), and from there by any list of such entries.

The entries that are always carried out need not keep to the grammar. `Outcome.Regular` says what
their part in an outcome is, and that the rest is regular. `grammar_agrees_with_reading` is all of
it: the grammar, the parts of a key, the reading of a key, and what follows for a call that is
accepted.
-/

namespace Intake

open Specifier (IsName)

/-- A field that is missing, under a name that the grammar admits. -/
def FieldError.Regular (error : FieldError) : Prop :=
  ∃ s name, IsName name.toList ∧ error = .missing s name

/-- What has been gathered later has no other errors, and no other names, than what was gathered
earlier, except for regular ones. -/
structure Gathered.Grows (earlier later : Gathered) : Prop where
  errors : ∃ added, later.errors = earlier.errors ++ added ∧ ∀ error ∈ added, error.Regular
  names : ∀ s, ∀ name ∈ (later.result.get s).names,
    name ∈ (earlier.result.get s).names ∨ IsName name.toList

namespace Gathered.Grows

variable {earlier middle later : Gathered}

theorem refl (gathered : Gathered) : Grows gathered gathered :=
  ⟨⟨[], (List.append_nil _).symm, nofun⟩, fun _ _ found => .inl found⟩

theorem trans (first : Grows earlier middle) (second : Grows middle later) :
    Grows earlier later := by
  obtain ⟨added, errors, regular⟩ := first.errors
  obtain ⟨more, errorsToo, regularToo⟩ := second.errors
  refine ⟨⟨added ++ more, ?_, fun error listed => ?_⟩, fun s name found => ?_⟩
  · rw [errorsToo, errors, List.append_assoc]
  · exact (List.mem_append.1 listed).elim (regular error) (regularToo error)
  · exact (second.names s name found).elim (first.names s name) .inr

/-- A demand is neither an error nor a value. -/
theorem demanding (gathered : Gathered) (demand : Option Demand) :
    Grows gathered { gathered with demand := demand } :=
  ⟨(refl gathered).errors, (refl gathered).names⟩

theorem missing (gathered : Gathered) (s : Section) {name : String} (proper : IsName name.toList) :
    Grows gathered { gathered with errors := gathered.errors ++ [.missing s name] } := by
  refine ⟨⟨[.missing s name], rfl, fun error listed => ?_⟩, (refl gathered).names⟩
  exact ⟨s, name, proper, List.mem_singleton.1 listed⟩

theorem storing (gathered : Gathered) (s : Section) {name : String} (proper : IsName name.toList)
    (value : Payload) :
    Grows gathered { gathered with result := gathered.result.store s name value } := by
  refine ⟨(refl gathered).errors, fun other found listed => ?_⟩
  rw [Extraction.get_store] at listed
  by_cases same : s = other
  · subst same
    rw [if_pos rfl, Fields.names_put] at listed
    by_cases taken : name ∈ (gathered.result.get s).names
    · rw [if_pos taken] at listed
      exact .inl listed
    · rw [if_neg taken] at listed
      rcases List.mem_append.1 listed with before | last
      · exact .inl before
      · rw [List.mem_singleton.1 last]
        exact .inr proper
  · rw [if_neg same] at listed
    exact .inl listed

end Gathered.Grows

/-! ## Entries that keep to the grammar -/

/-- An entry that keeps to the grammar is read with a source, and with a regular name unless it asks
for the principal. -/
theorem Specifier.regular_of_isValid {canSanitize : Bool} {key : Payload} {spec : Specifier}
    (valid : isValid key = true) (compiled : compile canSanitize key = .ok spec) :
    spec.source = some .auth ∨
      ∃ s, spec.source = some (.field s) ∧ IsName spec.fieldName.toList := by
  obtain ⟨text, rfl⟩ := exists_text_of_isValid valid
  obtain ⟨parts, proper, rfl⟩ := isValid_text_iff.1 valid
  rw [parts.compile_key proper] at compiled
  cases source : parts.source with
  | auth =>
    rw [source, if_pos rfl] at compiled
    cases compiled
    exact .inl rfl
  | field s =>
    rw [source, if_neg Source.noConfusion] at compiled
    split at compiled
    · cases compiled
    · cases compiled
      exact .inr ⟨s, rfl, by rwa [String.toList_ofList]⟩

namespace Dialogue

variable (config : Config) (mode : Mode) (tracing : Bool)

/-- The step: an entry that keeps to the grammar adds only what is regular. -/
theorem yields_visit_grows (gathered : Gathered) {key : Payload}
    (valid : Specifier.isValid key = true) :
    Yields gathered.Grows (visit config mode tracing gathered key) := by
  have read : Yields (fun spec : Specifier => spec.source = some .auth ∨
        ∃ s, spec.source = some (.field s) ∧ IsName spec.fieldName.toList)
      (readSpecifier config key) := by
    unfold readSpecifier
    cases compiled : Specifier.compile config.canSanitize key with
    | ok spec => exact .pure (Specifier.regular_of_isValid valid compiled)
    | error rejection => exact .throw _
  unfold visit
  refine read.bind fun spec regular => .bind_any fun _ => ?_
  unfold carryOut
  rcases regular with source | ⟨s, source, proper⟩
  · rw [source]
    unfold visitDemand
    cases mode with
    | immediate => exact .throw _
    | awaiting =>
      dsimp only
      split
      · exact .pure (.demanding gathered _)
      · exact .throw _
  · rw [source]
    unfold visitField
    refine .bind_any fun found => ?_
    cases found with
    | none => exact .pure (.missing gathered s proper)
    | some value => exact .pure (.storing gathered s proper value)

/-- The run: so does a list of such entries. -/
theorem yields_foldlM_grows {keys : List Payload}
    (valid : ∀ key ∈ keys, Specifier.isValid key = true) (gathered : Gathered) :
    Yields gathered.Grows (keys.foldlM (visit config mode tracing) gathered) := by
  induction keys generalizing gathered with
  | nil => exact .pure (.refl gathered)
  | cons key rest ih =>
    rw [List.foldlM_cons]
    refine (yields_visit_grows config mode tracing gathered
      (valid key List.mem_cons_self)).bind fun next grown => ?_
    intro around scopes last ended
    have later := ih (fun other listed => valid other (List.mem_cons_of_mem key listed)) next
    exact grown.trans (later around scopes last ended)

/-- What is gathered goes back to the entries that are always carried out, except for what is
regular. -/
theorem grows_of_gather {keys : List Payload}
    (valid : ∀ key ∈ keys, Specifier.isValid key = true) {around : Surroundings}
    {scopes : List Scope} {gathered : Gathered}
    (collected : ((gather config mode tracing (config.alwaysParsed ++ keys)).run.runAmid around
      scopes).value = .ok gathered) :
    ∃ earlier : Gathered, ((gather config mode tracing config.alwaysParsed).run.runAmid around
      scopes).value = .ok earlier ∧ earlier.Grows gathered := by
  unfold gather at collected
  rw [List.foldlM_append] at collected
  exact Yields.of_bind (yields_foldlM_grows config mode tracing valid) collected

end Dialogue

/-! ## Calls that are accepted -/

/-- An outcome in which everything goes back to what the entries that are always carried out come
to, except for regular names, and for fields that are missing under such names. -/
inductive Outcome.Regular (always : Except Stop Gathered) : Outcome → Prop
  | plain (cause : Cause) : Regular always (.failure cause [])
  | incomplete {earlier : Gathered} {added : List FieldError} (carried : always = .ok earlier)
      (regular : ∀ error ∈ added, error.Regular) :
      Regular always (.ofFieldErrors (earlier.errors ++ added))
  | success {earlier : Gathered} {result : Extraction} (carried : always = .ok earlier)
      (names : ∀ s, ∀ name ∈ (result.get s).names,
        name ∈ (earlier.result.get s).names ∨ IsName name.toList) :
      Regular always (.success result)

theorem regular_of_concluded (always : Except Stop Gathered) {log : Log} {e : Fault}
    {outcome : Outcome} (ended : concluded log e = .ok outcome) : outcome.Regular always := by
  obtain ⟨cause, rfl⟩ := exists_failure_of_concluded ended
  exact .plain cause

namespace Scene

variable {scene : Scene} {scopes : List Scope} {config : Config} {needed : Payload}
  {callback : Option Callback} {mode : Mode} {keys : List Payload}

theorem regular_attempt
    (accepted : checkCall config (scene.request []).isPresent needed = .ok keys)
    (bound : config.grammarDisabled = false) {outcome : Outcome}
    (ended : outcomeOf (scene.host []).log
      (scene.attempt scopes config needed callback mode).value = .ok outcome) :
    outcome.Regular (scene.gathering scopes config callback mode config.alwaysParsed).value := by
  obtain ⟨-, -, -, regular⟩ := checkCall_eq_ok_iff.1 accepted
  have valid : ∀ key ∈ keys, Specifier.isValid key = true :=
    regular.resolve_left (by simp [bound])
  obtain ⟨finishing, course, finished⟩ := attempt_of_accepted scopes callback mode accepted
  rw [course, Course.after_value] at ended
  generalize collected : (scene.gathering scopes config callback mode
    (config.alwaysParsed ++ keys)).value = ending at finished
  have grows : ∀ gathered, ending = .ok gathered → ∃ earlier : Gathered,
      (scene.gathering scopes config callback mode config.alwaysParsed).value = .ok earlier ∧
        earlier.Grows gathered := fun gathered same =>
    Dialogue.grows_of_gather config mode _ valid (collected.trans same)
  cases finished with
  | fatal code =>
    cases ended
    exact .plain _
  | fault e => exact regular_of_concluded _ ended
  | @incomplete gathered missing =>
    cases ended
    obtain ⟨earlier, carried, grown⟩ := grows gathered rfl
    obtain ⟨added, errors, regular⟩ := grown.errors
    rw [errors]
    exact .incomplete carried regular
  | @undemanding gathered complete undemanded =>
    cases ended
    obtain ⟨earlier, carried, grown⟩ := grows gathered rfl
    exact .success carried grown.names
  | unread => exact regular_of_concluded _ ended
  | @authorized gathered demand _ answer =>
    obtain ⟨earlier, carried, grown⟩ := grows gathered rfl
    cases settled : settledPrincipal (scene.host []).log demand.optional answer with
    | error e =>
      rw [settled] at ended
      exact regular_of_concluded _ ended
    | ok principal =>
      rw [settled] at ended
      cases ended
      -- The principal stands beside the sections.
      have names : ∀ s, ({ gathered.result with authorization := principal } : Extraction).get s =
          gathered.result.get s := fun s => by cases s <;> rfl
      exact .success carried fun s name listed => grown.names s name (names s ▸ listed)

end Scene

/-- The grammar of specifiers and their reader agree. A text keeps to the grammar exactly when it is
put together from parts, of which the name is regular; there is one way to do so; and reading the
text gives the parts back, unless a star is asked of a sanitizer that is not there. Nothing but a
text keeps to the grammar. In a call that is accepted and held to the grammar, the listed entries
add no errors but fields that are missing under regular names, and no values but under such names,
whatever the collaborators and the request do. -/
theorem grammar_agrees_with_reading :
    (∀ key : String, Specifier.isValid (.text key) = true ↔
      ∃ parts : Specifier.Parts, IsName parts.name ∧ key = parts.key) ∧
    (∀ parts other : Specifier.Parts, IsName parts.name → IsName other.name →
      parts.key = other.key → parts = other) ∧
    (∀ (parts : Specifier.Parts) (canSanitize : Bool), IsName parts.name →
      Specifier.compile canSanitize (.text parts.key) =
        if parts.source = .auth then
          .ok ⟨parts.key, some .auth, false, parts.optional,
            String.ofList (Specifier.star parts.sanitize ++ parts.name)⟩
        else if parts.sanitize && !canSanitize then
          .error (.rejection (Specifier.sanitizerNotSet parts.key))
        else
          .ok ⟨parts.key, some parts.source, parts.sanitize, parts.optional,
            String.ofList parts.name⟩) ∧
    (∀ value, Specifier.isValid value = true → ∃ key, value = .text key) ∧
    ∀ (scene : Scene) (scopes : List Scope) (config : Config) (needed : Payload)
      (callback : Option Callback) (keys : List Payload),
      checkCall config (scene.request []).isPresent needed = .ok keys →
      config.grammarDisabled = false →
        (∀ mode gathered,
          (scene.gathering scopes config callback mode (config.alwaysParsed ++ keys)).value =
              .ok gathered →
            ∃ earlier : Gathered,
              (scene.gathering scopes config callback mode config.alwaysParsed).value =
                  .ok earlier ∧ earlier.Grows gathered) ∧
        (∀ outcome, (scene.parseNow scopes config needed).value = .ok outcome →
          outcome.Regular
            (scene.gathering scopes config none .immediate config.alwaysParsed).value) ∧
        ∀ outcome, (scene.parseWaiting scopes config needed callback).value = .ok outcome →
          outcome.Regular
            (scene.gathering scopes config callback .awaiting config.alwaysParsed).value := by
  refine ⟨fun key => Specifier.isValid_text_iff, fun parts other proper properToo same =>
      Specifier.Parts.eq_of_key proper properToo same, fun parts canSanitize proper =>
      parts.compile_key proper canSanitize, fun value => Specifier.exists_text_of_isValid, ?_⟩
  intro scene scopes config needed callback keys accepted bound
  obtain ⟨-, -, -, regular⟩ := checkCall_eq_ok_iff.1 accepted
  have valid : ∀ key ∈ keys, Specifier.isValid key = true :=
    regular.resolve_left (by simp [bound])
  refine ⟨fun mode gathered collected => Dialogue.grows_of_gather config mode _ valid collected,
    fun outcome ended => ?_, fun outcome ended => ?_⟩
  · rw [Scene.parseNow_eq] at ended
    exact Scene.regular_attempt accepted bound ended
  · rw [Scene.parseWaiting_eq] at ended
    exact Scene.regular_attempt accepted bound (eq_of_told ended)

/-- An entry that is always carried out is unknown, and a listed one is missing. -/
theorem grammar_agrees_with_reading_sample :
    let parts : Specifier.Parts := ⟨.field .headers, true, "lang".toList, true⟩
    let config : Config :=
      { sampleConfig with alwaysParsed := [.text "Zodd"], grammarSwitch := .bool false }
    let scene := Scene.still wrappingHost sampleRequest
    let needed := Payload.list [.text "H*lang?", .text "Qpage"]
    let always := (scene.gathering [] config none .immediate config.alwaysParsed).value
    let outcome := Outcome.ofFieldErrors [.unknownSource "Zodd", .missing .query "page"]
    IsName parts.name ∧ parts.key = "H*lang?" ∧
      Specifier.isValid (.text "H*lang?") = true ∧
      Specifier.compile true (.text "H*lang?") =
        .ok ⟨"H*lang?", some (.field .headers), true, true, "lang"⟩ ∧
      checkCall config (scene.request []).isPresent needed =
        .ok [.text "H*lang?", .text "Qpage"] ∧
      (scene.parseNow [] config needed).value = .ok outcome ∧ outcome.Regular always := by
  intro parts config scene needed always outcome
  obtain ⟨grammar, -, reading, -, call⟩ := grammar_agrees_with_reading
  have proper : IsName parts.name :=
    Specifier.isName_iff.2 ⟨by decide, List.all_eq_true.1 (by decide)⟩
  have key : parts.key = "H*lang?" := by decide
  have accepted : checkCall config (scene.request []).isPresent needed =
      .ok [.text "H*lang?", .text "Qpage"] := by rfl
  have valid := (grammar "H*lang?").2 ⟨parts, proper, key.symm⟩
  have read := reading parts true proper
  rw [key] at read
  have ended : (scene.parseNow [] config needed).value = .ok outcome := by rfl
  exact ⟨proper, key, valid, read, accepted, ended,
    (call scene [] config needed none _ accepted rfl).2.1 _ ended⟩

end Intake
