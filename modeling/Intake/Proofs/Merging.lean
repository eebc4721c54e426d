import Intake.Parser
import Intake.Proofs.Collecting
import Mathlib.Data.List.Sort

/-!
# What options come to

Options and overrides are gone through one after the other, and a field may be named in two ways and
any number of times. What they come to can be told without going through them: `Config.Field.given?`
is the last value that stands under a name of a field, `Config.Follows` says of each field of a
configuration what it is, given that value, and `Config.notesOn` lists the notes.

A description by options builds a configuration exactly when no override bears a name that is taken
and there is one that follows them, and then it builds that one, with these notes
(`Settings.build_eq_ok_iff`). There is no second one (`Config.Follows.unique`), and there is one
wherever the kinds that count have texts (`Config.kindsGiven_cases`). A kind without a text, which
is a number of too many digits or holds one, is the one thing that building from options can fail
over. `options_count_by_last_entry` is the main statement.
-/

namespace Intake

/-! ## Sets of names -/

/-- Sets with the same names are the same. -/
theorem NameSet.eq_of_mem_iff {names others : NameSet}
    (same : ∀ name, name ∈ names.toList ↔ name ∈ others.toList) : names = others := by
  have lists : names.toList = others.toList :=
    names.increasing.eq_of_mem_iff others.increasing same
  cases names
  cases others
  cases lists
  rfl

namespace Config

/-- Whether a payload in a list has a text that stands for a kind of some name. -/
def NamesKind (items : List Payload) (name : String) : Prop :=
  ∃ item ∈ items, ∃ text, item.asText = .ok text ∧ name = Payload.canonicalKind text

/-- Going through a list finds something for each item, or fails over one of them. -/
theorem mapM_cases {ε α β : Type} (f : α → Except ε β) (items : List α) :
    (∃ found, items.mapM f = .ok found ∧ (∀ item ∈ items, ∃ b, f item = .ok b) ∧
        ∀ b, b ∈ found ↔ ∃ item ∈ items, f item = .ok b) ∨
      ∃ e, items.mapM f = .error e ∧ ∃ item ∈ items, f item = .error e := by
  induction items with
  | nil => exact .inl ⟨[], rfl, nofun, by simp⟩
  | cons item rest ih =>
    rw [List.mapM_cons]
    cases here : f item with
    | error e => exact .inr ⟨e, rfl, item, List.mem_cons_self, here⟩
    | ok b =>
      rcases ih with ⟨found, later, fine, all⟩ | ⟨e, later, other, listed, fails⟩
      · refine .inl ⟨b :: found, by rw [later]; rfl, ?_, fun c => ?_⟩
        · exact List.forall_mem_cons.2 ⟨⟨b, here⟩, fine⟩
        · simp [all, here, eq_comm]
      · exact .inr ⟨e, by rw [later]; rfl, other, List.mem_cons_of_mem item listed, fails⟩

/-- The kinds that a list names are told by the texts of its items, if all of them have one. -/
theorem kindsOf_cases (items : List Payload) :
    (∃ kinds, kindsOf items = .ok kinds ∧ (∀ item ∈ items, ∃ text, item.asText = .ok text) ∧
        ∀ name, name ∈ kinds.toList ↔ NamesKind items name) ∨
      ∃ e, kindsOf items = .error e ∧ ∃ item ∈ items, item.asText = .error e := by
  rw [kindsOf]
  rcases mapM_cases Payload.asText items with ⟨names, texts, fine, all⟩ | ⟨e, fails, textless⟩
  · refine .inl ⟨_, by rw [texts]; rfl, fine, fun name => ?_⟩
    rw [NameSet.mem_toList_ofList, List.mem_map]
    apply Iff.intro
    · rintro ⟨text, listed, rfl⟩
      obtain ⟨item, inside, told⟩ := (all text).1 listed
      exact ⟨item, inside, text, told, rfl⟩
    · rintro ⟨item, inside, text, told, rfl⟩
      exact ⟨text, (all text).2 ⟨item, inside, told⟩, rfl⟩
  · exact .inr ⟨e, by rw [fails]; rfl, textless⟩

/-- The kinds of a list are told by the texts of its items, and all of these have one. -/
theorem of_kindsOf_eq_ok {items : List Payload} {kinds : NameSet}
    (named : kindsOf items = .ok kinds) :
    (∀ item ∈ items, ∃ text, item.asText = .ok text) ∧
      ∀ name, name ∈ kinds.toList ↔ NamesKind items name := by
  rcases kindsOf_cases items with ⟨found, namedSo, fine, all⟩ | ⟨e, fails, -⟩
  · cases named.symm.trans namedSo
    exact ⟨fine, all⟩
  · cases named.symm.trans fails

/-- Where every item has a text there are kinds. -/
theorem exists_kindsOf {items : List Payload}
    (fine : ∀ item ∈ items, ∃ text, item.asText = .ok text) :
    ∃ kinds, kindsOf items = .ok kinds ∧ ∀ name, name ∈ kinds.toList ↔ NamesKind items name := by
  rcases kindsOf_cases items with ⟨kinds, named, -, all⟩ | ⟨e, -, item, listed, textless⟩
  · exact ⟨kinds, named, all⟩
  · obtain ⟨text, told⟩ := fine item listed
    cases told.symm.trans textless

/-- The names of kinds that are canonical name the same kinds again. -/
theorem kindsOf_of_canonical {kinds : NameSet} {items : List Payload}
    (listed : items.Perm (kinds.toList.map .text))
    (canonical : ∀ name ∈ kinds.toList, Payload.canonicalKind name = name) :
    kindsOf items = .ok kinds := by
  have member : ∀ item, item ∈ items ↔ ∃ own ∈ kinds.toList, .text own = item :=
    fun item => listed.mem_iff.trans List.mem_map
  have texts : ∀ item ∈ items, ∃ text, item.asText = .ok text := by
    intro item inside
    obtain ⟨name, -, rfl⟩ := (member item).1 inside
    exact ⟨name, rfl⟩
  obtain ⟨again, named, all⟩ := exists_kindsOf texts
  rw [named]
  refine congrArg Except.ok (NameSet.eq_of_mem_iff fun name => (all name).trans ⟨?_, ?_⟩)
  · rintro ⟨item, inside, text, told, rfl⟩
    obtain ⟨own, found, rfl⟩ := (member item).1 inside
    cases told
    rwa [canonical _ found]
  · intro own
    exact ⟨.text name, (member _).2 ⟨name, own, rfl⟩, name, rfl, (canonical name own).symm⟩

/-- Kinds that a list names have canonical names, so that naming them again changes nothing. -/
theorem kindsOf_again {items : List Payload} {kinds : NameSet} (named : kindsOf items = .ok kinds) :
    kindsOf (kinds.toList.map .text) = .ok kinds := by
  refine kindsOf_of_canonical (List.Perm.refl _) fun name listed => ?_
  obtain ⟨item, -, text, -, rfl⟩ := ((of_kindsOf_eq_ok named).2 name).1 listed
  exact Payload.canonicalKind_canonicalKind text

theorem mem_defaultUnsanitizedKinds {name : String} :
    name ∈ defaultUnsanitizedKinds.toList ↔ name = "boolean" ∨ name = "number" := by
  rw [defaultUnsanitizedKinds, NameSet.mem_toList_ofList, List.mem_pair]
  rfl

/-! ## Names of fields -/

namespace Field

/-- Whether a name is one of the two that options can give a field under. -/
def IsNamed (field : Field) (name : String) : Prop :=
  name = field.name ∨ name = field.camelName

instance (field : Field) (name : String) : Decidable (field.IsNamed name) :=
  inferInstanceAs (Decidable (_ ∨ _))

theorem name_injective {field other : Field} (same : field.name = other.name) : field = other := by
  cases field <;> cases other <;> first | rfl | exact absurd same (by decide)

/-- An option sets the field that it names. There is no other one. -/
theorem ofOption?_eq_some_iff {name : String} {field : Field} :
    ofOption? name = some field ↔ field.IsNamed name := by
  apply Iff.intro
  · intro found
    have named := List.find?_some found
    simp only [Bool.or_eq_true, beq_iff_eq] at named
    exact named.symm.imp Eq.symm Eq.symm
  · rintro (rfl | rfl) <;> cases field <;> rfl

theorem mem_all (field : Field) : field ∈ all := by
  cases field <;> decide

/-- Whether a name is none that options can give a field under. -/
def IsUnknown (name : String) : Prop :=
  ∀ field ∈ all, ¬ IsNamed field name

instance (name : String) : Decidable (IsUnknown name) :=
  inferInstanceAs (Decidable (∀ field ∈ all, ¬ IsNamed field name))

theorem IsUnknown.not_isNamed {name : String} (unknown : IsUnknown name) (field : Field) :
    ¬ field.IsNamed name :=
  unknown field (mem_all field)

theorem ofOption?_eq_none_iff {name : String} : ofOption? name = none ↔ IsUnknown name := by
  simp only [Option.eq_none_iff_forall_ne_some, ne_eq, ofOption?_eq_some_iff]
  exact ⟨fun none field _ => none field, fun unknown field => unknown.not_isNamed field⟩

/-- The value that counts for a field: the last one that stands under a name of it. -/
def given? (field : Field) (options : Fields Payload) : Option Payload :=
  (options.filterMap fun option =>
    if field.IsNamed option.1 then some option.2 else none).getLast?

/-- Later options count before earlier ones. -/
theorem given?_append (field : Field) (earlier later : Fields Payload) :
    field.given? (earlier ++ later) = (field.given? later).or (field.given? earlier) := by
  rw [given?, List.filterMap_append, List.getLast?_append]
  rfl

theorem given?_eq_none_iff {field : Field} {options : Fields Payload} :
    field.given? options = none ↔ ∀ option ∈ options, ¬ field.IsNamed option.1 := by
  simp [given?]

/-- What counts is one of the options. -/
theorem exists_of_given? {field : Field} {options : Fields Payload} {value : Payload}
    (given : field.given? options = some value) :
    ∃ option ∈ options, field.IsNamed option.1 ∧ option.2 = value := by
  obtain ⟨option, listed, selected⟩ := List.mem_filterMap.1 (List.mem_of_getLast? given)
  obtain ⟨named, same⟩ := Option.ite_none_right_eq_some.1 selected
  exact ⟨option, listed, named, Option.some.inj same⟩

end Field

/-! ## Going through options -/

theorem merge_concat (options : Fields Payload) (option : String × Payload) :
    merge (options ++ [option]) = (merge options).add option := by
  simp [merge]

/-- What is kept under the name of a field is the value that counts. -/
theorem get?_merge (options : Fields Payload) (field : Field) :
    (merge options).fields.get? field.name = field.given? options := by
  induction options using List.reverseRecOn with
  | nil => rfl
  | append_singleton options option ih =>
    rw [merge_concat, Merged.add, Field.given?_append]
    cases found : Field.ofOption? option.1 with
    | none =>
      have unnamed := (Field.ofOption?_eq_none_iff.1 found).not_isNamed field
      simp [ih, Field.given?, unnamed]
    | some other =>
      dsimp only
      rw [Fields.get?_put, ih]
      by_cases same : field = other
      · subst same
        have named := Field.ofOption?_eq_some_iff.1 found
        simp [Field.given?, named]
      · have differs : other.name ≠ field.name := fun equal =>
          same (Field.name_injective equal).symm
        have unnamed : ¬ field.IsNamed option.1 := fun named => same <|
          Option.some.inj ((Field.ofOption?_eq_some_iff.2 named).symm.trans found)
        simp [Field.given?, unnamed, differs]

/-- A note is made of each option that names no field. -/
theorem notes_merge (options : Fields Payload) :
    (merge options).notes =
      (options.filter fun option => decide (Field.IsUnknown option.1)).map fun option =>
        unknownOption option.1 := by
  induction options using List.reverseRecOn with
  | nil => rfl
  | append_singleton options option ih =>
    rw [merge_concat, Merged.add, List.filter_append, List.map_append, ← ih]
    cases found : Field.ofOption? option.1 with
    | none =>
      have unknown : Field.IsUnknown option.1 := Field.ofOption?_eq_none_iff.1 found
      simp [unknown]
    | some field =>
      have known : ¬ Field.IsUnknown option.1 := fun unknown =>
        absurd (Field.ofOption?_eq_none_iff.2 unknown) (by simp [found])
      simp [known]

/-! ## What counts, and what is noted -/

/-- Whether some kind that counts has no text. -/
def TextlessKind (options : Fields Payload) : Prop :=
  ∃ items, (Field.unsanitizedKinds.given? options).bind Payload.collection? = some items ∧
    ∃ item ∈ items, ∃ e, item.asText = .error e

/-- Whether a configuration is the one that options come to. A collaborator is the function that
counts for it, if it is one. Specifiers are always parsed if a list or a tuple of them counts, and
kinds are excepted if a collection of names counts, all of which have to have a text; whatever else
counts, or if nothing does, there are no such specifiers and the default exceptions. The grammar is
disabled if something truthy counts for that, and only where nothing does the environment has a
say. -/
structure Follows (config : Config) (environment : Environment) (options : Fields Payload) :
    Prop where
  sanitizer : config.sanitizer =
    ((Field.sanitizer.given? options).filter Payload.isCallable).getD .null
  authorizer : config.authorizer =
    ((Field.authorizer.given? options).filter Payload.isCallable).getD .null
  alwaysParsed : config.alwaysParsed =
    ((Field.alwaysParsed.given? options).bind Payload.sequence?).getD []
  unsanitizedKinds : ∀ name, name ∈ config.unsanitizedKinds.toList ↔
    match (Field.unsanitizedKinds.given? options).bind Payload.collection? with
    | some items => NamesKind items name
    | none => name = "boolean" ∨ name = "number"
  told : ¬ TextlessKind options
  grammarSwitch : config.grammarSwitch = .bool
    (match Field.grammarSwitch.given? options with
    | some value => value.isTruthy
    | none => environment.disableGrammar.map Text.lower == some "true")

/-- There is one configuration that options come to. -/
theorem Follows.unique {first second : Config} {environment : Environment}
    {options : Fields Payload} (follows : first.Follows environment options)
    (followsToo : second.Follows environment options) : first = second := by
  have kinds : first.unsanitizedKinds = second.unsanitizedKinds :=
    NameSet.eq_of_mem_iff fun name =>
      (follows.unsanitizedKinds name).trans (followsToo.unsanitizedKinds name).symm
  have sanitizers := follows.sanitizer.trans followsToo.sanitizer.symm
  have authorizers := follows.authorizer.trans followsToo.authorizer.symm
  have always := follows.alwaysParsed.trans followsToo.alwaysParsed.symm
  have switches := follows.grammarSwitch.trans followsToo.grammarSwitch.symm
  cases first
  cases second
  simp_all only

/-- Whether a value is of no use to a field. Null stands for a collaborator that is not set, and
anything can be a switch. -/
def Field.refuses : Field → Payload → Bool
  | .sanitizer, value => !value.isNull && !value.isCallable
  | .authorizer, value => !value.isNull && !value.isCallable
  | .alwaysParsed, value => value.sequence?.isNone
  | .unsanitizedKinds, value => value.collection?.isNone
  | .grammarSwitch, _ => false

/-- What is noted about a value that is of no use to a field. -/
def Field.refusal : Field → String
  | .sanitizer => "sanitize_function is not callable, treating it as unset"
  | .authorizer => "auth_function is not callable, treating it as unset"
  | .alwaysParsed => "always_parse is not a list, using no always-parsed specifiers"
  | .unsanitizedKinds => "exclude_sanitize_types is not a list, using defaults"
  | .grammarSwitch => ""

/-- The note on a field, if the value that counts for it is of no use. -/
def Field.notes (field : Field) (value : Option Payload) : List Note :=
  if value.any field.refuses then [.debug field.refusal] else []

/-- The notes on options: one on each that names no field, in their order, and then one on each
field for which a value counts that is of no use to it. -/
def notesOn (options : Fields Payload) : List Note :=
  (options.filter fun option => decide (Field.IsUnknown option.1)).map
      (fun option => unknownOption option.1) ++
    [Field.sanitizer, .authorizer, .alwaysParsed, .unsanitizedKinds].flatMap fun field =>
      field.notes (field.given? options)

theorem collaboratorOption_eq {field : Field} (is : field = .sanitizer ∨ field = .authorizer)
    (value : Option Payload) :
    collaboratorOption field value =
      (value.map fun given => if given.isCallable then given else .null, field.notes value) := by
  rcases value with _ | value
  · rfl
  · rcases is with rfl | rfl <;> cases value <;> rfl

/-- A collaborator that is no function is not set. -/
theorem getD_collaboratorOption (value : Option Payload) :
    (value.map fun given => if given.isCallable then given else .null).getD .null =
      (value.filter Payload.isCallable).getD .null := by
  rcases value with _ | value
  · rfl
  · cases value <;> rfl

theorem alwaysParsedOption_eq (value : Option Payload) :
    alwaysParsedOption value =
      ((value.bind Payload.sequence?).map .tuple, Field.alwaysParsed.notes value) := by
  rcases value with _ | value
  · rfl
  · cases value <;> rfl

/-- The kinds that an option says never to sanitize, as a set of texts. -/
theorem unsanitizedKindsOption_eq (value : Option Payload) :
    unsanitizedKindsOption value =
      match value.bind Payload.collection? with
      | some items => (kindsOf items).map fun kinds =>
          (some (.frozenSet (kinds.toList.map .text)), Field.unsanitizedKinds.notes value)
      | none => .ok (none, Field.unsanitizedKinds.notes value) := by
  rcases value with _ | value
  · rfl
  · cases value <;> rfl

/-! ## Arguments -/

/-- What stands among arguments under the name of a field is what was chosen for it. -/
theorem get?_arguments (chosen : Field → Option Payload) (field : Field) :
    (arguments chosen).get? field.name = chosen field := by
  have found : ∀ fields : List Field,
      Fields.get?
        (fields.filterMap fun field => (chosen field).map fun value => (field.name, value))
        field.name = if field ∈ fields then chosen field else none := by
    intro fields
    induction fields with
    | nil => rfl
    | cons first rest ih =>
      cases here : chosen first with
      | none =>
        rw [List.filterMap_cons_none (by simp [here]), ih]
        by_cases same : field = first
        · subst same
          simp [here]
        · simp [same]
      | some value =>
        have stands : (chosen first).map (fun value => (first.name, value)) =
            some (first.name, value) := by
          rw [here]
          rfl
        rw [List.filterMap_cons, stands]
        by_cases same : field = first
        · subst same
          simp [Fields.get?, here]
        · have differs : (field.name == first.name) = false :=
            beq_false_of_ne fun equal => same (Field.name_injective equal)
          simpa [Fields.get?, List.lookup_cons, differs, same] using ih
  exact (found Field.all).trans (if_pos field.mem_all)

/-- Arguments bear the names of fields, so that a configuration can be built with them. -/
theorem ofFields?_arguments (grammarDisabled : Bool) (chosen : Field → Option Payload) :
    ofFields? grammarDisabled (arguments chosen) = do
      let always ← (chosen .alwaysParsed).elim (pure []) Payload.elements
      let kinds ← (chosen .unsanitizedKinds).elim (pure defaultUnsanitizedKinds) fun value =>
        value.elements >>= kindsOf
      return {
        sanitizer := (chosen .sanitizer).getD .null
        alwaysParsed := always
        authorizer := (chosen .authorizer).getD .null
        unsanitizedKinds := kinds
        grammarSwitch := (chosen .grammarSwitch).getD (.bool grammarDisabled) } := by
  have passes : Builder.config.check (fun name => (Field.ofName? name).isSome)
      (arguments chosen).names = .ok () := by
    refine Builder.check_eq_ok_iff.2 fun name listed => ?_
    obtain ⟨option, given, rfl⟩ := List.mem_map.1 listed
    obtain ⟨field, -, here⟩ := List.mem_filterMap.1 given
    obtain ⟨value, -, rfl⟩ := Option.map_eq_some_iff.1 here
    dsimp only
    cases field <;> decide
  rw [ofFields?, passes]
  simp only [get?_arguments]
  rfl

/-! ## What options come to -/

/-- The kinds that options except, where they have texts. -/
def kindsGiven (options : Fields Payload) : Except Fault NameSet :=
  match (Field.unsanitizedKinds.given? options).bind Payload.collection? with
  | some items => kindsOf items
  | none => .ok defaultUnsanitizedKinds

/-- The configuration that options come to, when they except some kinds. -/
def reference (environment : Environment) (options : Fields Payload) (kinds : NameSet) :
    Config where
  sanitizer := ((Field.sanitizer.given? options).filter Payload.isCallable).getD .null
  alwaysParsed := ((Field.alwaysParsed.given? options).bind Payload.sequence?).getD []
  authorizer := ((Field.authorizer.given? options).filter Payload.isCallable).getD .null
  unsanitizedKinds := kinds
  grammarSwitch := ((Field.grammarSwitch.given? options).map fun value => .bool value.isTruthy).getD
    (.bool environment.grammarDisabled)

/-- The arguments that options give are those of the configuration that they come to. -/
theorem ofFields?_chosen (environment : Environment) (options : Fields Payload)
    {argument : Option Payload} {kinds : NameSet}
    (named : argument.elim (pure defaultUnsanitizedKinds)
      (fun value => value.elements >>= kindsOf) = .ok kinds) :
    ofFields? environment.grammarDisabled (arguments fun
      | .sanitizer => (collaboratorOption .sanitizer (Field.sanitizer.given? options)).1
      | .alwaysParsed => (alwaysParsedOption (Field.alwaysParsed.given? options)).1
      | .authorizer => (collaboratorOption .authorizer (Field.authorizer.given? options)).1
      | .unsanitizedKinds => argument
      | .grammarSwitch => switchOption (Field.grammarSwitch.given? options)) =
      .ok (reference environment options kinds) := by
  have always : ∀ value : Option (List Payload),
      (value.map .tuple).elim (pure []) Payload.elements = .ok (value.getD []) := by
    intro value
    cases value <;> rfl
  rw [ofFields?_arguments]
  dsimp only
  rw [named, collaboratorOption_eq (.inl rfl), collaboratorOption_eq (.inr rfl),
    alwaysParsedOption_eq, always, getD_collaboratorOption, getD_collaboratorOption]
  rfl

/-- What is built from options is the configuration that they come to, with the notes on them, and
it fails only over the texts of kinds. That names of kinds are made canonical once for the argument
and once more when the configuration is built makes no difference. -/
theorem ofOptions_eq (environment : Environment) (options overrides : Fields Payload) :
    ofOptions environment.grammarDisabled options overrides =
      (kindsGiven (options ++ overrides)).map fun kinds =>
        (reference environment (options ++ overrides) kinds, notesOn (options ++ overrides)) := by
  have goesOn : ∀ {α β : Type} {found : Except Fault α} {a : α} (next : α → Except Fault β),
      found = .ok a → (found >>= next) = next a := by
    intro α β found a next same
    rw [same]
    rfl
  have noted : ∀ merged kinds : List Note,
      merged ++ (collaboratorOption .sanitizer (Field.sanitizer.given? (options ++ overrides))).2 ++
          (collaboratorOption .authorizer (Field.authorizer.given? (options ++ overrides))).2 ++
          (alwaysParsedOption (Field.alwaysParsed.given? (options ++ overrides))).2 ++ kinds =
        merged ++ (Field.sanitizer.notes (Field.sanitizer.given? (options ++ overrides)) ++
          (Field.authorizer.notes (Field.authorizer.given? (options ++ overrides)) ++
          (Field.alwaysParsed.notes (Field.alwaysParsed.given? (options ++ overrides)) ++
            kinds))) := by
    intro merged kinds
    rw [collaboratorOption_eq (.inl rfl), collaboratorOption_eq (.inr rfl), alwaysParsedOption_eq]
    simp only [List.append_assoc]
  simp only [ofOptions, get?_merge, notes_merge, unsanitizedKindsOption_eq, kindsGiven, notesOn,
    List.flatMap_cons, List.flatMap_nil, List.append_nil]
  cases (Field.unsanitizedKinds.given? (options ++ overrides)).bind Payload.collection? with
  | none =>
    refine (goesOn _ (ofFields?_chosen environment (options ++ overrides) rfl)).trans ?_
    exact congrArg (fun notes => Except.ok (_, notes)) (noted _ _)
  | some items =>
    dsimp only
    cases named : kindsOf items with
    | error e => rfl
    | ok kinds =>
      have again : (some (Payload.frozenSet (kinds.toList.map .text))).elim
          (pure defaultUnsanitizedKinds) (fun value => value.elements >>= kindsOf) = .ok kinds :=
        kindsOf_again named
      refine (goesOn _ (ofFields?_chosen environment (options ++ overrides) again)).trans ?_
      exact congrArg (fun notes => Except.ok (_, notes)) (noted _ _)

/-- Either every kind that options except has a text, and then they come to a configuration, or
asking for the kinds fails over one that has none. -/
theorem kindsGiven_cases (environment : Environment) (options : Fields Payload) :
    (∃ kinds, kindsGiven options = .ok kinds ∧
        (reference environment options kinds).Follows environment options) ∨
      kindsGiven options = .error .tooManyDigits ∧ TextlessKind options := by
  have switch : (reference environment options defaultUnsanitizedKinds).grammarSwitch = .bool
      (match Field.grammarSwitch.given? options with
      | some value => value.isTruthy
      | none => environment.disableGrammar.map Text.lower == some "true") := by
    have off : environment.grammarDisabled =
        (environment.disableGrammar.map Text.lower == some "true") := by
      rw [Environment.grammarDisabled, Environment.isOn]
      cases environment.disableGrammar <;> rfl
    rw [reference, off]
    cases Field.grammarSwitch.given? options <;> rfl
  rw [kindsGiven]
  cases counts : (Field.unsanitizedKinds.given? options).bind Payload.collection? with
  | none =>
    refine .inl ⟨_, rfl, rfl, rfl, rfl, fun name => ?_, ?_, switch⟩
    · rw [counts]
      exact mem_defaultUnsanitizedKinds
    · rintro ⟨items, same, -⟩
      cases counts.symm.trans same
  | some items =>
    rcases kindsOf_cases items with ⟨kinds, named, fine, all⟩ | ⟨e, fails, item, listed, textless⟩
    · refine .inl ⟨kinds, named, rfl, rfl, rfl, fun name => ?_, ?_, switch⟩
      · rw [counts]
        exact all name
      · rintro ⟨others, same, item, listed, e, textless⟩
        cases counts.symm.trans same
        obtain ⟨text, told⟩ := fine item listed
        cases told.symm.trans textless
    · cases Payload.asText_eq_error textless
      exact .inr ⟨fails, items, counts, item, listed, _, textless⟩

end Config

/-! ## Building from options -/

namespace Settings

variable {environment : Environment} {options overrides : Fields Payload} {config : Config}
  {notes : List Note}

/-- What is checked for names that are taken, and passes, is what follows the check. -/
theorem checked_of_untaken {α : Type} {builder : Builder} {names : List String}
    (untaken : ∀ name ∈ names, name ∉ builder.taken) (next : Except Fault α) :
    (builder.check (fun _ => true) names >>= fun _ => next) = next := by
  have passes : builder.check (fun _ => true) names = .ok () := by
    simpa [Builder.check_eq_ok_iff] using untaken
  rw [passes]
  rfl

/-- What is checked for names that are taken is refused for them, or else is what follows. -/
theorem checked_eq_ok_iff {α : Type} {builder : Builder} {names : List String}
    {next : Except Fault α} {a : α} :
    (builder.check (fun _ => true) names >>= fun _ => next) = .ok a ↔
      (∀ name ∈ names, name ∉ builder.taken) ∧ next = .ok a := by
  by_cases untaken : ∀ name ∈ names, name ∉ builder.taken
  · rw [checked_of_untaken untaken]
    exact ⟨fun came => ⟨untaken, came⟩, fun found => found.2⟩
  · refine ⟨fun came => absurd ?_ untaken, fun found => absurd found.1 untaken⟩
    cases passes : builder.check (fun _ => true) names with
    | error e =>
      rw [passes] at came
      cases came
    | ok _ => simpa using Builder.check_eq_ok_iff.1 passes

/-- A description by options is refused for the name of an override or for a kind without a text,
and for nothing else. -/
theorem build_eq_ok_iff :
    (Settings.options options overrides).build environment = .ok (config, notes) ↔
      (∀ name ∈ overrides.names, name ∉ Builder.options.taken) ∧
        config.Follows environment (options ++ overrides) ∧
        notes = Config.notesOn (options ++ overrides) := by
  refine checked_eq_ok_iff.trans (and_congr_right fun _ => ?_)
  rw [Config.ofOptions_eq]
  rcases Config.kindsGiven_cases environment (options ++ overrides) with
    ⟨kinds, given, follows⟩ | ⟨fails, textless⟩
  · rw [given]
    apply Iff.intro
    · intro built
      cases built
      exact ⟨follows, rfl⟩
    · rintro ⟨followsToo, rfl⟩
      rw [followsToo.unique follows]
      rfl
  · rw [fails]
    refine ⟨fun built => ?_, fun found => absurd textless found.1.told⟩
    cases built

/-- A parser refuses the names that are its own besides. -/
theorem buildParser_eq_ok_iff :
    (Settings.options options overrides).buildParser environment = .ok (config, notes) ↔
      (∀ name ∈ overrides.names, name ∉ Builder.parser.taken) ∧
        (Settings.options options overrides).build environment = .ok (config, notes) :=
  checked_eq_ok_iff

end Settings

end Intake
