import Intake.Proofs.Merging

/-!
# Configurations restated as options

A configuration that was built from options is in a normal form, `Config.Settled`: its collaborators
are functions or not set, its switch is a truth value, and no name among its kinds stands for
another one. `Config.Restates` says of options that they give every field its own value, under
whichever of its names, in whichever order and as often as they like.

A settled configuration follows from all options that restate it, and there is nothing to note about
them (`Config.Settled.follows`, `Config.Settled.notesOn_eq_nil`); building it from its own fields
gives it back as well (`Config.Settled.ofFields?_eq`). `configuration_restated_is_itself` is the
main statement.
-/

namespace Intake

/-! ## Collaborators -/

/-- A collaborator: a function, or null where none is set. -/
inductive Payload.IsCollaborator : Payload → Prop
  | unset : IsCollaborator .null
  | function (f : FunctionRef) : IsCollaborator (.function f)

namespace Payload.IsCollaborator

theorem of_filter (value : Option Payload) :
    ((value.filter Payload.isCallable).getD .null).IsCollaborator := by
  rcases value with _ | value
  · exact .unset
  · cases value with
    | function f => exact .function f
    | _ => exact .unset

variable {collaborator : Payload} (proper : collaborator.IsCollaborator)

include proper

theorem getD_filter_isCallable :
    ((some collaborator).filter Payload.isCallable).getD .null = collaborator := by
  cases proper <;> rfl

theorem isNull_or_isCallable : (!collaborator.isNull && !collaborator.isCallable) = false := by
  cases proper <;> rfl

end Payload.IsCollaborator

namespace Config

/-! ## Normal forms -/

/-- A configuration in normal form. -/
structure Settled (config : Config) : Prop where
  sanitizer : config.sanitizer.IsCollaborator
  authorizer : config.authorizer.IsCollaborator
  unsanitizedKinds : ∀ name ∈ config.unsanitizedKinds.toList, Payload.canonicalKind name = name
  grammarSwitch : ∃ on, config.grammarSwitch = .bool on

/-- What options come to is in normal form. -/
theorem Follows.settled {config : Config} {environment : Environment} {options : Fields Payload}
    (follows : config.Follows environment options) : config.Settled where
  sanitizer := follows.sanitizer ▸ .of_filter _
  authorizer := follows.authorizer ▸ .of_filter _
  grammarSwitch := ⟨_, follows.grammarSwitch⟩
  unsanitizedKinds := by
    intro name listed
    have kinds := (follows.unsanitizedKinds name).1 listed
    cases given : (Field.unsanitizedKinds.given? options).bind Payload.collection? with
    | none =>
      simp only [given] at kinds
      rcases kinds with rfl | rfl <;> decide
    | some items =>
      simp only [given] at kinds
      obtain ⟨item, -, text, -, rfl⟩ := kinds
      exact Payload.canonicalKind_canonicalKind text

/-! ## Restating a configuration -/

/-- Whether a payload is the value of a field. The kinds are a set, which may list its names in any
order. -/
inductive Has (config : Config) : Field → Payload → Prop
  | sanitizer : Has config .sanitizer config.sanitizer
  | alwaysParsed : Has config .alwaysParsed (.tuple config.alwaysParsed)
  | authorizer : Has config .authorizer config.authorizer
  | unsanitizedKinds {items : List Payload}
      (listed : items.Perm (config.unsanitizedKinds.toList.map .text)) :
      Has config .unsanitizedKinds (.frozenSet items)
  | grammarSwitch : Has config .grammarSwitch config.grammarSwitch

/-- Whether options give every field its own value, and nothing else, where `named` says which names
a field can be given under. -/
structure Restates (config : Config) (named : Field → String → Prop) (options : Fields Payload) :
    Prop where
  own : ∀ option ∈ options, ∃ field, named field option.1 ∧ config.Has field option.2
  whole : ∀ field, ∃ option ∈ options, named field option.1

theorem Field.IsNamed.unique {field other : Field} {name : String} (named : field.IsNamed name)
    (namedToo : other.IsNamed name) : field = other :=
  Option.some.inj
    ((ofOption?_eq_some_iff.2 named).symm.trans (ofOption?_eq_some_iff.2 namedToo))

/-- No name of a field is taken by what is built. -/
theorem Field.IsNamed.not_taken {field : Field} {name : String} (named : field.IsNamed name)
    (builder : Builder) : name ∉ builder.taken := by
  rcases named with rfl | rfl <;> cases field <;> cases builder <;> decide

/-- What counts for a field is its own value. -/
theorem Restates.given? {config : Config} {options : Fields Payload}
    (restates : config.Restates Field.IsNamed options) (field : Field) :
    ∃ value, field.given? options = some value ∧ config.Has field value := by
  cases given : field.given? options with
  | none =>
    obtain ⟨option, listed, named⟩ := restates.whole field
    exact absurd named (Field.given?_eq_none_iff.1 given option listed)
  | some value =>
    obtain ⟨option, listed, named, rfl⟩ := Field.exists_of_given? given
    obtain ⟨other, namedToo, has⟩ := restates.own option listed
    obtain rfl := named.unique namedToo
    exact ⟨option.2, rfl, has⟩

/-- What is stored under the name of a field is its own value. -/
theorem Restates.get? {config : Config} {fields : Fields Payload}
    (restates : config.Restates (fun field name => name = field.name) fields) (field : Field) :
    ∃ value, Fields.get? fields field.name = some value ∧ config.Has field value := by
  cases found : Fields.get? fields field.name with
  | none =>
    obtain ⟨option, listed, named⟩ := restates.whole field
    have other := List.lookup_eq_none_iff.1 found option listed
    simp [named] at other
  | some value =>
    obtain ⟨before, after, split, -⟩ := List.lookup_eq_some_iff.1 found
    have listed : (field.name, value) ∈ fields := by simp [split]
    obtain ⟨other, named, has⟩ := restates.own _ listed
    obtain rfl := Field.name_injective named
    exact ⟨value, rfl, has⟩

/-! ## Settled configurations -/

namespace Settled

variable {config : Config} (settled : config.Settled)

include settled

/-- The kinds of a settled configuration are the kinds that their own names stand for. -/
theorem kindsOf_eq {items : List Payload}
    (listed : items.Perm (config.unsanitizedKinds.toList.map .text)) :
    kindsOf items = .ok config.unsanitizedKinds :=
  kindsOf_of_canonical listed settled.unsanitizedKinds

/-- A settled configuration follows from what restates it, whatever the environment says. -/
theorem follows {options : Fields Payload} (restates : config.Restates Field.IsNamed options)
    (environment : Environment) : config.Follows environment options where
  sanitizer := by
    obtain ⟨_, given, ⟨⟩⟩ := restates.given? .sanitizer
    rw [given, settled.sanitizer.getD_filter_isCallable]
  authorizer := by
    obtain ⟨_, given, ⟨⟩⟩ := restates.given? .authorizer
    rw [given, settled.authorizer.getD_filter_isCallable]
  alwaysParsed := by
    obtain ⟨_, given, ⟨⟩⟩ := restates.given? .alwaysParsed
    rw [given]
    rfl
  unsanitizedKinds := by
    obtain ⟨_, given, ⟨⟩⟩ := restates.given? .unsanitizedKinds
    next items listed =>
      rw [given]
      exact (of_kindsOf_eq_ok (settled.kindsOf_eq listed)).2
  told := by
    rintro ⟨items, counts, item, inside, e, textless⟩
    obtain ⟨_, given, ⟨⟩⟩ := restates.given? .unsanitizedKinds
    next own listed =>
      rw [given] at counts
      cases counts
      obtain ⟨text, told⟩ := (of_kindsOf_eq_ok (settled.kindsOf_eq listed)).1 item inside
      cases told.symm.trans textless
  grammarSwitch := by
    obtain ⟨_, given, ⟨⟩⟩ := restates.given? .grammarSwitch
    obtain ⟨on, switch⟩ := settled.grammarSwitch
    rw [given, switch]
    rfl

/-- Its own values are of use to its fields. -/
theorem refuses_eq_false {field : Field} {value : Payload} (has : config.Has field value) :
    field.refuses value = false := by
  cases has with
  | sanitizer => exact settled.sanitizer.isNull_or_isCallable
  | authorizer => exact settled.authorizer.isNull_or_isCallable
  | alwaysParsed => rfl
  | unsanitizedKinds => rfl
  | grammarSwitch => rfl

/-- There is nothing to note about options that restate it. -/
theorem notesOn_eq_nil {options : Fields Payload}
    (restates : config.Restates Field.IsNamed options) : notesOn options = [] := by
  have known : options.filter (fun option => decide (Field.IsUnknown option.1)) = [] := by
    refine List.filter_eq_nil_iff.2 fun option listed unknown => ?_
    obtain ⟨field, named, -⟩ := restates.own option listed
    exact (of_decide_eq_true unknown).not_isNamed field named
  have useful : ∀ field : Field, field.notes (field.given? options) = [] := by
    intro field
    obtain ⟨value, given, has⟩ := restates.given? field
    simp [Field.notes, given, settled.refuses_eq_false has]
  simp [notesOn, known, useful]

/-- Building a settled configuration from its own fields gives it back. -/
theorem ofFields?_eq {fields : Fields Payload}
    (restates : config.Restates (fun field name => name = field.name) fields)
    (grammarDisabled : Bool) : ofFields? grammarDisabled fields = .ok config := by
  have passes : Builder.config.check (fun name => (Field.ofName? name).isSome) fields.names =
      .ok () := by
    refine Builder.check_eq_ok_iff.2 fun name listed => ?_
    obtain ⟨option, given, rfl⟩ := List.mem_map.1 listed
    obtain ⟨field, named, -⟩ := restates.own option given
    refine ⟨Field.IsNamed.not_taken (.inl named) .config, ?_⟩
    rw [named]
    cases field <;> rfl
  obtain ⟨_, sanitizer, ⟨⟩⟩ := restates.get? .sanitizer
  obtain ⟨_, always, ⟨⟩⟩ := restates.get? .alwaysParsed
  obtain ⟨_, authorizer, ⟨⟩⟩ := restates.get? .authorizer
  obtain ⟨_, kinds, has⟩ := restates.get? .unsanitizedKinds
  obtain ⟨_, switch, ⟨⟩⟩ := restates.get? .grammarSwitch
  cases has with
  | unsanitizedKinds listed =>
    have same := settled.kindsOf_eq listed
    rw [ofFields?, passes]
    simp only [sanitizer, always, authorizer, kinds, switch, Option.elim_some]
    exact congrArg
      (Except.map fun kinds => { config with unsanitizedKinds := kinds }) same

end Settled

end Config

/-- A configuration that was built from options is its own restatement. Its five values, given as
options or as overrides, under either name of each field and in any order, build it again, with
nothing to note, and so do they as the fields of a configuration; the environment, which may be
another one by then, has no say. The names of its kinds are made canonical once more on the way, but
none of them stands for another name. -/
theorem configuration_restated_is_itself {environment : Environment}
    {options overrides : Fields Payload} {config : Config} {notes : List Note}
    (built : (Settings.options options overrides).build environment = .ok (config, notes))
    (other : Environment) :
    (∀ again overriding : Fields Payload,
        config.Restates Config.Field.IsNamed (again ++ overriding) →
          (Settings.options again overriding).build other = .ok (config, []) ∧
            (Settings.options again overriding).buildParser other = .ok (config, [])) ∧
      (∀ fields : Fields Payload,
        config.Restates (fun field name => name = field.name) fields →
          (Settings.fields fields).build other = .ok (config, [])) ∧
      ∀ name ∈ config.unsanitizedKinds.toList, Payload.canonicalKind name = name := by
  obtain ⟨-, follows, -⟩ := Settings.build_eq_ok_iff.1 built
  have settled := follows.settled
  refine ⟨fun again overriding restates => ?_, fun fields restates => ?_, settled.unsanitizedKinds⟩
  · have untaken : ∀ (builder : Builder), ∀ name ∈ overriding.names, name ∉ builder.taken := by
      intro builder name listed
      obtain ⟨option, given, rfl⟩ := List.mem_map.1 listed
      obtain ⟨field, named, -⟩ := restates.own option (List.mem_append_right _ given)
      exact named.not_taken builder
    have rebuilt := Settings.build_eq_ok_iff.2
      ⟨untaken .options, settled.follows restates other, (settled.notesOn_eq_nil restates).symm⟩
    exact ⟨rebuilt, Settings.buildParser_eq_ok_iff.2 ⟨untaken .parser, rebuilt⟩⟩
  · rw [Settings.build, settled.ofFields?_eq restates]
    rfl

/-- A configuration that was built from names that stand for other ones, in an environment that
disables the grammar, restated in one that does not. -/
theorem configuration_restated_is_itself_sample :
    let wrap := Payload.function ⟨"wrap", 0, false⟩
    let options : Fields Payload := [("sanitizeFunction", wrap), ("always_parse", .list [.int 7]),
      ("excludeSanitizeTypes", .set [.text "str", .text "int", .text "date"])]
    let kinds := NameSet.ofList ["date", "number", "string"]
    let config : Config := ⟨wrap, [.int 7], .null, kinds, .bool true⟩
    let again : Fields Payload := [("disableRegex", .bool true), ("always_parse", .tuple [.int 7]),
      ("authFunction", .null)]
    let overriding : Fields Payload := [("sanitize_function", wrap),
      ("excludeSanitizeTypes", .frozenSet [.text "string", .text "date", .text "number"])]
    (Settings.options options []).build ⟨some "True", none⟩ = .ok (config, []) ∧
      config.Restates Config.Field.IsNamed (again ++ overriding) ∧
      (Settings.options again overriding).build .unset = .ok (config, []) := by
  intro wrap options kinds config again overriding
  have built : (Settings.options options []).build ⟨some "True", none⟩ = .ok (config, []) := by
    rfl
  have restates : config.Restates Config.Field.IsNamed (again ++ overriding) := by
    refine ⟨fun option listed => ?_, fun field => ?_⟩
    · simp only [again, overriding, List.cons_append, List.nil_append, List.mem_cons,
        List.not_mem_nil, or_false] at listed
      rcases listed with rfl | rfl | rfl | rfl | rfl
      · exact ⟨.grammarSwitch, by decide, .grammarSwitch⟩
      · exact ⟨.alwaysParsed, by decide, .alwaysParsed⟩
      · exact ⟨.authorizer, by decide, .authorizer⟩
      · exact ⟨.sanitizer, by decide, .sanitizer⟩
      · have listed : ["string", "date", "number"].Perm kinds.toList := by decide
        exact ⟨.unsanitizedKinds, by decide, .unsanitizedKinds (listed.map Payload.text)⟩
    · cases field <;>
        simp [again, overriding, Config.Field.IsNamed, Config.Field.name, Config.Field.camelName]
  exact ⟨built, restates, ((configuration_restated_is_itself built .unset).1 _ _ restates).1⟩

end Intake
