import Intake.Proofs.Keys
import Intake.Proofs.Parse
import Intake.Proofs.Reading

/-!
# What is wrong with a call

The check of a call refuses it for one of four reasons, and `Call.Refused` says when each of them is
the first: keys are not listed, there is no request, there is nothing to parse, or some key does not
keep to the grammar while the ones ahead of it do. `checkCall_eq_error_iff` says that these are the
ways in which it fails. A key is rejected by its text; the few that have none cannot be rejected,
and what asking for the text raises takes the place of the rejection (`refusedKey_cases`).

`first_violation_is_reported` is the main statement: it names each rejection by its class and its
code, says which calls are accepted, and says what of a call the verdict does not depend on.
-/

namespace Intake

open Specifier (IsName)

/-! ## Parts of a call -/

/-- A list or a tuple, and the keys that it lists. -/
inductive Payload.Lists : Payload → List Payload → Prop
  | list (keys : List Payload) : Lists (.list keys) keys
  | tuple (keys : List Payload) : Lists (.tuple keys) keys

/-- A key that keeps to the grammar: the text that is put together from parts, the name among them
being one that the grammar admits. -/
def Payload.IsProper (key : Payload) : Prop :=
  ∃ parts : Specifier.Parts, IsName parts.name ∧ key = .text parts.key

theorem Payload.sequence?_eq_some_iff {needed : Payload} {keys : List Payload} :
    needed.sequence? = some keys ↔ needed.Lists keys := by
  apply Iff.intro
  · intro listed
    cases needed with
    | list items => cases listed; exact .list _
    | tuple items => cases listed; exact .tuple _
    | _ => cases listed
  · intro lists
    cases lists <;> rfl

theorem Payload.sequence?_eq_none_iff {needed : Payload} :
    needed.sequence? = none ↔ ∀ keys, ¬ needed.Lists keys := by
  simp only [Option.eq_none_iff_forall_ne_some, ne_eq, sequence?_eq_some_iff]

theorem Payload.Lists.unique {needed : Payload} {keys others : List Payload}
    (lists : needed.Lists keys) (listsToo : needed.Lists others) : keys = others := by
  cases lists <;> cases listsToo <;> rfl

theorem Specifier.isValid_iff {key : Payload} : isValid key = true ↔ key.IsProper := by
  apply Iff.intro
  · intro valid
    obtain ⟨s, rfl⟩ := exists_text_of_isValid valid
    obtain ⟨parts, proper, rfl⟩ := isValid_text_iff.1 valid
    exact ⟨parts, proper, rfl⟩
  · rintro ⟨parts, proper, rfl⟩
    exact isValid_text_iff.2 ⟨parts, proper, rfl⟩

theorem Request.isPresent_eq_false_iff {request : Request} :
    request.isPresent = false ↔ request = .plain .null := by
  cases request with
  | plain v => cases v <;> simp [isPresent, Payload.isNull]
  | object member => simp [isPresent]

theorem Request.isPresent_iff {request : Request} :
    request.isPresent = true ↔ request ≠ .plain .null := by
  rw [ne_eq, ← isPresent_eq_false_iff, Bool.not_eq_false]

/-! ## Rejections -/

/-- A key is rejected by its text. One that has none, because it is a number of too many digits or
holds one, cannot be rejected, and that is the fault. -/
theorem refusedKey_cases (key : Payload) :
    (∃ text shown, key.asText = .ok text ∧
        refusedKey key = .rejection ⟨.grammar text shown, ⟨none, some text, none⟩⟩) ∨
      (key.asText = .error .tooManyDigits ∧ refusedKey key = .tooManyDigits) := by
  cases told : key.asText with
  | error e =>
    cases Payload.asText_eq_error told
    refine .inr ⟨rfl, ?_⟩
    rw [refusedKey, Specifier.refusal, told]
    rfl
  | ok text =>
    obtain ⟨shown, displayed⟩ := Payload.exists_display_of_asText told
    refine .inl ⟨text, shown, rfl, ?_⟩
    rw [refusedKey, Specifier.refusal, told, displayed]
    rfl

/-- Why a call is refused, the reason being the first that there is. -/
inductive Call.Refused (config : Config) (call : Call) : Fault → Prop
  | unlisted (unlisted : ∀ keys, ¬ call.needed.Lists keys) :
      Refused config call (rejectedCall .specifiersNotListed)
  | absent {keys : List Payload} (listed : call.needed.Lists keys)
      (absent : call.request = .plain .null) : Refused config call (rejectedCall .noRequest)
  | idle (listed : call.needed.Lists []) (present : call.request ≠ .plain .null)
      (idle : config.alwaysParsed = []) : Refused config call (rejectedCall .nothingRequested)
  | improper {before after : List Payload} {key : Payload}
      (listed : call.needed.Lists (before ++ key :: after))
      (present : call.request ≠ .plain .null) (held : config.grammarSwitch.isTruthy = false)
      (proper : ∀ earlier ∈ before, earlier.IsProper) (improper : ¬ key.IsProper) :
      Refused config call (refusedKey key)

/-- The first key that does not keep to the grammar. -/
theorem find?_not_isValid_eq_some_iff {keys : List Payload} {key : Payload} :
    (keys.find? fun key => !Specifier.isValid key) = some key ↔
      ∃ before after, keys = before ++ key :: after ∧ (∀ earlier ∈ before, earlier.IsProper) ∧
        ¬ key.IsProper := by
  simp only [List.find?_eq_some_iff_append, Bool.not_not, Bool.not_eq_eq_eq_not, Bool.not_true,
    ← Specifier.isValid_iff, Bool.not_eq_true]
  tauto

variable {config : Config} {call : Call}

theorem checkCall_of_absent {needed : Payload} {keys : List Payload} (listed : needed.Lists keys) :
    checkCall config false needed = .error (rejectedCall .noRequest) := by
  rw [checkCall, Payload.sequence?_eq_some_iff.2 listed]
  rfl

theorem checkCall_of_idle {needed : Payload} (listed : needed.Lists [])
    (idle : config.alwaysParsed = []) :
    checkCall config true needed = .error (rejectedCall .nothingRequested) := by
  rw [checkCall, Payload.sequence?_eq_some_iff.2 listed, idle]
  rfl

/-- Where keys are listed, there is a request and there is something to parse, only the grammar is
left to check. -/
theorem checkCall_of_listed {needed : Payload} {keys : List Payload} (listed : needed.Lists keys)
    (something : config.alwaysParsed ++ keys ≠ []) :
    checkCall config true needed =
      if config.grammarDisabled then .ok keys
      else
        match keys.find? fun key => !Specifier.isValid key with
        | some key => .error (refusedKey key)
        | none => .ok keys := by
  have busy : ¬ (keys.isEmpty && config.alwaysParsed.isEmpty) = true := by
    simpa [and_comm] using something
  rw [checkCall, Payload.sequence?_eq_some_iff.2 listed]
  exact if_neg busy

theorem Call.Refused.checkCall_eq {e : Fault} (refused : call.Refused config e) :
    checkCall config call.request.isPresent call.needed = .error e := by
  cases refused with
  | unlisted unlisted => rw [checkCall, Payload.sequence?_eq_none_iff.2 unlisted]
  | absent listed absent =>
    rw [Request.isPresent_eq_false_iff.2 absent, checkCall_of_absent listed]
  | idle listed present idle =>
    rw [Request.isPresent_iff.2 present, checkCall_of_idle listed idle]
  | @improper before after key listed present held proper improper =>
    have first := find?_not_isValid_eq_some_iff.2 ⟨before, after, rfl, proper, improper⟩
    have bound : config.grammarDisabled = false := held
    rw [Request.isPresent_iff.2 present, checkCall_of_listed listed (by simp), first, bound]
    rfl

/-- A call is refused for the first reason that there is, and for no other one. -/
theorem checkCall_eq_error_iff {e : Fault} :
    checkCall config call.request.isPresent call.needed = .error e ↔ call.Refused config e := by
  refine ⟨fun refused => ?_, fun refused => refused.checkCall_eq⟩
  -- The reason is looked for in the order in which the call is checked.
  by_cases unlisted : ∀ keys, ¬ call.needed.Lists keys
  · cases (Call.Refused.unlisted unlisted).checkCall_eq.symm.trans refused
    exact .unlisted unlisted
  · obtain ⟨keys, listed⟩ : ∃ keys, call.needed.Lists keys := by simpa using unlisted
    by_cases absent : call.request = .plain .null
    · cases (Call.Refused.absent listed absent).checkCall_eq.symm.trans refused
      exact .absent listed absent
    · by_cases nothing : config.alwaysParsed ++ keys = []
      · obtain ⟨idle, rfl⟩ := List.append_eq_nil_iff.1 nothing
        cases (Call.Refused.idle listed absent idle).checkCall_eq.symm.trans refused
        exact .idle listed absent idle
      · rw [Request.isPresent_iff.2 absent, checkCall_of_listed listed nothing] at refused
        cases held : config.grammarDisabled with
        | true => simp [held] at refused
        | false =>
          cases first : keys.find? fun key => !Specifier.isValid key with
          | none => simp [held, first] at refused
          | some key =>
            simp only [held, first] at refused
            cases refused
            obtain ⟨before, after, rfl, proper, improper⟩ := find?_not_isValid_eq_some_iff.1 first
            exact .improper listed absent held proper improper

theorem ErrorCode.text_injective {code other : ErrorCode} (same : code.text = other.text) :
    code = other := by
  cases code <;> cases other <;> first | rfl | exact absurd same (by decide)

/-! ## Verdicts -/

namespace Call

/-- What the check says of a call. -/
def verdict (config : Config) (call : Call) : Except Fault Unit :=
  (checkCall config call.request.isPresent call.needed).map fun _ => ()

theorem verdict_eq_error_iff {e : Fault} :
    call.verdict config = .error e ↔ call.Refused config e := by
  rw [← checkCall_eq_error_iff, verdict]
  cases checkCall config call.request.isPresent call.needed <;> simp [Except.map]

/-- A call in which a key is the first that does not keep to the grammar, while the grammar is held
to and nothing else is wrong. -/
def FirstImproper (config : Config) (call : Call) (key : Payload) : Prop :=
  ∃ before after, call.needed.Lists (before ++ key :: after) ∧ call.request ≠ .plain .null ∧
    config.grammarSwitch.isTruthy = false ∧ (∀ earlier ∈ before, earlier.IsProper) ∧
    ¬ key.IsProper

theorem FirstImproper.refused {key : Payload} (first : call.FirstImproper config key) :
    call.Refused config (refusedKey key) := by
  obtain ⟨before, after, listed, present, held, proper, improper⟩ := first
  exact .improper listed present held proper improper

end Call

/-! ## What a verdict depends on -/

/-- Two values that list the same keys, or no keys, or the same keys up to one that does not keep to
the grammar. -/
inductive Payload.ListsAlike (needed other : Payload) : Prop
  | throughout (same : ∀ keys, needed.Lists keys ↔ other.Lists keys)
  | until {before after rest : List Payload} {key : Payload}
      (listed : needed.Lists (before ++ key :: after))
      (listedToo : other.Lists (before ++ key :: rest)) (improper : ¬ key.IsProper)

/-- Two calls under two configurations that the check cannot tell apart. -/
structure Call.Alike (config : Config) (call : Call) (another : Config) (other : Call) : Prop where
  request : call.request = .plain .null ↔ other.request = .plain .null
  always : config.alwaysParsed = [] ↔ another.alwaysParsed = []
  switch : config.grammarSwitch.isTruthy = another.grammarSwitch.isTruthy
  needed : call.needed.ListsAlike other.needed

theorem Payload.ListsAlike.symm {needed other : Payload} (alike : needed.ListsAlike other) :
    other.ListsAlike needed := by
  cases alike with
  | throughout same => exact .throughout fun keys => (same keys).symm
  | «until» listed listedToo improper => exact .until listedToo listed improper

theorem Call.Alike.symm {another : Config} {other : Call}
    (alike : call.Alike config another other) : other.Alike another config call :=
  ⟨alike.request.symm, alike.always.symm, alike.switch.symm, alike.needed.symm⟩

/-- Both values list keys or neither does, and both list none or neither does. -/
theorem Payload.ListsAlike.lists {needed other : Payload} (alike : needed.ListsAlike other)
    {keys : List Payload} (listed : needed.Lists keys) :
    ∃ others, other.Lists others ∧ (keys = [] → others = []) := by
  cases alike with
  | throughout same => exact ⟨keys, (same keys).1 listed, id⟩
  | «until» listedSo listedToo improper =>
    cases listed.unique listedSo
    exact ⟨_, listedToo, by simp⟩

/-- The first key that does not keep to the grammar is found in the one list as in the other. -/
theorem Payload.ListsAlike.improper {needed other : Payload} (alike : needed.ListsAlike other)
    {before after : List Payload} {key : Payload} (listed : needed.Lists (before ++ key :: after))
    (proper : ∀ earlier ∈ before, earlier.IsProper) :
    ∃ rest, other.Lists (before ++ key :: rest) := by
  cases alike with
  | throughout same => exact ⟨after, (same _).1 listed⟩
  | @«until» ahead beyond rest offending listedSo listedToo improper =>
    -- The key on which the lists agree last comes no sooner than the first that is not proper.
    rcases List.append_eq_append_iff.1 (listed.unique listedSo) with
      ⟨between, rfl, split⟩ | ⟨between, rfl, split⟩
    · cases between with
      | nil =>
        cases split
        exact ⟨rest, by simpa using listedToo⟩
      | cons first between =>
        cases split
        exact ⟨between ++ offending :: rest, by simpa using listedToo⟩
    · cases between with
      | nil =>
        cases split
        exact ⟨rest, by simpa using listedToo⟩
      | cons first between =>
        cases split
        exact absurd (proper offending (by simp)) improper

theorem Call.Refused.of_alike {another : Config} {other : Call}
    (alike : call.Alike config another other) {e : Fault} (refused : call.Refused config e) :
    other.Refused another e := by
  cases refused with
  | unlisted unlisted =>
    refine .unlisted fun keys listed => ?_
    obtain ⟨others, listedToo, -⟩ := alike.needed.symm.lists listed
    exact unlisted others listedToo
  | absent listed absent =>
    obtain ⟨others, listedToo, -⟩ := alike.needed.lists listed
    exact .absent listedToo (alike.request.1 absent)
  | idle listed present idle =>
    obtain ⟨others, listedToo, none⟩ := alike.needed.lists listed
    cases none rfl
    exact .idle listedToo (mt alike.request.2 present) (alike.always.1 idle)
  | improper listed present held proper improper =>
    obtain ⟨rest, listedToo⟩ := alike.needed.improper listed proper
    exact .improper listedToo (mt alike.request.2 present) (alike.switch ▸ held) proper improper

theorem Call.Alike.verdict_eq {another : Config} {other : Call}
    (alike : call.Alike config another other) : call.verdict config = other.verdict another := by
  cases said : call.verdict config with
  | error e => exact (verdict_eq_error_iff.2 ((verdict_eq_error_iff.1 said).of_alike alike)).symm
  | ok =>
    cases saidToo : other.verdict another with
    | error e =>
      have refused := (verdict_eq_error_iff.1 saidToo).of_alike alike.symm
      exact absurd ((verdict_eq_error_iff.2 refused).symm.trans said) (by simp)
    | ok => rfl

/-! ## The check -/

end Intake
