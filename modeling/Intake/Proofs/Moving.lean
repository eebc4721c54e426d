import Intake.Proofs.Checking
import Intake.Proofs.Reading
import Intake.Proofs.Scene

/-!
# Always parsed or listed

The keys that are always parsed come ahead of those that a call lists, and that is all there is to
them: nothing that is done to a list of keys depends on where its keys come from
(`gather_parsingAlways`, `finishGathering_parsingAlways`). Only the check of a call keeps the two
lists apart, in that it holds no key to the grammar that is always parsed. So a key that passes
there can as well be listed (`checkCall_listed_instead`).

`parses_as_if_listed` is the main statement: of keys that are always parsed, the last ones can be
moved to the head of the list of the call, and the parse takes the same course.
-/

namespace Intake

/-- The configuration, with other keys that are always parsed. -/
def Config.parsingAlways (config : Config) (keys : List Payload) : Config :=
  { config with alwaysParsed := keys }

@[simp]
theorem Config.alwaysParsed_parsingAlways (config : Config) (keys : List Payload) :
    (config.parsingAlways keys).alwaysParsed = keys :=
  rfl

@[simp]
theorem Config.grammarDisabled_parsingAlways (config : Config) (keys : List Payload) :
    (config.parsingAlways keys).grammarDisabled = config.grammarDisabled :=
  rfl

variable (config : Config) (mode : Mode) (log : Log) (always : List Payload)

theorem gather_parsingAlways (tracing : Bool) (keys : List Payload) :
    gather (config.parsingAlways always) mode tracing keys = gather config mode tracing keys :=
  rfl

theorem finishGathering_parsingAlways (ending : Except Stop Gathered) :
    finishGathering (config.parsingAlways always) log ending =
      finishGathering config log ending := by
  cases ending with
  | error stop => cases stop <;> rfl
  | ok gathered => rfl

/-! ## Keys that are listed instead -/

section

variable {config} {moved keys : List Payload} {needed joined : Payload}
  (listed : needed.Lists keys) (listedToo : joined.Lists (moved ++ keys))
  (admitted : config.grammarDisabled = true ∨ ∀ key ∈ moved, key.IsProper)

include listed listedToo admitted

/-- If some keys pass the grammar, or need not, then a call which lists them ahead of its own keys
is refused like one for which they are always parsed, and accepted like it. -/
theorem checkCall_listed_instead (hasRequest : Bool) :
    checkCall (config.parsingAlways always) hasRequest joined =
      (checkCall (config.parsingAlways (always ++ moved)) hasRequest needed).map (moved ++ ·) := by
  cases hasRequest with
  | false =>
    rw [checkCall_of_absent listedToo, checkCall_of_absent listed]
    rfl
  | true =>
    by_cases nothing : always ++ (moved ++ keys) = []
    · simp only [List.append_eq_nil_iff] at nothing
      obtain ⟨rfl, rfl, rfl⟩ := nothing
      rw [checkCall_of_idle listedToo rfl, checkCall_of_idle listed rfl]
      rfl
    · have nothingToo : (always ++ moved) ++ keys ≠ [] := by rwa [List.append_assoc]
      rw [checkCall_of_listed listedToo nothing, checkCall_of_listed listed nothingToo]
      cases disabled : config.grammarDisabled with
      | true =>
        simp only [Config.grammarDisabled_parsingAlways, disabled, if_true]
        rfl
      | false =>
        have passed : moved.find? (fun key => !Specifier.isValid key) = none := by
          simpa [Specifier.isValid_iff, disabled] using admitted
        simp only [Config.grammarDisabled_parsingAlways, disabled, Bool.false_eq_true, if_false,
          List.find?_append, passed, Option.none_or]
        cases keys.find? fun key => !Specifier.isValid key <;> rfl

theorem attempt_listed_instead (hasRequest : Bool) :
    attempt (config.parsingAlways always) mode log hasRequest joined =
      attempt (config.parsingAlways (always ++ moved)) mode log hasRequest needed := by
  rw [attempt, attempt, checkCall_listed_instead always listed listedToo admitted]
  cases checkCall (config.parsingAlways (always ++ moved)) hasRequest needed with
  | error rejection => rfl
  | ok found =>
    simp only [Except.map, gather_parsingAlways, finishGathering_parsingAlways,
      Config.alwaysParsed_parsingAlways, List.append_assoc]

theorem parse_listed_instead (hasRequest : Bool) :
    parse (config.parsingAlways always) mode log hasRequest joined =
      parse (config.parsingAlways (always ++ moved)) mode log hasRequest needed := by
  rw [parse, parse, attempt_listed_instead mode log always listed listedToo admitted]

end

/-- Of the keys that are always parsed, those at the end may as well stand at the head of the list
of the call, provided that they keep to the grammar or need not. Whatever the request, the
collaborators and the clock do meanwhile, the parse takes the same course: what happens in it, calls
and records among them, is the same, and so is the outcome. As one of several jobs it is the same
dialogue. -/
theorem parses_as_if_listed (config : Config) (always moved : List Payload) {keys : List Payload}
    {needed joined : Payload} (listed : needed.Lists keys)
    (listedToo : joined.Lists (moved ++ keys))
    (admitted : config.grammarDisabled = true ∨ ∀ key ∈ moved, key.IsProper) :
    (∀ (scene : Scene) (scopes : List Scope),
      scene.parseNow scopes (config.parsingAlways (always ++ moved)) needed =
        scene.parseNow scopes (config.parsingAlways always) joined) ∧
    (∀ (scene : Scene) (scopes : List Scope) (callback : Option Callback),
      scene.parseWaiting scopes (config.parsingAlways (always ++ moved)) needed callback =
        scene.parseWaiting scopes (config.parsingAlways always) joined callback) ∧
    ∀ (host : Host) (request : Request) (callback : Option Callback),
      host.dialogue (config.parsingAlways (always ++ moved)) ⟨request, needed⟩ callback =
        host.dialogue (config.parsingAlways always) ⟨request, joined⟩ callback := by
  have same (mode : Mode) (log : Log) (hasRequest : Bool) :=
    parse_listed_instead mode log always listed listedToo admitted hasRequest
  refine ⟨fun scene scopes => ?_, fun scene scopes callback => ?_,
    fun host request callback => ?_⟩
  · rw [Scene.parseNow, Scene.parseNow, same]
  · rw [Scene.parseWaiting, Scene.parseWaiting, parseThen, parseThen, same]
  · rw [Host.dialogue, Host.dialogue, parseThen, parseThen, same]

/-- A value is cleaned because that is always done, and then asked for as it is, which overwrites
it; so it is if both are listed. -/
theorem parses_as_if_listed_sample :
    let config : Config := { sampleConfig with grammarSwitch := .bool false }
    let always := config.parsingAlways [.text "HLang", .text "B*a"]
    let listed := config.parsingAlways [.text "HLang"]
    let course := wrappingHost.parseNow [] always ⟨sampleRequest, .tuple [.text "Ba"]⟩
    (Payload.tuple [.text "Ba"]).Lists [.text "Ba"] ∧ (Payload.text "B*a").IsProper ∧
      course = wrappingHost.parseNow [] listed ⟨sampleRequest, .list [.text "B*a", .text "Ba"]⟩ ∧
      course.value = .ok (.success ⟨[("a", .text "x")], [], [("Lang", .text "de")], [], .null⟩) ∧
      course.events.filterMap Event.call? = [(⟨"clean", 0, false⟩, .text "x")] := by
  intro config always listed course
  have proper : (Payload.text "B*a").IsProper := Specifier.isValid_iff.1 (by decide)
  have same := (parses_as_if_listed config [.text "HLang"] [.text "B*a"] (.tuple [.text "Ba"])
    (.list [.text "B*a", .text "Ba"]) (.inr (by simpa using proper))).1
    (.still wrappingHost sampleRequest) []
  refine ⟨.tuple _, proper, ?_, by rfl, by rfl⟩
  have still := Scene.parseNow_still wrappingHost []
  exact (still always ⟨sampleRequest, .tuple [.text "Ba"]⟩).symm.trans
    (same.trans (still listed ⟨sampleRequest, .list [.text "B*a", .text "Ba"]⟩))

end Intake
