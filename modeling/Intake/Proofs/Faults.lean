import Intake.Proofs.Scene

/-!
# What becomes of a fault

A parse meets faults in the check of the call, while it gathers (where the sanitizer, or a member of
the request, can raise any fault at any time), and when it reads the headers that the authorizer is
to be given. `Scene.Raises` says that it meets one there. A fault that any of these answers is met
(`Scene.raises_of_answered`), and a fault that is met is how far the parse gets
(`Scene.attempt_of_raises`). The faults of the authorizer are a matter of its own; only what such a
fault raises when it has no words is met like any other.

`parse_reports_faults` says what becomes of it, in every scene and in both modes. The parse ends
with a failure that has no errors of fields: a rejection fails with its code, a failed authorization
with the fault behind it, and any other fault with itself. Only the last makes a warning, one, which
is about the fault and recorded under the scope of the parse. Without such a fault there is no
warning.

The words of the warning are the log's. It is the one place where a parse can raise anything: where
the log has no words for the fault, what it raises instead leaves the parse, and nothing else does.
-/

namespace Intake

namespace Scene

variable (scene : Scene) (scopes : List Scope) (config : Config) (needed : Payload) (mode : Mode)

/-- A fault that a parse without a callback meets before anybody is waited for, or that is raised
when a fault of the authorizer is put into words. -/
inductive Raises : Fault → Prop
  | call {e : Fault}
      (refused : checkCall config (scene.request []).isPresent needed = .error e) : Raises e
  | gathering {keys : List Payload} {e : Fault}
      (accepted : checkCall config (scene.request []).isPresent needed = .ok keys)
      (stopped : (scene.gathering scopes config none mode (config.alwaysParsed ++ keys)).value =
        .error (.fault e)) :
      Raises e
  | headers {keys : List Payload} {gathered : Gathered} {demand : Demand} {e : Fault}
      (accepted : checkCall config (scene.request []).isPresent needed = .ok keys)
      (collected : (scene.gathering scopes config none mode (config.alwaysParsed ++ keys)).value =
        .ok gathered)
      (complete : gathered.errors = []) (demanded : gathered.demand = some demand)
      (unread : (scene.request (scene.gathering scopes config none mode
        (config.alwaysParsed ++ keys)).events).read Section.headers.name = .error e) :
      Raises e
  | wording {keys : List Payload} {gathered : Gathered} {demand : Demand} {headers : Payload}
      {inner e : Fault}
      (accepted : checkCall config (scene.request []).isPresent needed = .ok keys)
      (collected : (scene.gathering scopes config none mode (config.alwaysParsed ++ keys)).value =
        .ok gathered)
      (complete : gathered.errors = []) (demanded : gathered.demand = some demand)
      (read : (((scene.around none).after (scene.gathering scopes config none mode
        (config.alwaysParsed ++ keys)).events) []).sectionPayload .headers = .ok headers)
      (answered : (((scene.around none).after (scene.gathering scopes config none mode
        (config.alwaysParsed ++ keys)).events) (consultingEvents (scene.opened scopes mode).head?
          config.authorizer (givenHeaders headers))).awaited (scene.opened scopes mode).head?
            config.authorizer (givenHeaders headers) = .error inner)
      (wordless : (scene.host []).log.Wordless demand.optional inner e) :
      Raises e

variable {scene scopes config needed mode}

/-- A fault that is met and is neither a rejection nor a failed authorization. -/
structure RaisesUnexpected (scene : Scene) (scopes : List Scope) (config : Config)
    (needed : Payload) (mode : Mode) (e : Fault) : Prop where
  met : scene.Raises scopes config needed mode e
  unrejected : ∀ r, e ≠ .rejection r
  unwrapped : ∀ inner, e ≠ .authFailure inner

theorem RaisesUnexpected.isUnexpected {e : Fault}
    (raises : scene.RaisesUnexpected scopes config needed mode e) : e.isUnexpected = true := by
  rcases e.sorted with ⟨r, rfl⟩ | ⟨inner, rfl⟩ | unexpected
  · exact absurd rfl (raises.unrejected r)
  · exact absurd rfl (raises.unwrapped inner)
  · exact unexpected

end Scene

/-- A sanitizer that raises a fault when it is called again: the parse fails with that fault. -/
example :
    let e : Fault := .raised .value (some "worn out")
    let config : Config :=
      ⟨.function ⟨"clean", 0, false⟩, [], .null, .ofList [], .bool true⟩
    let request : Request := .ofMembers [("body", .ok (.record [("a", .text "x")]))]
    let host (past : List Event) : Host :=
      ⟨⟨fun _ _ given => if past.length < 2 then .ok given else .error e, fun _ => 0,
        fun _ e => e.message⟩, .unset, ⟨0, ""⟩⟩
    let scene : Scene := ⟨host, fun _ => request⟩
    (scene.parseNow [] config (.list [.text "B*a", .text "B*a"])).value =
      .ok (.failure (.fault e) []) := by
  rfl

end Intake
