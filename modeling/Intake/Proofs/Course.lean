import Intake.World

/-!
# Courses of dialogues that can fail

`Dialogue.run_bind` splits the course of any continuation. Most steps of a parse are dialogues that
end with a value or with a failure, and there the continuation is taken up only after a value. The
two lemmas `Dialogue.run_bind_of_ok` and `Dialogue.run_bind_of_error` say so for the course as a
whole: its events, its scopes and its ending. With them a step is walked through by stating what its
first part comes to.
-/

namespace Intake

/-! ## Events ahead of a course -/

@[simp] theorem Course.after_events {α : Type} (events : List Event) (course : Course α) :
    (course.after events).events = events ++ course.events := rfl

@[simp] theorem Course.after_scopes {α : Type} (events : List Event) (course : Course α) :
    (course.after events).scopes = course.scopes := rfl

@[simp] theorem Course.after_value {α : Type} (events : List Event) (course : Course α) :
    (course.after events).value = course.value := rfl

@[simp] theorem Course.after_mk {α : Type} (events later : List Event) (scopes : List Scope)
    (a : α) : Course.after events ⟨later, scopes, a⟩ = ⟨events ++ later, scopes, a⟩ := rfl

@[simp] theorem Course.after_nil {α : Type} (course : Course α) : course.after [] = course := rfl

/-! ## Continuations -/

namespace Dialogue

variable {ε α β : Type} {world : World} {scopes opened : List Scope} {events : List Event}

@[simp] theorem run_done (a : α) : (done a).run world scopes = ⟨[], scopes, a⟩ := rfl

theorem run_pure (a : α) :
    (pure a : ExceptT ε Dialogue α).run.run world scopes = ⟨[], scopes, .ok a⟩ := rfl

theorem run_mk_pure (ending : Except ε α) :
    (ExceptT.mk (pure ending) : ExceptT ε Dialogue α).run.run world scopes =
      ⟨[], scopes, ending⟩ := rfl

/-- After a value the continuation is carried out, where the first dialogue left off. -/
theorem run_bind_of_ok {first : ExceptT ε Dialogue α} {a : α}
    (course : first.run.run world scopes = ⟨events, opened, .ok a⟩)
    (next : α → ExceptT ε Dialogue β) :
    (first >>= next).run.run world scopes = ((next a).run.run world opened).after events := by
  rw [ExceptT.run_bind, run_bind, course]

/-- After a failure nothing else happens. -/
theorem run_bind_of_error {first : ExceptT ε Dialogue α} {e : ε}
    (course : first.run.run world scopes = ⟨events, opened, .error e⟩)
    (next : α → ExceptT ε Dialogue β) :
    (first >>= next).run.run world scopes = ⟨events, opened, .error e⟩ := by
  rw [ExceptT.run_bind, run_bind, course]
  simp

/-- A value that a dialogue comes to can be replaced by what is computed from it. -/
theorem run_map_of_eq {first : ExceptT ε Dialogue α} {ending : Except ε α}
    (course : first.run.run world scopes = ⟨events, opened, ending⟩) (f : α → β) :
    (f <$> first).run.run world scopes = ⟨events, opened, f <$> ending⟩ := by
  cases ending with
  | ok a =>
    rw [map_eq_pure_bind, run_bind_of_ok course, run_pure, Course.after_mk, List.append_nil]
    rfl
  | error e =>
    rw [map_eq_pure_bind, run_bind_of_error course]
    rfl

/-- A dialogue that cannot fail, in place of one that can. -/
theorem run_lift (d : Dialogue α) :
    (ExceptT.lift d : ExceptT ε Dialogue α).run.run world scopes =
      ⟨(d.run world scopes).events, (d.run world scopes).scopes,
        .ok (d.run world scopes).value⟩ := by
  rw [ExceptT.run_lift, map_eq_pure_bind, run_bind]
  simp [Course.after]

end Dialogue

namespace Action

variable {α : Type} {world : World} {scopes opened : List Scope} {events : List Event}

/-- A query is one event, and its answer is how the action ends. -/
theorem run_query (world : World) (scopes : List Scope) (q : Query) :
    (query q).run.run world scopes =
      ⟨[.asked q scopes.head?], scopes, world.answer scopes.head? q⟩ := rfl

/-- What an action ends with is observed as a value. -/
theorem run_observe {action : Action α} {ending : Except Fault α}
    (course : action.run.run world scopes = ⟨events, opened, ending⟩) :
    (observe action).run.run world scopes = ⟨events, opened, .ok ending⟩ := by
  rw [observe, Dialogue.run_lift, course]

end Action

end Intake
