import Intake.Proofs.Course

/-!
# Surroundings that change

A `World` answers the same query in the same way whenever it is asked. Collaborators need not: a
function may remember how often it was called, and a member of the request may be there once and be
a fault the next time. `Surroundings` are worlds that depend on everything that has happened so far,
and `Dialogue.runAmid` carries a dialogue out amid them. A statement about all surroundings is one
about all answers that a dialogue can ever get.

`Dialogue.runAmid_bind` splits the course of a continuation: the second dialogue is carried out amid
what the surroundings have become after the first. `Dialogue.runAmid_const` says that a world is the
case in which nothing changes. `Dialogue.Yields` says what can be told of the value that a dialogue
comes to, whatever it is answered.
-/

namespace Intake

/-- The surroundings of a dialogue: the world that it finds after everything that has happened. -/
abbrev Surroundings := List Event → World

/-- What surroundings have become after some events. -/
def Surroundings.after (around : Surroundings) (events : List Event) : Surroundings :=
  fun later => around (events ++ later)

@[simp] theorem Surroundings.after_nil (around : Surroundings) : around.after [] = around := rfl

@[simp] theorem Surroundings.after_after (around : Surroundings) (first second : List Event) :
    (around.after first).after second = around.after (first ++ second) := by
  funext later
  simp [Surroundings.after]

namespace Dialogue

variable {ε α β : Type} {around : Surroundings} {scopes opened : List Scope}
  {events : List Event}

/-- Carries out a dialogue amid surroundings, where some scopes are open. -/
def runAmid (around : Surroundings) (scopes : List Scope) : Dialogue α → Course α
  | .done a => ⟨[], scopes, a⟩
  | .note n rest =>
    let event := .recorded ⟨n, scopes.head?⟩
    (rest.runAmid (around.after [event]) scopes).after [event]
  | .enter operation rest => rest.runAmid around ((around []).opening operation :: scopes)
  | .leave rest => rest.runAmid around scopes.tail
  | .ask q resume =>
    let event := .asked q scopes.head?
    ((resume ((around []).answer scopes.head? q)).runAmid (around.after [event]) scopes).after
      [event]

/-- A world is surroundings that never change. -/
theorem runAmid_const (world : World) (scopes : List Scope) (d : Dialogue α) :
    d.runAmid (fun _ => world) scopes = d.run world scopes := by
  induction d generalizing scopes with
  | done a => rfl
  | note n rest ih => exact congrArg (Course.after _) (ih scopes)
  | enter operation rest ih => exact ih _
  | leave rest ih => exact ih scopes.tail
  | ask q resume ih => exact congrArg (Course.after _) (ih _ scopes)

/-- The course of a continuation: the second dialogue is carried out where the first left off, amid
what the surroundings have become by then. -/
theorem runAmid_bind (around : Surroundings) (scopes : List Scope) (d : Dialogue α)
    (next : α → Dialogue β) :
    (d >>= next).runAmid around scopes =
      let first := d.runAmid around scopes
      ((next first.value).runAmid (around.after first.events) first.scopes).after
        first.events := by
  induction d generalizing around scopes with
  | done a => rfl
  | note n rest ih =>
    rw [bind_note, runAmid, ih]
    simp [runAmid, Course.after]
  | enter operation rest ih =>
    rw [bind_enter, runAmid, ih]
    simp [runAmid]
  | leave rest ih =>
    rw [bind_leave, runAmid, ih]
    simp [runAmid]
  | ask q resume ih =>
    rw [bind_ask, runAmid, ih]
    simp [runAmid, Course.after]

/-! ## Dialogues that can fail -/

theorem runAmid_pure (a : α) :
    (pure a : ExceptT ε Dialogue α).run.runAmid around scopes = ⟨[], scopes, .ok a⟩ := rfl

/-- After a value the continuation is carried out, amid what the surroundings have become. -/
theorem runAmid_bind_of_ok {first : ExceptT ε Dialogue α} {a : α}
    (course : first.run.runAmid around scopes = ⟨events, opened, .ok a⟩)
    (next : α → ExceptT ε Dialogue β) :
    (first >>= next).run.runAmid around scopes =
      ((next a).run.runAmid (around.after events) opened).after events := by
  rw [ExceptT.run_bind, runAmid_bind, course]

/-- After a failure nothing else happens. -/
theorem runAmid_bind_of_error {first : ExceptT ε Dialogue α} {e : ε}
    (course : first.run.runAmid around scopes = ⟨events, opened, .error e⟩)
    (next : α → ExceptT ε Dialogue β) :
    (first >>= next).run.runAmid around scopes = ⟨events, opened, .error e⟩ := by
  rw [ExceptT.run_bind, runAmid_bind, course]
  simp [runAmid]

/-- A value that a dialogue comes to can be replaced by what is computed from it. -/
theorem runAmid_map_of_eq {first : ExceptT ε Dialogue α} {ending : Except ε α}
    (course : first.run.runAmid around scopes = ⟨events, opened, ending⟩) (f : α → β) :
    (do let a ← first; pure (f a)).run.runAmid around scopes = ⟨events, opened, ending.map f⟩ := by
  cases ending with
  | ok a => rw [runAmid_bind_of_ok course, runAmid_pure, Course.after_mk, List.append_nil]; rfl
  | error e => rw [runAmid_bind_of_error course]; rfl

/-- Whatever it is answered, a dialogue that comes to a value comes to one of a kind. -/
def Yields (kind : α → Prop) (d : ExceptT ε Dialogue α) : Prop :=
  ∀ around scopes a, (d.run.runAmid around scopes).value = .ok a → kind a

namespace Yields

variable {kind earlier : α → Prop} {later : β → Prop}

theorem pure {a : α} (fits : kind a) : Yields kind (Pure.pure a : ExceptT ε Dialogue α) := by
  intro around scopes found ended
  cases ended
  exact fits

theorem throw (e : ε) : Yields kind (MonadExcept.throw e : ExceptT ε Dialogue α) := by
  intro around scopes found ended
  cases ended

/-- What a continuation yields can be told from what the first dialogue yields. -/
theorem bind {first : ExceptT ε Dialogue α} {next : α → ExceptT ε Dialogue β}
    (ahead : Yields earlier first) (second : ∀ a, earlier a → Yields later (next a)) :
    Yields later (first >>= next) := by
  intro around scopes b ended
  cases course : first.run.runAmid around scopes with
  | mk events opened ending =>
    cases ending with
    | ok a =>
      have reached : earlier a := ahead around scopes a (congrArg Course.value course)
      rw [runAmid_bind_of_ok course] at ended
      exact second a reached _ _ b ended
    | error e =>
      rw [runAmid_bind_of_error course] at ended
      cases ended

/-- Nothing need be known of the first dialogue if every continuation yields alike. -/
theorem bind_any {first : ExceptT ε Dialogue α} {next : α → ExceptT ε Dialogue β}
    (second : ∀ a, Yields later (next a)) : Yields later (first >>= next) := by
  have any : Yields (fun _ => True) first := fun _ _ _ _ => trivial
  exact any.bind fun a _ => second a

/-- Where a continuation comes to a value, the first dialogue has come to one. -/
theorem of_bind {related : α → β → Prop} {first : ExceptT ε Dialogue α}
    {next : α → ExceptT ε Dialogue β} (second : ∀ a, Yields (related a) (next a)) {b : β}
    (ended : ((first >>= next).run.runAmid around scopes).value = .ok b) :
    ∃ a, (first.run.runAmid around scopes).value = .ok a ∧ related a b := by
  cases course : first.run.runAmid around scopes with
  | mk events opened ending =>
    cases ending with
    | ok a =>
      rw [runAmid_bind_of_ok course] at ended
      exact ⟨a, rfl, second a _ _ b ended⟩
    | error e =>
      rw [runAmid_bind_of_error course] at ended
      cases ended

end Yields

end Dialogue

end Intake
