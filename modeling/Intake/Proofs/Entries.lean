import Intake.Proofs.Likeness
import Intake.Proofs.Sessions
import Intake.Proofs.Shelter

/-!
# Calling for a parse

Whoever waits for a parse gets its course. Whoever calls for one (`Host.callFor`) is handed its
ending where no loop is running, and a task where one is. `Host.callFor_outside` and
`Host.callFor_inside` say what is handed over; `Crew.progress_of_listed` says what becomes of a
task, in whatever company it is.

Where functions do not look at the scope that they are called in, it does not matter either in
which scopes a parse is called for, or when, or whether it is traced. `entries_agree` puts this
together.
-/

namespace Intake

/-! ## A job among others -/

/-- Among others a job does what is ahead of it as far as its turns go. With as many turns as it
needs, and not with fewer, it is finished, and then it has done all of it. -/
theorem Crew.progress_of_listed {α : Type} {crew : Crew α} {world : World} {job : Job α}
    {number : Nat} (order : List Nat) (listed : crew[number]? = some (world, job)) :
    let made := eventsOf number (crew.run order).1
    made <+: job.ahead world ∧
      ∃ last, (crew.run order).2[number]? = some (world, last) ∧
        ((∃ ending, last = .finished ending) ↔ job.turnsLeft world ≤ order.count number) ∧
        ∀ ending, last = .finished ending →
          made = job.ahead world ∧ ending = job.result world := by
  intro made
  obtain ⟨happened, last⟩ := run_of_listed order listed
  have ahead := Job.ahead_turns world (order.count number) job
  have result := Job.result_turns world (order.count number) job
  have left := Job.turnsLeft_turns world (order.count number) job
  refine ⟨⟨_, (congrArg (· ++ _) happened).trans ahead⟩, _, last, ?_, fun ending finished => ?_⟩
  · rw [← Nat.sub_eq_zero_iff_le, ← left, Job.turnsLeft_eq_zero_iff]
    apply Iff.intro
    · rintro ⟨ending, finished⟩
      rw [finished]
      rfl
    · exact fun finished => ⟨_, finished⟩
  · rw [finished] at ahead result
    rw [Job.ahead, List.append_nil] at ahead
    exact ⟨happened.trans ahead, result⟩

/-- A job that has had no turn has done nothing. -/
theorem Crew.eventsOf_of_noTurn {α : Type} {crew : Crew α} {world : World} {job : Job α}
    {number : Nat} (order : List Nat) (listed : crew[number]? = some (world, job))
    (noTurn : order.count number = 0) : eventsOf number (crew.run order).1 = [] := by
  obtain ⟨happened, -⟩ := run_of_listed order listed
  rw [happened, noTurn]
  rfl

/-! ## What is handed over -/

namespace Host

variable (host : Host) (scopes : List Scope) (config : Config) (call : Call)
  (callback : Option Callback)

/-- Outside of a loop a parse that is called for is carried out like one that is waited for. -/
theorem callFor_outside :
    host.callFor false scopes config call callback =
      let waited := host.parseWaiting scopes config call callback
      .ended waited.events waited.value := by
  have scheduled := host.parseScheduled_eq scopes config call callback
  simp only [callFor, scheduled]
  rfl

/-- Inside of a loop nothing has happened to it yet. -/
theorem callFor_inside :
    host.callFor true scopes config call callback =
      .task (host.world call.request callback) ⟨[], host.job scopes config call callback⟩ := rfl

end Host

/-- Whichever way a parse is called for, it asks the same, calls back in the same way and ends in
the same way as one that is waited for, with functions that do not look at the scope that they are
called in. Called for outside of a loop, it is handed over at its end. Called for inside, it is
handed over as a task, to which nothing happens ahead of its first turn; whatever company it is in,
it goes on from there as far as its turns go, and is finished with as many turns as it needs. -/
theorem entries_agree {host other : Host} (same : host.collaborators = other.collaborators)
    (plain : host.collaborators.Plain) (scopes inner : List Scope) (config : Config) (call : Call)
    (callback : Option Callback) :
    let waited := host.parseWaiting scopes config call callback
    let course := other.parseWaiting inner config call callback
    Event.queries course.events = Event.queries waited.events ∧ course.value = waited.value ∧
    other.callFor false inner config call callback = .ended course.events course.value ∧
    ∃ world job, other.callFor true inner config call callback = .task world ⟨[], job⟩ ∧
      ∀ crew : Crew (Except Fault Outcome), ∀ number order,
        crew[number]? = some (world, job) →
        let made := Crew.eventsOf number (crew.run order).1
        (order.count number = 0 → made = []) ∧ made <+: course.events ∧
        ∃ last, (crew.run order).2[number]? = some (world, last) ∧
          ((∃ ending, last = .finished ending) ↔ job.turnsLeft world ≤ order.count number) ∧
          ∀ ending, last = .finished ending →
            made = course.events ∧ ending = course.value := by
  intro waited course
  obtain ⟨queries, value⟩ := Host.parseWaiting_alike same plain scopes inner config call callback
  refine ⟨queries.symm, value.symm, other.callFor_outside inner config call callback, _, _,
    other.callFor_inside inner config call callback, fun crew number order listed => ?_⟩
  obtain ⟨begun, last, there, enough, whole⟩ := Crew.progress_of_listed order listed
  exact ⟨Crew.eventsOf_of_noTurn order listed, begun, last, there, enough, whole⟩

/-- A parse with an authorizer that pauses once is called for by somebody else, at another time and
in a scope, with a callback that fails. -/
theorem entries_agree_sample :
    let errand := sampleErrand 1 [.text "B*a", .text "A?"]
    let other : Host := { errand.host with clock := ⟨5, "ab"⟩ }
    let failing : Callback := fun _ => .error (.raised .value none)
    let inner := [⟨"outside", none⟩]
    let waited := errand.host.parseWaiting [] errand.config errand.call (some failing)
    errand.host.collaborators.Plain ∧ waited.value = .error (.raised .value none) ∧
      (∃ events, other.callFor false inner errand.config errand.call (some failing) =
        .ended events waited.value) ∧
      ∃ world job, other.callFor true inner errand.config errand.call (some failing) =
          .task world ⟨[], job⟩ ∧
        (Crew.run [(world, job)] [0, 0]).2[0]? = some (world, .finished waited.value) := by
  intro errand other failing inner waited
  have plain : errand.host.collaborators.Plain := fun _ _ _ _ => rfl
  have same : errand.host.collaborators = other.collaborators := rfl
  obtain ⟨-, value, outside, world, job, inside, onward⟩ := entries_agree same plain [] inner
    errand.config errand.call (some failing)
  refine ⟨plain, rfl, ⟨_, value ▸ outside⟩, world, job, inside, ?_⟩
  obtain ⟨-, -, last, there, enough, whole⟩ := onward [(world, job)] 0 [0, 0] rfl
  have turns : job.turnsLeft world = 2 := by
    cases inside
    decide +kernel
  obtain ⟨ending, finished⟩ := enough.2 (Nat.le_of_eq turns)
  obtain ⟨-, ended⟩ := whole ending finished
  rw [there, finished, ended, value]

end Intake
