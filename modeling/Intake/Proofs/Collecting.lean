import Intake.Proofs.Modes
import Intake.Proofs.Sanitizing
import Mathlib.Data.List.Forall2

/-!
# What a list of keys collects

Two lists of keys that have something to do with each other are compared by what they come to.
`Host.collected` is what gathering the list of a call comes to, and `Host.collected_eq` says that
this is the outcome of the verdicts on its keys. For a comparison it is then enough to know whether
the verdicts stop at the same place (`Verdict.outcome_of_stops`), and what is found under each name:
the last value that was stored there (`Verdict.get?_extraction`).

A parse succeeds if its list is collected without an error and, where the principal is demanded, one
is found (`World.attemptEnding_eq_success_iff`).
-/

namespace Intake

/-! ## Lists that are related item by item -/

section Related

variable {α β γ : Type} {related : α → β → Prop} {items : List α} {others : List β}

theorem map_eq_of_related {f : α → γ} {g : β → γ} (step : ∀ a b, related a b → f a = g b)
    (pairs : List.Forall₂ related items others) : items.map f = others.map g := by
  induction pairs with
  | nil => rfl
  | cons first _ ih => rw [List.map_cons, List.map_cons, step _ _ first, ih]

theorem filterMap_eq_of_map_eq {f : α → Option γ} {g : β → Option γ}
    (same : items.map f = others.map g) : items.filterMap f = others.filterMap g := by
  have selected := congrArg (List.filterMap id) same
  rwa [List.filterMap_map, List.filterMap_map] at selected

theorem getElem?_bind_of_map_eq {f : α → Option γ} {g : β → Option γ}
    (same : items.map f = others.map g) (position : Nat) :
    items[position]?.bind f = others[position]?.bind g := by
  have here := congrArg (fun selected => selected[position]?.join) same
  simpa only [List.getElem?_map, ← Option.bind_id_eq_join, Option.bind_map,
    Function.id_comp] using here

/-- What is selected on one side is selected, in order, on the other one as well. -/
theorem filterMap_sublist_of_related {f : α → Option γ} {g : β → Option γ}
    (step : ∀ a b, related a b → f a = none ∨ f a = g b)
    (pairs : List.Forall₂ related items others) :
    (items.filterMap f).Sublist (others.filterMap g) := by
  induction pairs with
  | nil => exact .slnil
  | @cons a b _ rest first _ ih =>
    rcases step a b first with nothing | same
    · rw [List.filterMap_cons_none nothing]
      exact ih.trans (List.Sublist.filterMap g (List.sublist_cons_self b rest))
    · rw [List.filterMap_cons, List.filterMap_cons, same]
      cases g b with
      | none => exact ih
      | some c => exact ih.cons_cons c

/-- A selection that only one position has a say in. -/
theorem filterMap_eq_of_only {f : α → Option γ} {position : Nat}
    (only : ∀ other a, items[other]? = some a → f a ≠ none → other = position) :
    items.filterMap f = (items[position]?.bind f).toList := by
  induction items generalizing position with
  | nil => rfl
  | cons a rest ih =>
    cases position with
    | zero =>
      have nothing : rest.filterMap f = [] := by
        refine List.filterMap_eq_nil_iff.2 fun b listed => ?_
        obtain ⟨other, here⟩ := List.mem_iff_getElem?.1 listed
        by_contra something
        exact absurd (only (other + 1) b here something) (Nat.succ_ne_zero other)
      rw [List.filterMap_cons, nothing]
      cases here : f a <;> simp [here]
    | succ position =>
      have nothing : f a = none := by
        by_contra something
        exact absurd (only 0 a rfl something) (Nat.succ_ne_zero position).symm
      rw [List.filterMap_cons_none nothing, List.getElem?_cons_succ]
      exact ih fun other b here something =>
        Nat.succ.inj (only (other + 1) b here something)

/-- The last items are related, if there are any. -/
theorem getLast?_of_related (pairs : List.Forall₂ related items others) :
    Option.Rel related items.getLast? others.getLast? := by
  have backwards := List.forall₂_reverse_iff.2 pairs
  rw [List.getLast?_eq_head?_reverse, List.getLast?_eq_head?_reverse]
  generalize items.reverse = first, others.reverse = second at backwards
  cases backwards with
  | nil => exact .none
  | cons last _ => exact .some last

end Related

/-! ## Fields that are stored one after the other -/

namespace Fields

variable {α : Type}

theorem ofPairs_concat (pairs : List (String × α)) (pair : String × α) :
    ofPairs (pairs ++ [pair]) = (ofPairs pairs).put pair.1 pair.2 := by
  simp [ofPairs]

/-- What is found under a name is the last value that was stored there. -/
theorem get?_ofPairs (pairs : List (String × α)) (name : String) :
    (ofPairs pairs).get? name =
      (pairs.filterMap fun pair => if pair.1 = name then some pair.2 else none).getLast? := by
  induction pairs using List.reverseRecOn with
  | nil => rfl
  | append_singleton pairs pair ih =>
    rw [ofPairs_concat, get?_put, ih, List.filterMap_append]
    by_cases found : pair.1 = name <;> simp [found]

/-- Which names there are, and in which order, has nothing to do with the values. -/
theorem names_ofPairs (pairs : List (String × α)) :
    (ofPairs pairs).names = (ofPairs (pairs.map fun pair => (pair.1, ()))).names := by
  induction pairs using List.reverseRecOn with
  | nil => rfl
  | append_singleton pairs pair ih =>
    rw [List.map_append, List.map_singleton, ofPairs_concat, ofPairs_concat, names_put, names_put,
      ih]

end Fields

/-! ## Verdicts -/

namespace Verdict

variable {verdicts others : List Verdict}

/-- The value that is stored under a name of a section, if one is. -/
def storedAt? (s : Section) (name : String) : Verdict → Option Payload
  | .stored other field value => if other = s ∧ field = name then some value else none
  | _ => none

theorem storedAt?_stored (s other : Section) (name field : String) (value : Payload) :
    (stored other field value).storedAt? s name =
      if other = s ∧ field = name then some value else none := rfl

theorem storedAt?_eq_some_iff {verdict : Verdict} {s : Section} {name : String} {value : Payload} :
    verdict.storedAt? s name = some value ↔ verdict = .stored s name value := by
  cases verdict with
  | stored other field found =>
    simp only [storedAt?, Option.ite_none_right_eq_some, Option.some.injEq, stored.injEq, and_assoc]
  | _ => simp [storedAt?]

theorem get_extraction (verdicts : List Verdict) (s : Section) :
    (extraction verdicts).get s = Fields.ofPairs (verdicts.filterMap (stored? s)) := by
  cases s <;> rfl

/-- What is found under a name is the last value that a verdict stores there. -/
theorem get?_extraction (verdicts : List Verdict) (s : Section) (name : String) :
    ((extraction verdicts).get s).get? name =
      (verdicts.filterMap (storedAt? s name)).getLast? := by
  have single : ∀ verdict : Verdict,
      ((stored? s verdict).bind fun pair => if pair.1 = name then some pair.2 else none) =
        storedAt? s name verdict := by
    intro verdict
    cases verdict with
    | stored other field value =>
      by_cases inside : other = s <;> simp [stored?, storedAt?, inside]
    | _ => rfl
  rw [get_extraction, Fields.get?_ofPairs, List.filterMap_filterMap]
  simp only [single]

/-- What is stored is the same if it is the same in every section. -/
theorem extraction_congr
    (same : ∀ s, verdicts.filterMap (stored? s) = others.filterMap (stored? s)) :
    extraction verdicts = extraction others := by
  simp only [extraction, same]

/-- Verdicts that stop at the same place, if they do, come to an outcome of the same sort. -/
theorem outcome_of_stops (stops : verdicts.map stop? = others.map stop?) :
    (∃ stop, outcome verdicts = .error stop ∧ outcome others = .error stop) ∨
      outcome verdicts = .ok (gathered verdicts) ∧ outcome others = .ok (gathered others) := by
  have first : others.findSome? stop? = verdicts.findSome? stop? := by
    have found := congrArg (List.findSome? id) stops
    rw [List.findSome?_map, List.findSome?_map] at found
    exact found.symm
  unfold outcome
  rw [first]
  cases verdicts.findSome? stop? with
  | some stop => exact .inl ⟨stop, rfl, rfl⟩
  | none => exact .inr ⟨rfl, rfl⟩

end Verdict

/-! ## The reading of a field, and its verdict -/

namespace Reading

theorem ofCharacters_field (config : Config) (mode : Mode) (key : String) (s : Section)
    (rest : List Char) :
    ofCharacters config mode key ((Source.field s).letter :: rest) =
      if rest.head? = some '*' ∧ ¬ config.canSanitize then .unmet .sanitizerNotSet
      else
        .field s (rest.head? == some '*') (rest.getLast? == some '?')
          (String.ofList (nameIn rest)) := by
  have other : (Source.field s).letter ≠ 'A' := by cases s <;> decide
  have named : sectionOf? (Source.field s).letter = some s := by cases s <;> rfl
  rw [ofCharacters_other config mode key other, named]

variable {world : World} {scope : Option Scope} {config : Config} {s : Section} {name : String}
  {sanitize optional : Bool}

theorem verdict_of_unread {e : Fault} (entry : world.entry s (lookupName s name) = .error e) :
    (field s sanitize optional name).verdict world scope config = .stopped (.fault e) := by
  simp only [verdict, World.fieldValue, entry]

theorem verdict_of_sectionless (entry : world.entry s (lookupName s name) = .ok none) :
    (field s sanitize optional name).verdict world scope config = .refused (.missing s name) := by
  simp only [verdict, World.fieldValue, entry]

theorem verdict_of_missing (entry : world.entry s (lookupName s name) = .ok (some none)) :
    (field s sanitize optional name).verdict world scope config =
      if optional then .stored s name .null else .refused (.missing s name) := by
  cases optional <;> simp [verdict, World.fieldValue, entry]

theorem verdict_of_value {value : Payload}
    (entry : world.entry s (lookupName s name) = .ok (some (some value))) :
    (field s sanitize optional name).verdict world scope config =
      match world.cleaned scope config sanitize value with
      | .error e => .stopped (.fault e)
      | .ok clean => .stored s name clean := by
  simp only [verdict, World.fieldValue, entry]
  cases world.cleaned scope config sanitize value <;> rfl

/-- A value is stored only by a field, under its name. -/
theorem eq_field_of_stored {reading : Reading} {value : Payload}
    (stored : reading.verdict world scope config = .stored s name value) :
    ∃ sanitize optional, reading = .field s sanitize optional name := by
  cases reading with
  | field other sanitize optional field =>
    simp only [verdict] at stored
    cases looked : world.fieldValue scope config other (lookupName other field) sanitize
        optional with
    | error e => rw [looked] at stored; cases stored
    | ok found => rw [looked] at stored; cases found <;> cases stored; exact ⟨_, _, rfl⟩
  | _ => cases stored

end Reading

/-! ## Lists -/

theorem Dialogue.run_gatherFrom (world : World) (scopes : List Scope) (config : Config)
    (mode : Mode) (tracing : Bool) {needed : Payload} {keys : List Payload}
    (listed : needed.sequence? = some keys) :
    (gatherFrom config mode tracing needed).run.run world scopes =
      ⟨world.gatherEvents scopes.head? config mode tracing (config.alwaysParsed ++ keys), scopes,
        world.gathering scopes.head? config mode (config.alwaysParsed ++ keys)⟩ := by
  rw [gatherFrom, joinedKeys, elements?_of_sequence? listed]
  exact run_gather world scopes config mode tracing _

/-- What gathering the list of a call comes to, where some scopes are open. -/
def Host.collected (host : Host) (scopes : List Scope) (config : Config) (mode : Mode)
    (call : Call) : Except Stop Gathered :=
  ((gatherFrom config mode host.environment.debugging call.needed).run.run
    (host.world call.request none) scopes).value

theorem Host.collected_eq (host : Host) (request : Request) (scopes : List Scope)
    (config : Config) (mode : Mode) {needed : Payload} {keys : List Payload}
    (listed : needed.sequence? = some keys) :
    host.collected scopes config mode ⟨request, needed⟩ =
      (host.world request none).gathering scopes.head? config mode
        (config.alwaysParsed ++ keys) := by
  rw [collected, Dialogue.run_gatherFrom _ _ _ _ _ listed]

/-- What is always carried out is the same on both sides. -/
theorem forall₂_joined {related : Payload → Payload → Prop} (same : ∀ key, related key key)
    (config : Config) {keys others : List Payload} (pairs : List.Forall₂ related keys others) :
    List.Forall₂ related (config.alwaysParsed ++ keys) (config.alwaysParsed ++ others) :=
  List.rel_append (List.forall₂_same.2 fun key _ => same key) pairs

/-- Verdicts are related if the keys are, and if the verdicts on their readings are. -/
theorem World.forall₂_verdictOf (world : World) (scope : Option Scope) (config : Config)
    (mode : Mode) {related : Payload → Payload → Prop} {compared : Verdict → Verdict → Prop}
    (step : ∀ key other, related key other →
      compared ((Reading.ofKey config mode key).verdict world scope config)
        ((Reading.ofKey config mode other).verdict world scope config))
    {keys others : List Payload} (pairs : List.Forall₂ related keys others) :
    List.Forall₂ compared (keys.map (world.verdictOf scope config mode))
      (others.map (world.verdictOf scope config mode)) := by
  rw [List.forall₂_map_left_iff, List.forall₂_map_right_iff]
  refine pairs.imp fun key other related => ?_
  rw [verdictOf_eq, verdictOf_eq]
  exact step key other related

/-- Every value that a list stores under a name is stored there by one of its keys. -/
theorem World.exists_key_of_stored {world : World} {scope : Option Scope} {config : Config}
    {mode : Mode} {keys : List Payload} {s : Section} {name : String} {value : Payload}
    (found : value ∈ (keys.map (world.verdictOf scope config mode)).filterMap
      (Verdict.storedAt? s name)) :
    ∃ key ∈ keys, world.verdictOf scope config mode key = .stored s name value := by
  obtain ⟨verdict, judged, here⟩ := List.mem_filterMap.1 found
  obtain ⟨key, listed, rfl⟩ := List.mem_map.1 judged
  exact ⟨key, listed, Verdict.storedAt?_eq_some_iff.1 here⟩

/-! ## Sanitizers that compute a function -/

/-- The sanitizer of a configuration computes a function: called with a value, in whatever scope, it
answers what the function has for the value. -/
def World.CleansBy (world : World) (config : Config) (clean : Payload → Payload) : Prop :=
  ∀ scopes value,
    ((Action.call config.sanitizer value).run.run world scopes).value = .ok (clean value)

namespace World.CleansBy

variable {world : World} {config : Config} {clean : Payload → Payload}
  (cleans : world.CleansBy config clean)

include cleans

theorem sanitized_eq (scope : Option Scope) (value : Payload) :
    world.sanitized scope config value = .ok (clean value) := by
  have answered := cleans scope.toList value
  rw [← answered]
  unfold World.sanitized
  cases config.sanitizer with
  | function f => cases scope <;> simp [Action.call, Action.run_query, World.answer]
  | _ => rfl

theorem canSanitize_eq : config.canSanitize = true := by
  have answered := cleans.sanitized_eq none .null
  unfold World.sanitized at answered
  unfold Config.canSanitize
  cases sanitizer : config.sanitizer with
  | function f => rfl
  | _ => rw [sanitizer] at answered; cases answered

theorem cleaned_eq (scope : Option Scope) (sanitize : Bool) (value : Payload) :
    world.cleaned scope config sanitize value =
      .ok (if sanitize && !config.leavesAlone value then clean value else value) := by
  by_cases marked : (sanitize && !config.leavesAlone value) = true
  · rw [if_pos marked, ← cleans.sanitized_eq scope value]
    exact world.cleaned_of_due scope config marked
  · rw [if_neg marked]
    exact if_neg marked

end World.CleansBy

/-! ## Parses that succeed -/

/-- What a parse provides where its list has been gathered without an error. -/
def World.provided (world : World) (scope : Option Scope) (config : Config) (log : Log)
    (gathered : Gathered) : Except Fault Extraction :=
  match gathered.demand with
  | none => .ok gathered.result
  | some demand =>
    (world.principal scope config log demand.optional).map fun principal =>
      { gathered.result with authorization := principal }

namespace World

variable {world : World} {scope : Option Scope} {config : Config} {log : Log}

/-- What is provided are the fields, with the principal if it is demanded. -/
theorem provided_eq_ok_iff {gathered : Gathered} {result : Extraction} :
    world.provided scope config log gathered = .ok result ↔
      gathered.demand = none ∧ gathered.result = result ∨
        ∃ demand principal, gathered.demand = some demand ∧
          world.principal scope config log demand.optional = .ok principal ∧
          { gathered.result with authorization := principal } = result := by
  unfold provided
  cases gathered.demand with
  | none => simp
  | some demand =>
    dsimp only
    cases found : world.principal scope config log demand.optional <;> simp [Except.map, found]

theorem finish_eq_success_iff {gathered : Gathered} (clean : gathered.errors = [])
    {result : Extraction} :
    world.finish scope config log (.ok gathered) = .ok (.success result) ↔
      world.provided scope config log gathered = .ok result := by
  simp only [finish, provided, clean, List.isEmpty_nil, if_true]
  cases gathered.demand with
  | none => simp
  | some demand =>
    dsimp only
    cases world.principal scope config log demand.optional <;> simp [Except.map]

/-- When a parse of a list succeeds, and with what. -/
theorem attemptEnding_eq_success_iff {mode : Mode} {hasRequest : Bool} {needed : Payload}
    {keys : List Payload} (listed : needed.sequence? = some keys) {result : Extraction} :
    world.attemptEnding scope config mode log hasRequest needed = .ok (.success result) ↔
      ∃ gathered, checkCall config hasRequest needed = .ok keys ∧
        world.gathering scope config mode (config.alwaysParsed ++ keys) = .ok gathered ∧
        gathered.errors = [] ∧ world.provided scope config log gathered = .ok result := by
  constructor
  · intro succeeds
    obtain ⟨found, gathered, checked, collected, clean, -⟩ := gathering_of_success succeeds
    obtain rfl : found = keys :=
      Option.some.inj ((checkCall_eq_ok_iff.1 checked).1.symm.trans listed)
    rw [attemptEnding_of_ok _ _ _ _ checked, collected] at succeeds
    exact ⟨gathered, checked, collected, clean, (finish_eq_success_iff clean).1 succeeds⟩
  · rintro ⟨gathered, checked, collected, clean, provided⟩
    rw [attemptEnding_of_ok _ _ _ _ checked, collected]
    exact (finish_eq_success_iff clean).2 provided

end World

end Intake
