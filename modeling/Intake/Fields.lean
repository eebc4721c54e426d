/-!
Named fields in the order in which they were first stored. Storing under a name that is taken
replaces the value and keeps the place.

`Fields.get?_put` says what a field holds after another one has been stored, and `Fields.names_put`
says where a new name goes.
-/

namespace Intake

/-- Named values; a name stands at most once in what `Fields.put` builds. -/
abbrev Fields (α : Type) := List (String × α)

namespace Fields

variable {α : Type}

/-- The value stored under a name. -/
def get? (fields : Fields α) (name : String) : Option α :=
  fields.lookup name

/-- The names, in order. -/
def names (fields : Fields α) : List String :=
  fields.map (·.1)

/-- Stores a value under a name. -/
def put (name : String) (value : α) : Fields α → Fields α
  | [] => [(name, value)]
  | (other, old) :: rest =>
    if other = name then (name, value) :: rest else (other, old) :: put name value rest

/-- The fields that result from storing the given ones one after the other. -/
def ofPairs (pairs : List (String × α)) : Fields α :=
  pairs.foldl (fun fields (name, value) => fields.put name value) []

@[simp] theorem get?_nil (name : String) : get? ([] : Fields α) name = none := rfl

theorem get?_cons (name other : String) (value : α) (rest : Fields α) :
    get? ((other, value) :: rest) name = if other = name then some value else get? rest name := by
  simp only [get?, List.lookup_cons]
  by_cases same : other = name
  · simp [same]
  · have differ : (name == other) = false := beq_eq_false_iff_ne.2 fun h => same h.symm
    simp [same, differ]

/-- A stored value is found under its name, and no other name is affected. -/
theorem get?_put (fields : Fields α) (name other : String) (value : α) :
    (fields.put name value).get? other =
      if name = other then some value else fields.get? other := by
  induction fields with
  | nil => rw [put, get?_cons]
  | cons first rest ih =>
    obtain ⟨key, old⟩ := first
    by_cases same : key = name
    · subst same
      rw [put, if_pos rfl, get?_cons, get?_cons]
      by_cases found : key = other <;> simp [found]
    · rw [put, if_neg same, get?_cons, get?_cons, ih]
      by_cases found : key = other
      · have differ : ¬ name = other := fun h => same (found.trans h.symm)
        simp [found, differ]
      · simp [found]

/-- A name is new exactly when it is not stored yet, and a new name goes to the end. -/
theorem names_put (fields : Fields α) (name : String) (value : α) :
    (fields.put name value).names =
      if name ∈ fields.names then fields.names else fields.names ++ [name] := by
  induction fields with
  | nil => simp [put, names]
  | cons first rest ih =>
    obtain ⟨key, old⟩ := first
    by_cases same : key = name
    · simp [put, names, same]
    · have differ : ¬ name = key := fun h => same h.symm
      have step : names ((key, old) :: put name value rest) = key :: names (put name value rest) :=
        rfl
      rw [put, if_neg same, step, ih]
      by_cases stored : name ∈ names rest <;> simp_all [names]

end Fields

end Intake
