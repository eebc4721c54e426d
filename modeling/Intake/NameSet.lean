/-!
Finite sets of names, kept in increasing order without repetition, so that equal sets are equal
values.
-/

namespace Intake

/-- Inserts a name into an increasing list, unless it is there. -/
def insertName (name : String) : List String → List String
  | [] => [name]
  | other :: rest =>
    if name < other then name :: other :: rest
    else if other < name then other :: insertName name rest
    else other :: rest

theorem mem_insertName {name other : String} {names : List String} :
    other ∈ insertName name names ↔ other = name ∨ other ∈ names := by
  induction names with
  | nil => simp [insertName]
  | cons first rest ih =>
    by_cases before : name < first
    · simp [insertName, before]
    · by_cases after : first < name
      · simp only [insertName, if_neg before, if_pos after, List.mem_cons, ih]
        constructor
        · rintro (h | h | h)
          · exact Or.inr (Or.inl h)
          · exact Or.inl h
          · exact Or.inr (Or.inr h)
        · rintro (h | h | h)
          · exact Or.inr (Or.inl h)
          · exact Or.inl h
          · exact Or.inr (Or.inr h)
      · have same : name = first :=
          String.le_antisymm (String.not_lt.1 after) (String.not_lt.1 before)
        simp [insertName, same]

theorem pairwise_insertName {name : String} {names : List String}
    (increasing : names.Pairwise (· < ·)) : (insertName name names).Pairwise (· < ·) := by
  induction names with
  | nil => simp [insertName]
  | cons first rest ih =>
    obtain ⟨least, tail⟩ := List.pairwise_cons.1 increasing
    by_cases before : name < first
    · rw [insertName, if_pos before]
      refine List.pairwise_cons.2 ⟨fun other member => ?_, increasing⟩
      rcases List.mem_cons.1 member with rfl | member
      · exact before
      · exact String.lt_trans before (least other member)
    · by_cases after : first < name
      · rw [insertName, if_neg before, if_pos after]
        refine List.pairwise_cons.2 ⟨fun other member => ?_, ih tail⟩
        rcases mem_insertName.1 member with rfl | member
        · exact after
        · exact least other member
      · rw [insertName, if_neg before, if_neg after]
        exact increasing

/-- A set of names. -/
structure NameSet where
  toList : List String
  increasing : toList.Pairwise (· < ·)

namespace NameSet

instance : Repr NameSet := ⟨fun names depth => reprPrec names.toList depth⟩

/-- The set without names. -/
def empty : NameSet := ⟨[], List.Pairwise.nil⟩

/-- Adds a name. -/
def insert (name : String) (names : NameSet) : NameSet :=
  ⟨insertName name names.toList, pairwise_insertName names.increasing⟩

/-- The set of the listed names. -/
def ofList (names : List String) : NameSet :=
  names.foldr insert empty

/-- Whether a name is in the set. -/
def contains (names : NameSet) (name : String) : Bool :=
  names.toList.contains name

@[simp] theorem toList_insert (name : String) (names : NameSet) :
    (names.insert name).toList = insertName name names.toList := rfl

theorem mem_toList_ofList {name : String} {names : List String} :
    name ∈ (ofList names).toList ↔ name ∈ names := by
  induction names with
  | nil => simp [ofList, empty]
  | cons first rest ih =>
    rw [ofList, List.foldr_cons, toList_insert, mem_insertName, List.mem_cons, ← ih, ofList]

end NameSet

end Intake
