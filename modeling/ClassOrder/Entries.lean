/-!
# Ordered entries

A mapping from names to values remembers the order in which its names first
appeared. Writing a name that is present replaces its value and leaves its place;
a new name goes to the end. So a name that is written twice has the place of the
first writing and the value of the last. Most names are texts; whatever can be
compared may be a name.
-/
namespace ClassOrder

/-- The entries of a mapping in the order of their names' first appearance. -/
abbrev Entries (α : Type) := List (String × α)

namespace Entries

variable {Name α : Type}

/-- The value stored under a name. -/
def get? [BEq Name] (entries : List (Name × α)) (name : Name) : Option α :=
  List.lookup name entries

/-- Whether a name has a value. -/
def contains [BEq Name] (entries : List (Name × α)) (name : Name) : Bool :=
  (get? entries name).isSome

/-- The names in order. -/
def names (entries : List (Name × α)) : List Name :=
  entries.map Prod.fst

/-- The values in the order of their names. -/
def values (entries : List (Name × α)) : List α :=
  entries.map Prod.snd

/-- Writes a value under a name: in place when the name is present, at the end
otherwise. -/
def insert [BEq Name] : List (Name × α) → Name → α → List (Name × α)
  | [], name, value => [(name, value)]
  | (first, old) :: rest, name, value =>
    if first == name then (first, value) :: rest else (first, old) :: insert rest name value

/-- Writing under a present name leaves the names as they are, and a new name goes to the
end. -/
theorem names_insert [BEq Name] (entries : List (Name × α)) (name : Name) (value : α) :
    names (insert entries name value) =
      if (names entries).any (· == name) then names entries else names entries ++ [name] := by
  induction entries with
  | nil => rfl
  | cons entry rest inductionHypothesis =>
    obtain ⟨first, old⟩ := entry
    by_cases present : (first == name) = true
    · simp [insert, names, present]
    · by_cases elsewhere : (names rest).any (· == name) = true
      · rw [if_pos elsewhere] at inductionHypothesis
        simp only [names] at elsewhere inductionHypothesis ⊢
        simp [insert, present, elsewhere, inductionHypothesis]
      · rw [if_neg elsewhere] at inductionHypothesis
        simp only [names] at elsewhere inductionHypothesis ⊢
        simp [insert, present, elsewhere, inductionHypothesis]

/-- Writes all of `above` over `below`, in the order of `above`. -/
def merge (below above : Entries α) : Entries α :=
  above.foldl (fun entries (name, value) => insert entries name value) below

/-- The mapping that results from writing pairs one after the other. -/
def ofPairs (pairs : List (String × α)) : Entries α :=
  merge [] pairs

end Entries

end ClassOrder
