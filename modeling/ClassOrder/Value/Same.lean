import ClassOrder.Value.Key

/-!
# When two values are the same

Scalars are the same when they have the same key. Lists compare item by item, mappings
by name without regard to order. A rule is the same as nothing, because no rule occurs
twice.
-/
namespace ClassOrder.Value

variable {Rule Other : Type}

/-- Whether two scalars are the same. -/
def sameScalar (left : Value Rule) (right : Value Other) : Bool :=
  match left.key?, right.key? with
  | some key, some other => key == other
  | _, _ => false

mutual
/-- Whether two values are the same. -/
def same : Value Rule → Value Other → Bool
  | list items, list others => sameItems items others
  | mapping entries, mapping others =>
    entries.length == others.length && sameEntries entries others
  | left, right => sameScalar left right

/-- Whether two lists hold the same values in the same places. -/
def sameItems : List (Value Rule) → List (Value Other) → Bool
  | [], [] => true
  | item :: rest, other :: others => same item other && sameItems rest others
  | _, _ => false

/-- Whether every entry is found, with the same value, among the others. -/
def sameEntries : List (String × Value Rule) → List (String × Value Other) → Bool
  | [], _ => true
  | (name, value) :: rest, others =>
    (match Entries.get? others name with
      | some other => same value other
      | none => false) && sameEntries rest others
end

/-- Values are compared by whether they are the same. -/
instance : BEq (Value Rule) :=
  ⟨same⟩

end ClassOrder.Value
