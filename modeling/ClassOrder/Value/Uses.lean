import ClassOrder.Fault
import ClassOrder.Insertion
import ClassOrder.Text.Segment
import ClassOrder.Value.Same

/-!
# What a value can be used for

Nested data arrives from outside, and an operation may meet a value of a kind that it
cannot use. Lists, texts and mappings can be taken apart and searched; scalars and rules
can be looked up; texts, and numbers, can be put in order among themselves. Every other
use is a fault that names the kind of the value.
-/
namespace ClassOrder.Value

variable {Rule Other : Type}

/-- The text that a value is, for a use that needs one. -/
def asText (fault : String → Fault) : Value Rule → Except Fault String
  | text value => .ok value
  | other => .error (fault other.kindName)

/-- The items that a value can be taken apart into: the items of a list, the characters
of a text, the names of a mapping. -/
def items : Value Rule → Except Fault (List (Value Rule))
  | list items => .ok items
  | text value => .ok (value.toList.map fun c => .text (String.ofList [c]))
  | mapping entries => .ok (entries.map fun (name, _) => .text name)
  | other => .error (.misused .iterated other.kindName)

/-- The value as one that can be looked up, which lists and mappings cannot. -/
def asKey (value : Value Rule) : Except Fault (Value Rule) :=
  match value with
  | list _ => .error (.misused .key value.kindName)
  | mapping _ => .error (.misused .key value.kindName)
  | _ => .ok value

/-- A value that can be looked up stands for itself. -/
theorem eq_of_asKey {value key : Value Rule} (keyed : value.asKey = .ok key) : key = value := by
  cases value <;> cases keyed <;> rfl

/-- A value that can be looked up is compared with others by its key, whichever of the two
is asked. -/
theorem same_comm_of_asKey {left right : Value Rule} (keyed : left.asKey = .ok left) :
    left.same right = right.same left := by
  cases left <;> cases keyed <;> cases right <;>
    simp [same, sameScalar, key?, Bool.beq_comm]

/-- The values as ones that can be looked up. -/
def asKeys (values : List (Value Rule)) : Except Fault (List (Value Rule)) :=
  values.mapM asKey

/-- The texts among values that can be looked up. -/
def keyTexts (values : List (Value Rule)) : Except Fault (List String) := do
  return (← asKeys values).filterMap fun key =>
    match key with
    | .text value => some value
    | _ => none

/-- Whether a value is found in another one: as an item of a list, as a part of a text,
or as a name of a mapping. -/
def holds (value : Value Rule) (item : Value Other) : Except Fault Bool :=
  match value with
  | list items => .ok (items.any fun other => other.same item)
  | text whole => do
    let part ← item.asText (.misused .searched)
    return Text.occursIn part.toList whole.toList
  | mapping entries => do
    let key ← item.asKey
    return entries.any fun (name, _) => key.same (text name : Value Rule)
  | other => .error (.misused .searched other.kindName)

/-- Whether a value is before another one, when values of their kinds have an order. -/
def before? (left right : Value Rule) : Option Bool := do
  (← left.key?).before? (← right.key?)

/-- Values in ascending order. Several values have one only when each of them has an
order with the first. -/
def ascending : List (Value Rule) → Except Fault (List (Value Rule))
  | [] => .ok []
  | first :: rest =>
    match rest.find? fun other => (first.before? other).isNone with
    | some other => .error (.misused .ordered other.kindName)
    | none => .ok (inOrder (fun left right => (left.before? right).getD false) (first :: rest))

end ClassOrder.Value
