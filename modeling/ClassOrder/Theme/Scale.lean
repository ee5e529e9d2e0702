import ClassOrder.Fault

/-!
# Negated scales

A scale maps names to lengths. Its negation holds, for every entry that has a
negative counterpart, the name and the value behind a minus sign. Zero and the
automatic length have no counterpart, and neither has a value that is negative.
-/
namespace ClassOrder.Theme

variable {Rule : Type}

/-- The entries of a mapping, for an operation that needs all of them. -/
def entriesOf (value : Value Rule) : Except Fault (Entries (Value Rule)) :=
  match value with
  | .mapping entries => .ok entries
  | other => .error (.lacks .entries other.kindName)

/-- Whether a length has a negative counterpart: it is neither zero nor automatic nor
negative. -/
def hasNegative (length : Value Rule) : Bool :=
  let shown := length.display
  let fixed := match length with
    | .text text => text == "0" || text == "auto"
    | _ => false
  !fixed && shown.toList.head? != some '-'

/-- The negated entries of a scale, in the order of the scale. -/
def negatedEntries (scale : Entries (Value Rule)) : Entries (Value Rule) :=
  (scale.filter fun (_, length) => hasNegative length).map fun (name, length) =>
    ("-" ++ name, .text ("-" ++ length.display))

/-- The negation of a scale. -/
def negated (scale : Value Rule) : Except Fault (Value Rule) := do
  return .mapping (negatedEntries (← entriesOf scale))

end ClassOrder.Theme
