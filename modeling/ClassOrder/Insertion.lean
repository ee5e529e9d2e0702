/-!
# Putting values in order by insertion

The run at the front of a list that is in order already stays; a run in falling order is
turned round. Every value after the run is inserted in turn, at the place that is found
by halving: after the values that it is not before. Where the comparison is a linear
order this is the stable order. The procedure matters where some values have no place in
the order, such as what is not a number among numbers.
-/
namespace ClassOrder

variable {α : Type}

/-- The run that goes on after a value, and the values after the run. -/
def runAfter (goesOn : α → α → Bool) (last : α) : List α → List α × List α
  | [] => ([], [])
  | next :: rest =>
    if goesOn last next then
      let (run, others) := runAfter goesOn next rest
      (next :: run, others)
    else ([], next :: rest)

/-- The run at the front of a list, in rising order, and the values after the run. -/
def leadingRun (before : α → α → Bool) : List α → List α × List α
  | first :: second :: rest =>
    let falls := before second first
    let (run, others) :=
      runAfter (fun last next => before next last == falls) first (second :: rest)
    (if falls then (first :: run).reverse else first :: run, others)
  | short => (short, [])

/-- The place of a value among ordered ones, found between two bounds by halving. -/
def placeAmong (before : α → α → Bool) (ordered : List α) (value : α) (low high : Nat) : Nat :=
  if _ : low < high then
    let middle := (low + high) / 2
    if (ordered[middle]?).any (before value) then placeAmong before ordered value low middle
    else placeAmong before ordered value (middle + 1) high
  else low
termination_by high - low
decreasing_by
  all_goals omega

/-- Inserts a value into ordered ones. -/
def insertAmong (before : α → α → Bool) (ordered : List α) (value : α) : List α :=
  ordered.insertIdx (placeAmong before ordered value 0 ordered.length) value

/-- The values in rising order. -/
def inOrder (before : α → α → Bool) (values : List α) : List α :=
  let (run, others) := leadingRun before values
  others.foldl (insertAmong before) run

end ClassOrder
