import ClassOrder.ClassList.Token
import ClassOrder.SelectorIndex

/-!
# The order of a class list

Classes are sorted by four criteria, the first of which weighs most: whether the base
class is known, on the side that the settings choose; whether the token has a
breakpoint; the rank of the breakpoint; and the rank of the base class in the selector
index. Tokens that agree in all four keep their order.
-/
namespace ClassOrder

/-- Where classes go that the index does not know. -/
inductive UnknownPosition where
  | atStart
  | atEnd
  deriving DecidableEq

/-- The four criteria of a token, the weightiest first. -/
structure SortKey where
  known : Nat
  hasBreakpoint : Nat
  breakpointRank : Int
  baseRank : Int
  deriving DecidableEq

namespace SortKey

/-- Whether a key is at most another one: the first criterion in which they differ
decides. -/
def atMost (left right : SortKey) : Bool :=
  if left.known != right.known then decide (left.known < right.known)
  else if left.hasBreakpoint != right.hasBreakpoint then
    decide (left.hasBreakpoint < right.hasBreakpoint)
  else if left.breakpointRank != right.breakpointRank then
    decide (left.breakpointRank < right.breakpointRank)
  else decide (left.baseRank ≤ right.baseRank)

end SortKey

/-- The breakpoints used when none are given, narrowest first. -/
def defaultBreakpoints : List String :=
  ["sm", "md", "lg", "xl"]

/-- How class lists are sorted: what is known, the breakpoints from narrow to wide, the
place of unknown classes, and the separator after a variant. -/
structure SortRules where
  index : SelectorIndex String
  breakpoints : List String := defaultBreakpoints
  unknown : UnknownPosition := .atStart
  separator : String := ":"

namespace SortRules

/-- The rank of a breakpoint. One that is listed several times counts at its last
place. -/
def breakpointRank? (rules : SortRules) (name : String) : Option Nat :=
  (rules.breakpoints.reverse.idxOf? name).map fun place => rules.breakpoints.length - 1 - place

/-- The criteria of a token that was split. -/
def keyOf (rules : SortRules) (token : ClassToken) : SortKey :=
  let baseRank := rules.index.position token.base
  let breakpointRank : Int :=
    match token.variant.bind rules.breakpointRank? with
    | some rank => rank
    | none => -1
  let known := match rules.unknown with
    | .atStart => if baseRank == -1 then 0 else 1
    | .atEnd => if baseRank == -1 then 1 else 0
  { known, hasBreakpoint := if breakpointRank == -1 then 0 else 1, breakpointRank, baseRank }

/-- The criteria of a token. -/
def key (rules : SortRules) (token : String) : SortKey :=
  rules.keyOf (ClassToken.split rules.separator token)

/-- Sorts tokens, by a separator that is not empty. -/
def sorted (rules : SortRules) (tokens : List String) : List String :=
  tokens.mergeSort fun left right => (rules.key left).atMost (rules.key right)

/-- Sorts tokens. With an empty separator only the empty list can be sorted. -/
def sort (rules : SortRules) (tokens : List String) : Except Fault (List String) :=
  if rules.separator == "" && !tokens.isEmpty then .error .emptySeparator
  else .ok (rules.sorted tokens)

/-- Sorts any values as tokens, at any value as the separator. A separator that is no
text can only separate the empty list. -/
def sortValues {Rule : Type} (rules : SortRules) (separator : Value Rule) (tokens : List Plain) :
    Except Fault (List String) := do
  let texts ← tokens.mapM (ClassToken.textOf separator)
  match separator with
  | .text separator => sort { rules with separator } texts
  | _ => return texts

end SortRules

end ClassOrder
