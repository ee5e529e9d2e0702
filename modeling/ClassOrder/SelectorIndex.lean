/-!
# The selector index

The index lists the known selectors without repetition; a selector's position in it is
its rank. It is made from any list of selectors by keeping first occurrences. Whatever
can be compared may be a selector; those that name classes are texts.
-/
namespace ClassOrder

/-- A list of distinct selectors, in rank order. -/
structure SelectorIndex (Selector : Type) where
  selectors : List Selector
  deriving DecidableEq

namespace SelectorIndex

variable {Selector : Type}

/-- The index of a list of selectors. -/
def ofList [BEq Selector] (selectors : List Selector) : SelectorIndex Selector :=
  ⟨selectors.eraseDups⟩

/-- The rank of a selector, when it is known. -/
def rank? [BEq Selector] (index : SelectorIndex Selector) (selector : Selector) : Option Nat :=
  index.selectors.idxOf? selector

/-- The rank of a selector as a position: minus one when it is unknown. -/
def position [BEq Selector] (index : SelectorIndex Selector) (selector : Selector) : Int :=
  match index.rank? selector with
  | some rank => rank
  | none => -1

/-- Whether a selector is known. -/
def contains [BEq Selector] (index : SelectorIndex Selector) (selector : Selector) : Bool :=
  index.selectors.contains selector

/-- The number of known selectors. -/
def size (index : SelectorIndex Selector) : Nat :=
  index.selectors.length

/-- A short description of an index. -/
def describe (index : SelectorIndex Selector) : String :=
  "SelectorIndex(" ++ toString index.size ++ " selectors)"

end SelectorIndex

end ClassOrder
