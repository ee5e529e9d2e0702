import ClassOrder.Fault
import ClassOrder.Markup.Attribute

/-!
# Sorting the classes of a source

The classes of every class attribute are sorted; everything else stays. An attribute
whose classes are in order already is kept as it is written, with all of its blanks. Any
other one gets its classes in order with single spaces between them, behind the same lead
and between the same marks.
-/
namespace ClassOrder.Markup

/-- A way to sort the words of a class string. -/
abbrev Sorting := String → Except Fault (List String)

/-- An attribute with its classes in order, and whether that changed it. -/
def Attribute.tidied (sort : Sorting) (found : Attribute) :
    Except Fault (Attribute × Bool) := do
  let classes := String.ofList found.value
  let ordered := Text.unwords (← sort classes)
  if ordered == Text.unwords (Text.words classes) then return (found, false)
  else return ({ found with value := ordered.toList }, true)

/-- A piece with its classes in order, and whether that changed it. -/
def Piece.tidied (sort : Sorting) : Piece → Except Fault (Piece × Bool)
  | .plain c => .ok (.plain c, false)
  | .classes found => do
    let (tidy, changed) ← found.tidied sort
    return (.classes tidy, changed)

/-- A source after its classes were sorted. -/
structure Rewritten where
  text : String
  changed : Nat
  deriving DecidableEq

/-- A source with the classes of all class attributes sorted, and the number of
attributes that changed. -/
def rewrite (sort : Sorting) (source : String) : Except Fault Rewritten := do
  let tidied ← (pieces none source.toList).mapM (Piece.tidied sort)
  return {
    text := String.ofList (render (tidied.map Prod.fst))
    changed := tidied.countP Prod.snd }

end ClassOrder.Markup
