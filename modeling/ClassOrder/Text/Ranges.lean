/-!
# Classes of characters given by ranges

A class of characters is written as the ascending list of its ranges of code
points, both ends included. Two such classes are needed: the printable
characters, which a quoted text shows as they are, and the word characters, which
may not stand right before an attribute's name. Both lists follow version 14 of
the character standard.
-/
namespace ClassOrder.Text

/-- Whether a character lies in one of the ranges. -/
def inRanges (ranges : List (Nat × Nat)) (c : Char) : Bool :=
  ranges.any fun (first, last) => first ≤ c.toNat && c.toNat ≤ last

end ClassOrder.Text
