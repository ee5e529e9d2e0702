import ClassOrder.Decimal.Shortest
import ClassOrder.Value.Basic

/-!
# What a scalar is compared by

Values that are compared, counted once or looked up stand for a key. Numbers that are
equal have one key, whatever their form: one, one point zero and true are the same.
What is not a number has one key as well, so it is the same as itself.

Texts have an order among each other, by their code points, and so have numbers, by
their size. What is not a number is neither before nor after a number.
-/
namespace ClassOrder

/-- What a scalar is compared by. -/
inductive Key where
  | null
  | text (value : String)
  | whole (value : Int)
  /-- A finite number that is not whole, by its bits. -/
  | fraction (bits : UInt64)
  | infinite (negative : Bool)
  | notANumber
  deriving DecidableEq

namespace Key

/-- The key of a decimal number. -/
def ofDecimal (number : Float) : Key :=
  let bits := number.toBits
  let negative := bits >>> 63 == 1
  if number.isNaN then notANumber
  else if number.isInf then infinite negative
  else
    match (Decimal.Binary.ofBits bits).whole? with
    | some size => whole (if negative then -size else size)
    | none => fraction bits

/-- A finite number as a signed mantissa and an exponent of two. -/
def binary? : Key → Option (Int × Int)
  | whole value => some (value, 0)
  | fraction bits =>
    let size := Decimal.Binary.ofBits bits
    some (if bits >>> 63 == 1 then -size.mantissa else size.mantissa, size.exponent)
  | _ => none

/-- Whether the key is one of a number, or of what is not one. -/
def isNumeric : Key → Bool
  | null => false
  | text _ => false
  | _ => true

/-- Whether a number is before another one. -/
def isLess (left right : Key) : Bool :=
  match left, right with
  | notANumber, _ => false
  | _, notANumber => false
  | infinite negative, infinite other => negative && !other
  | infinite negative, _ => negative
  | _, infinite negative => !negative
  | first, second =>
    match first.binary?, second.binary? with
    | some (mantissa, exponent), some (other, place) =>
      decide (mantissa * Decimal.power 2 exponent * Decimal.power 2 (-place) <
        other * Decimal.power 2 place * Decimal.power 2 (-exponent))
    | _, _ => false

/-- Whether a key is before another one, when keys of their kinds have an order. -/
def before? (left right : Key) : Option Bool :=
  match left, right with
  | text first, text second => some (decide (first < second))
  | first, second =>
    if first.isNumeric && second.isNumeric then some (first.isLess second) else none

end Key

/-- The key of a scalar. Lists, mappings and rules have none. -/
def Value.key? {Rule : Type} : Value Rule → Option Key
  | null => some .null
  | flag value => some (.whole (if value then 1 else 0))
  | integer value => some (.whole value)
  | decimal value => some (.ofDecimal value)
  | text value => some (.text value)
  | list _ => none
  | mapping _ => none
  | rule _ => none

end ClassOrder
