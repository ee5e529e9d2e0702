import ClassOrder.Decimal.Shortest

/-!
# How a decimal is written

A decimal is written with the fewest digits that name it. It is written
positionally, always with a digit on both sides of the point, when its leading
digit stands between the fourth place after the point and the sixteenth place
before it. Otherwise it has a signed exponent of at least two digits.
-/
namespace ClassOrder.Decimal

/-- The digits of a decimal without the zeros at their end, and the place of the
point: `point` digits stand before it. -/
def significant (decimal : Scaled) : List Char × Int :=
  let digits := Nat.toDigits 10 decimal.digits
  ((digits.reverse.dropWhile (· == '0')).reverse, digits.length + decimal.scale)

/-- Digits with a point set among them, filled up with zeros on either side. -/
def positional (digits : List Char) (point : Int) : List Char :=
  if point ≤ 0 then
    ['0', '.'] ++ List.replicate (-point).toNat '0' ++ digits
  else if digits.length ≤ point.toNat then
    digits ++ List.replicate (point.toNat - digits.length) '0' ++ ['.', '0']
  else
    digits.take point.toNat ++ ['.'] ++ digits.drop point.toNat

/-- Digits with one of them before the point, and an exponent. -/
def scientific (digits : List Char) (point : Int) : List Char :=
  let exponent := point - 1
  let lead := match digits with
    | [] => []
    | [d] => [d]
    | d :: more => d :: '.' :: more
  let places := Nat.toDigits 10 exponent.natAbs
  lead ++ ['e', if exponent < 0 then '-' else '+'] ++
    List.replicate (2 - places.length) '0' ++ places

/-- The text of a nonzero fraction without its sign. -/
def writeFraction (value : Binary) : List Char :=
  let (digits, point) := significant value.shortest
  if -4 < point && point ≤ 16 then positional digits point else scientific digits point

/-- The text of a number: the fewest digits that read back as the same number. -/
def write (number : Float) : String :=
  if number.isNaN then "nan"
  else
    let bits := number.toBits
    let sign := if bits >>> 63 == 1 then ['-'] else []
    let value := Binary.ofBits bits
    let body :=
      if number.isInf then "inf".toList
      else if value.mantissa == 0 then "0.0".toList
      else writeFraction value
    String.ofList (sign ++ body)

end ClassOrder.Decimal
