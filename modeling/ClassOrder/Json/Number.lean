import ClassOrder.Value.Basic

/-!
# Numbers in JSON

A literal without a point and without an exponent is an integer of any size. Any
other literal is a decimal number, rounded once from its exact value; a value beyond
the largest number is infinite. The longest literal at the front of the text is
taken, so what follows it may still turn out to be out of place.
-/
namespace ClassOrder.Json

/-- A number literal in parts. The exponent, if there is one, keeps its sign. -/
structure Literal where
  negative : Bool
  whole : List Char
  fraction : List Char
  exponent : Option Int

/-- The natural number that decimal digits denote. -/
def naturalOf (digits : List Char) : Nat :=
  digits.foldl (fun value d => value * 10 + (d.toNat - '0'.toNat)) 0

/-- The sign at the front of a text. -/
def takeSign : List Char → Bool × List Char
  | '-' :: rest => (true, rest)
  | rest => (false, rest)

/-- The whole part at the front of a text: a lone zero, or digits that do not begin
with zero. -/
def takeWhole : List Char → Option (List Char × List Char)
  | '0' :: rest => some (['0'], rest)
  | text =>
    let digits := text.takeWhile Char.isDigit
    if digits.isEmpty then none else some (digits, text.dropWhile Char.isDigit)

/-- The digits after a point, when a point with a digit stands at the front. -/
def takeFraction : List Char → List Char × List Char
  | '.' :: rest =>
    let digits := rest.takeWhile Char.isDigit
    if digits.isEmpty then ([], '.' :: rest) else (digits, rest.dropWhile Char.isDigit)
  | rest => ([], rest)

/-- The sign of an exponent, which may be a plus. -/
def takeExponentSign : List Char → Bool × List Char
  | '+' :: rest => (false, rest)
  | text => takeSign text

/-- The exponent at the front of a text. A mark without digits is no exponent. -/
def takeExponent (text : List Char) : Option Int × List Char :=
  match text with
  | mark :: afterMark =>
    let signed := takeExponentSign afterMark
    let digits := signed.2.takeWhile Char.isDigit
    if (mark == 'e' || mark == 'E') && !digits.isEmpty then
      let size : Int := naturalOf digits
      (some (if signed.1 then -size else size), signed.2.dropWhile Char.isDigit)
    else (none, text)
  | [] => (none, [])

/-- The longest number literal at the front of a text, and the rest. -/
def takeLiteral (text : List Char) : Option (Literal × List Char) :=
  let (negative, unsigned) := takeSign text
  match takeWhole unsigned with
  | none => none
  | some (whole, afterWhole) =>
    let (fraction, afterFraction) := takeFraction afterWhole
    let (exponent, rest) := takeExponent afterFraction
    some ({ negative, whole, fraction, exponent }, rest)

/-- The decimal number nearest to `digits * 10 ^ scale`. Beyond four hundred places
on either side the answer is known without the arithmetic. -/
def nearestDecimal (digits : Nat) (scale : Int) : Float :=
  let reach := (Nat.toDigits 10 digits).length + scale
  if digits == 0 || reach < -400 then 0.0
  else if 400 < reach then 1.0 / 0.0
  else Float.ofScientific digits (scale < 0) scale.natAbs

/-- The number that a literal denotes. -/
def Literal.value {Rule : Type} (literal : Literal) : Value Rule :=
  if literal.fraction.isEmpty && literal.exponent.isNone then
    let size : Int := naturalOf literal.whole
    .integer (if literal.negative then -size else size)
  else
    let digits := naturalOf (literal.whole ++ literal.fraction)
    let scale := literal.exponent.getD 0 - literal.fraction.length
    let size := nearestDecimal digits scale
    .decimal (if literal.negative then -size else size)

/-- Taking a sign leaves no more than the text. -/
theorem length_takeSign (text : List Char) : (takeSign text).2.length ≤ text.length := by
  unfold takeSign
  split <;> simp

/-- Taking a whole number leaves less than the text, since it takes a digit at least. -/
theorem length_takeWhole {text digits rest : List Char}
    (taken : takeWhole text = some (digits, rest)) : rest.length < text.length := by
  unfold takeWhole at taken
  split at taken
  · simp only [Option.some.injEq, Prod.mk.injEq] at taken
    simp [taken.2]
  · rename_i notZero
    by_cases none : (text.takeWhile Char.isDigit).isEmpty
    · simp [none] at taken
    · simp only [none, Bool.false_eq_true, if_false, Option.some.injEq, Prod.mk.injEq] at taken
      have whole := congrArg List.length
        (List.takeWhile_append_dropWhile (p := Char.isDigit) (l := text))
      rw [List.length_append, taken.1, taken.2] at whole
      have some : digits ≠ [] := by simpa [taken.1] using none
      have positive := List.length_pos_iff.mpr some
      omega

/-- Taking a fraction leaves no more than the text. -/
theorem length_takeFraction (text : List Char) : (takeFraction text).2.length ≤ text.length := by
  unfold takeFraction
  split
  · rename_i rest
    by_cases none : (rest.takeWhile Char.isDigit).isEmpty
    · simp [none]
    · simp only [none, Bool.false_eq_true, if_false, List.length_cons]
      exact Nat.le_succ_of_le (List.dropWhile_sublist _).length_le
  · simp

/-- Taking the sign of an exponent leaves no more than the text. -/
theorem length_takeExponentSign (text : List Char) :
    (takeExponentSign text).2.length ≤ text.length := by
  unfold takeExponentSign
  split
  · simp
  · exact length_takeSign _

/-- Taking an exponent leaves no more than the text. -/
theorem length_takeExponent (text : List Char) : (takeExponent text).2.length ≤ text.length := by
  unfold takeExponent
  split
  · rename_i mark afterMark
    simp only
    split
    · have sign := length_takeExponentSign afterMark
      have digits :=
        (List.dropWhile_sublist Char.isDigit (l := (takeExponentSign afterMark).2)).length_le
      simp only [List.length_cons]
      omega
    · simp
  · simp

/-- Reading a number uses up at least one character. -/
theorem length_takeLiteral {text rest : List Char} {literal : Literal}
    (taken : takeLiteral text = some (literal, rest)) : rest.length < text.length := by
  unfold takeLiteral at taken
  simp only at taken
  split at taken
  · simp at taken
  · rename_i whole afterWhole wholeTaken
    simp only [Option.some.injEq, Prod.mk.injEq] at taken
    have sign := length_takeSign text
    have digits := length_takeWhole wholeTaken
    have fraction := length_takeFraction afterWhole
    have exponent := length_takeExponent (takeFraction afterWhole).2
    rw [taken.2] at exponent
    omega

end ClassOrder.Json
