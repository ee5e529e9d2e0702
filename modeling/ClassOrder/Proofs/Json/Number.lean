import ClassOrder.Json.Number
import Mathlib.Data.List.TakeWhile

/-!
# How numbers are written

A number is written as a sign, a whole part, a fraction and an exponent, of which only the whole
part must be there. What is taken from the front of a text is always the writing of the literal.
The other way round, a number that is written at the front of a text is taken, unless what follows
could be read as a part of it.
-/
namespace ClassOrder.Json

/-! ## The grammar of numbers -/

/-- Digits, and at least one. -/
structure IsDigits (text : List Char) : Prop where
  nonempty : text ≠ []
  all : ∀ c ∈ text, c.isDigit

/-- How the sign of a number is written. -/
inductive IsSign : Bool → List Char → Prop
  | absent : IsSign false []
  | minus : IsSign true ['-']

/-- How the whole part of a number is written: a lone zero, or digits that do not begin with
zero. -/
inductive IsWhole : List Char → Prop
  | zero : IsWhole ['0']
  | digits {whole : List Char} (digits : IsDigits whole) (positive : whole.head? ≠ some '0') :
      IsWhole whole

/-- How the digits behind the point are written. -/
inductive IsFraction : List Char → List Char → Prop
  | absent : IsFraction [] []
  | point {fraction : List Char} (digits : IsDigits fraction) : IsFraction fraction ('.' :: fraction)

/-- How the sign of an exponent is written. -/
inductive IsExponentSign : Bool → List Char → Prop
  | absent : IsExponentSign false []
  | plus : IsExponentSign false ['+']
  | minus : IsExponentSign true ['-']

/-- How an exponent is written. -/
inductive IsExponent : Option Int → List Char → Prop
  | absent : IsExponent none []
  | marked {mark : Char} {negative : Bool} {sign size : List Char} (marks : mark = 'e' ∨ mark = 'E')
      (signed : IsExponentSign negative sign) (digits : IsDigits size) :
      IsExponent (some (if negative then -(naturalOf size : Int) else naturalOf size))
        (mark :: (sign ++ size))

/-- How a number is written. -/
inductive Spells : Literal → List Char → Prop
  | parts {negative : Bool} {sign whole fraction point scale : List Char} {exponent : Option Int}
      (signed : IsSign negative sign) (counted : IsWhole whole) (pointed : IsFraction fraction point)
      (scaled : IsExponent exponent scale) :
      Spells ⟨negative, whole, fraction, exponent⟩ (sign ++ (whole ++ (point ++ scale)))

variable {text digits spelling rest : List Char} {literal : Literal} {negative : Bool}
  {exponent : Option Int}

/-! ## What is taken is a number -/

/-- The digits at the front of a text, if there is one. -/
theorem isDigits_takeWhile (some : ¬ (text.takeWhile Char.isDigit).isEmpty) :
    IsDigits (text.takeWhile Char.isDigit) :=
  ⟨by simpa using some, fun _ member => List.mem_takeWhile_imp member⟩

/-- What is taken as a sign is the spelling of one. -/
theorem takeSign_sound (taken : takeSign text = (negative, rest)) :
    ∃ sign, IsSign negative sign ∧ text = sign ++ rest := by
  unfold takeSign at taken
  split at taken <;> obtain ⟨rfl, rfl⟩ := Prod.mk.inj taken
  · exact ⟨_, .minus, rfl⟩
  · exact ⟨_, .absent, rfl⟩

/-- What is taken as a whole number is one. -/
theorem takeWhole_sound (taken : takeWhole text = some (digits, rest)) :
    IsWhole digits ∧ text = digits ++ rest := by
  unfold takeWhole at taken
  split at taken
  · obtain ⟨rfl, rfl⟩ := Prod.mk.inj (Option.some.inj taken)
    exact ⟨.zero, rfl⟩
  · rename_i notZero
    dsimp only at taken
    split at taken
    · cases taken
    · rename_i some
      obtain ⟨rfl, rfl⟩ := Prod.mk.inj (Option.some.inj taken)
      refine ⟨.digits (isDigits_takeWhile some) ?_, List.takeWhile_append_dropWhile.symm⟩
      intro zero
      cases text with
      | nil => cases zero
      | cons c text =>
        rw [List.takeWhile_cons] at zero
        split at zero
        · exact notZero text (congrArg (· :: text) (Option.some.inj zero))
        · cases zero

/-- What is taken as a fraction is the spelling of one, which may be empty. -/
theorem takeFraction_sound (taken : takeFraction text = (digits, rest)) :
    ∃ point, IsFraction digits point ∧ text = point ++ rest := by
  unfold takeFraction at taken
  split at taken
  · dsimp only at taken
    split at taken <;> obtain ⟨rfl, rfl⟩ := Prod.mk.inj taken
    · exact ⟨_, .absent, rfl⟩
    · rename_i some
      refine ⟨_, .point (isDigits_takeWhile some), ?_⟩
      rw [List.cons_append, List.takeWhile_append_dropWhile]
  · obtain ⟨rfl, rfl⟩ := Prod.mk.inj taken
    exact ⟨_, .absent, rfl⟩

/-- What is taken as the sign of an exponent is the spelling of one. -/
theorem takeExponentSign_sound (taken : takeExponentSign text = (negative, rest)) :
    ∃ sign, IsExponentSign negative sign ∧ text = sign ++ rest := by
  unfold takeExponentSign at taken
  split at taken
  · obtain ⟨rfl, rfl⟩ := Prod.mk.inj taken
    exact ⟨_, .plus, rfl⟩
  · obtain ⟨sign, signed, whole⟩ := takeSign_sound taken
    refine ⟨sign, ?_, whole⟩
    cases signed with
    | absent => exact .absent
    | minus => exact .minus

/-- What is taken as an exponent is the spelling of one, which may be empty. -/
theorem takeExponent_sound (taken : takeExponent text = (exponent, rest)) :
    ∃ scale, IsExponent exponent scale ∧ text = scale ++ rest := by
  unfold takeExponent at taken
  split at taken
  · rename_i mark afterMark
    dsimp only at taken
    split at taken <;> obtain ⟨rfl, rfl⟩ := Prod.mk.inj taken
    · rename_i marked
      obtain ⟨marks, some⟩ := Bool.and_eq_true_iff.mp marked
      obtain ⟨sign, signed, whole⟩ :=
        takeExponentSign_sound (Prod.eta (takeExponentSign afterMark)).symm
      refine ⟨_, .marked (by simpa using marks) signed (isDigits_takeWhile (by simpa using some)),
        ?_⟩
      rw [List.cons_append, List.append_assoc, List.takeWhile_append_dropWhile, ← whole]
    · exact ⟨_, .absent, rfl⟩
  · obtain ⟨rfl, rfl⟩ := Prod.mk.inj taken
    exact ⟨_, .absent, rfl⟩

/-- What is taken from the front of a text is the writing of the literal. -/
theorem takeLiteral_sound (taken : takeLiteral text = some (literal, rest)) :
    ∃ spelling, Spells literal spelling ∧ text = spelling ++ rest := by
  unfold takeLiteral at taken
  dsimp only at taken
  split at taken
  · cases taken
  · rename_i whole afterWhole wholeTaken
    obtain ⟨rfl, rfl⟩ := Prod.mk.inj (Option.some.inj taken)
    obtain ⟨sign, signed, signFirst⟩ := takeSign_sound (Prod.eta (takeSign text)).symm
    obtain ⟨counted, wholeNext⟩ := takeWhole_sound wholeTaken
    obtain ⟨point, pointed, pointNext⟩ :=
      takeFraction_sound (Prod.eta (takeFraction afterWhole)).symm
    obtain ⟨scale, scaled, scaleNext⟩ :=
      takeExponent_sound (Prod.eta (takeExponent (takeFraction afterWhole).2)).symm
    refine ⟨_, .parts signed counted pointed scaled, ?_⟩
    simp only [List.append_assoc]
    rw [← scaleNext, ← pointNext, ← wholeNext, ← signFirst]

/-! ## A number is taken -/

/-- No digit stands at the front of a text. -/
def NoDigitFirst (text : List Char) : Prop :=
  ∀ c ∈ text.head?, ¬ c.isDigit

/-- What follows a number cannot be read as a part of it. -/
def EndsNumber (rest : List Char) : Prop :=
  ∀ c ∈ rest.head?, ¬ c.isDigit ∧ c ≠ '.' ∧ c ≠ 'e' ∧ c ≠ 'E'

/-- What ends a number does not go on with a digit. -/
theorem EndsNumber.noDigitFirst (ends : EndsNumber rest) : NoDigitFirst rest :=
  fun c first => (ends c first).1

/-- Digits are taken up to the first character that is none. -/
theorem IsDigits.span (digits : IsDigits text) (ends : NoDigitFirst rest) :
    (text ++ rest).takeWhile Char.isDigit = text ∧
      (text ++ rest).dropWhile Char.isDigit = rest := by
  have none : rest.takeWhile Char.isDigit = [] ∧ rest.dropWhile Char.isDigit = rest := by
    cases rest with
    | nil => exact ⟨rfl, rfl⟩
    | cons c rest =>
      have noDigit : ¬ c.isDigit := ends c rfl
      exact ⟨List.takeWhile_cons_of_neg noDigit, List.dropWhile_cons_of_neg noDigit⟩
  constructor
  · rw [List.takeWhile_append_of_pos digits.all, none.1, List.append_nil]
  · rw [List.dropWhile_append_of_pos digits.all, none.2]

/-- Digits are one at least. -/
theorem IsDigits.notEmpty (digits : IsDigits text) : ¬ text.isEmpty := by
  simpa using digits.nonempty

/-- Digits begin with none of the other characters. -/
theorem IsDigits.head?_ne (digits : IsDigits text) {c : Char} (noDigit : ¬ c.isDigit) :
    (text ++ rest).head? ≠ some c := by
  obtain ⟨first, more, rfl⟩ := List.exists_cons_of_ne_nil digits.nonempty
  rintro ⟨⟩
  exact noDigit (digits.all c List.mem_cons_self)

/-- A sign is taken in front of anything but another minus. -/
theorem IsSign.takeSign_append (signed : IsSign negative spelling) (other : rest.head? ≠ some '-') :
    takeSign (spelling ++ rest) = (negative, rest) := by
  cases signed with
  | minus => rfl
  | absent =>
    rw [List.nil_append, takeSign]
    rintro tail rfl
    exact other rfl

/-- A whole number is taken up to what is no digit. -/
theorem IsWhole.takeWhole_append (counted : IsWhole digits) (ends : NoDigitFirst rest) :
    takeWhole (digits ++ rest) = some (digits, rest) := by
  cases counted with
  | zero => rfl
  | digits all positive =>
    obtain ⟨front, behind⟩ := all.span ends
    obtain ⟨c, more, rfl⟩ := List.exists_cons_of_ne_nil all.nonempty
    rw [takeWhole, front, behind]
    · simp
    · rintro tail same
      exact positive (congrArg some (List.cons.inj same).1)

/-- A fraction is taken up to what is neither a digit nor a point. -/
theorem IsFraction.takeFraction_append (pointed : IsFraction digits spelling)
    (ends : NoDigitFirst rest) (noPoint : rest.head? ≠ some '.') :
    takeFraction (spelling ++ rest) = (digits, rest) := by
  cases pointed with
  | absent =>
    rw [List.nil_append, takeFraction]
    rintro tail rfl
    exact noPoint rfl
  | point all =>
    obtain ⟨front, behind⟩ := all.span ends
    rw [List.cons_append, takeFraction, front, behind, if_neg all.notEmpty]

/-- The sign of an exponent is taken in front of anything but another sign. -/
theorem IsExponentSign.takeExponentSign_append (signed : IsExponentSign negative spelling)
    (noPlus : rest.head? ≠ some '+') (noMinus : rest.head? ≠ some '-') :
    takeExponentSign (spelling ++ rest) = (negative, rest) := by
  cases signed with
  | plus => rfl
  | minus => rfl
  | absent =>
    rw [List.nil_append, takeExponentSign]
    · exact IsSign.absent.takeSign_append noMinus
    · rintro tail rfl
      exact noPlus rfl

/-- An exponent is taken up to what ends a number. -/
theorem IsExponent.takeExponent_append (scaled : IsExponent exponent spelling)
    (ends : EndsNumber rest) : takeExponent (spelling ++ rest) = (exponent, rest) := by
  cases scaled with
  | absent =>
    cases rest with
    | nil => rfl
    | cons c rest =>
      obtain ⟨_, _, small, large⟩ := ends c rfl
      simp [takeExponent, small, large]
  | marked marks signed all =>
    rename_i mark negative sign size
    obtain ⟨front, behind⟩ := all.span ends.noDigitFirst
    have signTaken : takeExponentSign (sign ++ (size ++ rest)) = (negative, size ++ rest) :=
      signed.takeExponentSign_append (all.head?_ne (by decide)) (all.head?_ne (by decide))
    rw [List.cons_append, List.append_assoc, takeExponent, signTaken, front, behind]
    dsimp only
    rw [if_pos]
    simpa [all.nonempty] using marks

/-- What stands behind the fraction is no part of it. -/
theorem IsExponent.ends (scaled : IsExponent exponent spelling) (ends : EndsNumber rest) :
    NoDigitFirst (spelling ++ rest) ∧ (spelling ++ rest).head? ≠ some '.' := by
  cases scaled with
  | absent => exact ⟨ends.noDigitFirst, fun point => (ends '.' point).2.1 rfl⟩
  | marked marks signed all =>
    constructor
    · rintro c ⟨⟩
      rcases marks with rfl | rfl <;> decide
    · rintro ⟨⟩
      rcases marks with marks | marks <;> cases marks

/-- What stands behind the whole part is no part of it. -/
theorem IsFraction.ends (pointed : IsFraction digits spelling) (ends : NoDigitFirst rest) :
    NoDigitFirst (spelling ++ rest) := by
  cases pointed with
  | absent => exact ends
  | point all =>
    rintro c ⟨⟩
    decide

/-- A number at the front of a text is taken, if what follows cannot be read as a part of it. -/
theorem Spells.takeLiteral_append (spells : Spells literal spelling) (ends : EndsNumber rest) :
    takeLiteral (spelling ++ rest) = some (literal, rest) := by
  cases spells with
  | parts signed counted pointed scaled =>
    rename_i negative sign whole fraction point scale exponent
    obtain ⟨noDigit, noPoint⟩ := scaled.ends ends
    have unsigned : (whole ++ (point ++ (scale ++ rest))).head? ≠ some '-' := by
      cases counted with
      | zero => simp
      | digits all _ => exact all.head?_ne (by decide)
    rw [List.append_assoc, List.append_assoc, List.append_assoc, takeLiteral,
      signed.takeSign_append unsigned]
    dsimp only
    rw [counted.takeWhole_append (pointed.ends noDigit)]
    dsimp only
    rw [pointed.takeFraction_append noDigit noPoint]
    dsimp only
    rw [scaled.takeExponent_append ends]

/-- A number begins with a digit, or with a minus and a digit. -/
theorem Spells.begins (spells : Spells literal spelling) :
    ∃ d more, d.isDigit ∧ (spelling = d :: more ∨ spelling = '-' :: d :: more) := by
  cases spells with
  | parts signed counted pointed scaled =>
    rename_i negative sign whole fraction point scale exponent
    have first : ∃ d more, d.isDigit ∧ whole = d :: more := by
      cases counted with
      | zero => exact ⟨_, _, by decide, rfl⟩
      | digits all _ =>
        obtain ⟨d, more, rfl⟩ := List.exists_cons_of_ne_nil all.nonempty
        exact ⟨d, more, all.all d List.mem_cons_self, rfl⟩
    obtain ⟨d, more, digit, rfl⟩ := first
    refine ⟨d, more ++ (point ++ scale), digit, ?_⟩
    cases signed with
    | absent => exact .inl rfl
    | minus => exact .inr rfl

end ClassOrder.Json
