import ClassOrder.Proofs.Json.Grammar
import ClassOrder.Proofs.Text.Newline

/-!
# JSON and the ends of lines

An end of line can only stand where blanks may stand, since in a quoted text it must be escaped. So
it does not matter in which of the ways the lines end: a text and the same text with a line feed
at the end of every line are the writing of the same value.
-/
namespace ClassOrder.Json

open Text (unifyNewlines)

/-- Two texts have the same lines, however these end. -/
def SameLines (text other : List Char) : Prop :=
  unifyNewlines text = unifyNewlines other

/-- A character is no end of a line. -/
def Solid (c : Char) : Prop :=
  c ≠ '\r' ∧ c ≠ '\n'

/-- Whether a character is solid is decided by looking at it. -/
instance (c : Char) : Decidable (Solid c) :=
  inferInstanceAs (Decidable (_ ∧ _))

variable {Rule : Type} {text other rest blanks : List Char} {c : Char} {value : Value Rule}
  {pieces : List Piece}

/-! ## Texts with the same lines -/

/-- A character that ends no line is the same in both texts. -/
theorem SameLines.exists_cons (same : SameLines (c :: text) other) (solid : Solid c) :
    ∃ more, other = c :: more ∧ SameLines text more := by
  rw [SameLines, Text.unifyNewlines_cons_of_ne solid.1] at same
  cases other with
  | nil => cases same
  | cons d more =>
    by_cases returns : d = '\r'
    · subst returns
      obtain ⟨lines, unified⟩ := Text.exists_unifyNewlines_return more
      rw [unified] at same
      exact absurd (List.cons.inj same).1 solid.2
    · rw [Text.unifyNewlines_cons_of_ne returns] at same
      obtain ⟨rfl, more⟩ := List.cons.inj same
      exact ⟨_, rfl, more⟩

/-- So is a run of such characters. -/
theorem SameLines.exists_append (front : List Char) (same : SameLines (front ++ text) other)
    (solid : ∀ c ∈ front, Solid c) : ∃ more, other = front ++ more ∧ SameLines text more := by
  induction front generalizing other with
  | nil => exact ⟨other, rfl, same⟩
  | cons c front inductionHypothesis =>
    obtain ⟨hereSolid, thereSolid⟩ := List.forall_mem_cons.mp solid
    obtain ⟨behind, rfl, sameBehind⟩ := same.exists_cons hereSolid
    obtain ⟨more, rfl, sameMore⟩ := inductionHypothesis sameBehind thereSolid
    exact ⟨more, rfl, sameMore⟩

/-- The ends of lines are blanks, so that skipping goes with unifying them. -/
theorem skipSpace_unifyNewlines (text : List Char) :
    skipSpace (unifyNewlines text) = unifyNewlines (skipSpace text) := by
  fun_induction unifyNewlines text with
  | case1 => rfl
  | case2 rest inductionHypothesis => exact inductionHypothesis
  | case3 rest _ inductionHypothesis => exact inductionHypothesis
  | case4 c rest _ notReturn inductionHypothesis =>
    by_cases space : isSpace c
    · rw [skipSpace, skipSpace, List.dropWhile_cons_of_pos space, List.dropWhile_cons_of_pos space]
      exact inductionHypothesis
    · rw [skipSpace, skipSpace, List.dropWhile_cons_of_neg space, List.dropWhile_cons_of_neg space,
        Text.unifyNewlines_cons_of_ne notReturn]

/-- Texts of the same lines still are, once the blanks in front are skipped. -/
theorem SameLines.skipSpace (same : SameLines text other) :
    SameLines (skipSpace text) (skipSpace other) := by
  rw [SameLines, ← skipSpace_unifyNewlines, ← skipSpace_unifyNewlines, same]

/-- Where blanks stand in one of the texts, blanks stand in the other. -/
theorem SameLines.exists_blanks (same : SameLines (blanks ++ text) other)
    (skipped : Json.skipSpace (blanks ++ text) = text) :
    ∃ blanksToo more, Blank blanksToo ∧ other = blanksToo ++ more ∧ SameLines text more := by
  obtain ⟨blanksToo, blankToo, whole⟩ := Json.exists_blanks other
  have behind := same.skipSpace
  rw [skipped] at behind
  exact ⟨blanksToo, _, blankToo, whole, behind⟩

/-- And the same character stands behind them. -/
theorem SameLines.exists_blanks_cons (same : SameLines (blanks ++ c :: text) other)
    (blank : Blank blanks) (solid : ¬ isSpace c) :
    ∃ blanksToo more, Blank blanksToo ∧ other = blanksToo ++ c :: more ∧ SameLines text more := by
  obtain ⟨blanksToo, behind, blankToo, rfl, sameBehind⟩ :=
    same.exists_blanks (skipSpace_append_cons blank solid)
  have solidToo : Solid c := by
    constructor <;> rintro rfl <;> exact solid (by decide)
  obtain ⟨more, rfl, sameMore⟩ := sameBehind.exists_cons solidToo
  exact ⟨blanksToo, more, blankToo, rfl, sameMore⟩

/-! ## Characters that end no line -/

/-- A fixed text is looked through. -/
theorem solid_of_all (checked : text.all fun c => decide (Solid c)) : ∀ c ∈ text, Solid c :=
  fun c member => of_decide_eq_true (List.all_eq_true.mp checked c member)

/-- A printable character ends no line. -/
theorem solid_of_printable (printable : 0x20 ≤ c.toNat) : Solid c := by
  constructor <;> rintro rfl <;> exact absurd printable (by decide)

/-- Nor does a letter that stands for a character behind a backslash. -/
theorem solid_of_escaped {letter : Char} (stands : escaped? letter = some c) : Solid letter := by
  constructor <;> rintro rfl <;> cases stands

/-- Nor does a hexadecimal digit. -/
theorem solid_of_hexDigit {digit : Nat} (denotes : hexDigit? c = some digit) : Solid c := by
  constructor <;> rintro rfl <;> cases denotes

/-- So the four digits of a code unit are solid. -/
theorem solid_of_codeUnit {w x y z : Char} {unit : Nat} (denotes : codeUnit? w x y z = some unit) :
    Solid w ∧ Solid x ∧ Solid y ∧ Solid z := by
  unfold codeUnit? at denotes
  split at denotes
  · rename_i first second third fourth
    exact ⟨solid_of_hexDigit first, solid_of_hexDigit second, solid_of_hexDigit third,
      solid_of_hexDigit fourth⟩
  · cases denotes

/-- Digits are solid. -/
theorem IsDigits.solid (digits : IsDigits text) : ∀ c ∈ text, Solid c := by
  intro c member
  have digit := digits.all c member
  constructor <;> rintro rfl <;> cases digit

/-- A word has no end of a line in it. -/
theorem solid_of_word {word : List Char} (listed : (word, value) ∈ wordLiterals) :
    ∀ c ∈ word, Solid c := by
  simp only [wordLiterals, List.mem_cons, Prod.mk.injEq, List.not_mem_nil, or_false] at listed
  rcases listed with entry | entry | entry | entry | entry | entry <;>
    obtain ⟨rfl, rfl⟩ := entry <;> exact solid_of_all rfl

/-- A number has no end of a line in it. -/
theorem Spells.solid {literal : Literal} {spelling : List Char} (spells : Spells literal spelling) :
    ∀ c ∈ spelling, Solid c := by
  cases spells with
  | parts signed counted pointed scaled =>
    simp only [List.forall_mem_append]
    refine ⟨?_, ?_, ?_, ?_⟩
    · cases signed <;> exact solid_of_all rfl
    · cases counted with
      | zero => exact solid_of_all rfl
      | digits digits _ => exact digits.solid
    · cases pointed with
      | absent => exact nofun
      | point digits => exact List.forall_mem_cons.mpr ⟨by decide, digits.solid⟩
    · cases scaled with
      | absent => exact nofun
      | marked marks signed digits =>
        rw [List.forall_mem_cons, List.forall_mem_append]
        refine ⟨?_, ?_, digits.solid⟩
        · rcases marks with rfl | rfl <;> decide
        · cases signed <;> exact solid_of_all rfl

/-! ## Values in texts with the same lines -/

/-- A quoted text has no end of a line in it. -/
theorem BeginsPieces.of_sameLines (begins : BeginsPieces text pieces rest)
    (same : SameLines text other) :
    ∃ left, SameLines rest left ∧ BeginsPieces other pieces left := by
  induction begins generalizing other with
  | closed =>
    obtain ⟨left, rfl, sameRest⟩ := same.exists_cons (by decide)
    exact ⟨left, sameRest, .closed⟩
  | plain notMark notEscape printable others inductionHypothesis =>
    have solid := solid_of_printable printable
    obtain ⟨more, rfl, sameMore⟩ := same.exists_cons solid
    obtain ⟨left, sameRest, othersToo⟩ := inductionHypothesis sameMore
    exact ⟨left, sameRest, .plain notMark notEscape printable othersToo⟩
  | escaped stands others inductionHypothesis =>
    have solid := solid_of_escaped stands
    obtain ⟨more, rfl, sameMore⟩ := SameLines.exists_append ['\\', _] same (by
      simp only [List.forall_mem_cons]
      exact ⟨by decide, solid, nofun⟩)
    obtain ⟨left, sameRest, othersToo⟩ := inductionHypothesis sameMore
    exact ⟨left, sameRest, .escaped stands othersToo⟩
  | numbered denotes others inductionHypothesis =>
    obtain ⟨solidW, solidX, solidY, solidZ⟩ := solid_of_codeUnit denotes
    obtain ⟨more, rfl, sameMore⟩ := SameLines.exists_append ['\\', 'u', _, _, _, _] same (by
      simp only [List.forall_mem_cons]
      exact ⟨by decide, by decide, solidW, solidX, solidY, solidZ, nofun⟩)
    obtain ⟨left, sameRest, othersToo⟩ := inductionHypothesis sameMore
    exact ⟨left, sameRest, .numbered denotes othersToo⟩

mutual

/-- In a text with the same lines the same value stands. -/
theorem begins_of_sameLines {text rest other : List Char} {value : Value Rule} :
    Begins text value rest → SameLines text other →
      ∃ left, SameLines rest left ∧ Begins other value left
  | .word listed, same => by
    obtain ⟨left, rfl, sameRest⟩ := same.exists_append _ (solid_of_word listed)
    exact ⟨left, sameRest, .word listed⟩
  | .number spells, same => by
    obtain ⟨left, rfl, sameRest⟩ := same.exists_append _ spells.solid
    exact ⟨left, sameRest, .number spells⟩
  | .text inside, same => by
    obtain ⟨more, rfl, sameMore⟩ := same.exists_cons (by decide)
    obtain ⟨left, sameRest, insideToo⟩ := inside.of_sameLines sameMore
    exact ⟨left, sameRest, .text insideToo⟩
  | .emptyList blank, same => by
    obtain ⟨more, rfl, sameMore⟩ := same.exists_cons (by decide)
    obtain ⟨blanksToo, left, blankToo, rfl, sameRest⟩ :=
      sameMore.exists_blanks_cons blank (by decide)
    exact ⟨left, sameRest, .emptyList blankToo⟩
  | .list blank inside, same => by
    obtain ⟨more, rfl, sameMore⟩ := same.exists_cons (by decide)
    obtain ⟨item, between, first⟩ := inside.exists_begins
    obtain ⟨blanksToo, items, blankToo, rfl, sameItems⟩ :=
      sameMore.exists_blanks (first.skipSpace_append blank)
    obtain ⟨left, sameRest, insideToo⟩ := beginsItems_of_sameLines inside sameItems
    exact ⟨left, sameRest, .list blankToo insideToo⟩
  | .emptyMapping blank, same => by
    obtain ⟨more, rfl, sameMore⟩ := same.exists_cons (by decide)
    obtain ⟨blanksToo, left, blankToo, rfl, sameRest⟩ :=
      sameMore.exists_blanks_cons blank (by decide)
    exact ⟨left, sameRest, .emptyMapping blankToo⟩
  | .mapping blank inside, same => by
    obtain ⟨more, rfl, sameMore⟩ := same.exists_cons (by decide)
    obtain ⟨blanksToo, members, blankToo, rfl, sameMembers⟩ :=
      sameMore.exists_blanks (inside.skipSpace_append blank)
    obtain ⟨left, sameRest, insideToo⟩ := beginsMembers_of_sameLines inside sameMembers
    exact ⟨left, sameRest, .mapping blankToo insideToo⟩

/-- The items of a list are those that begin any other text of the same lines. -/
theorem beginsItems_of_sameLines {text rest other : List Char} {items : List (Value Rule)} :
    BeginsItems text items rest → SameLines text other →
      ∃ left, SameLines rest left ∧ BeginsItems other items left
  | .last only blank, same => by
    obtain ⟨between, sameBetween, onlyToo⟩ := begins_of_sameLines only same
    obtain ⟨blanksToo, left, blankToo, rfl, sameRest⟩ :=
      sameBetween.exists_blanks_cons blank (by decide)
    exact ⟨left, sameRest, .last onlyToo blankToo⟩
  | .more first blank blankNext following, same => by
    obtain ⟨between, sameBetween, firstToo⟩ := begins_of_sameLines first same
    obtain ⟨blanksToo, more, blankToo, rfl, sameMore⟩ :=
      sameBetween.exists_blanks_cons blank (by decide)
    obtain ⟨item, _, next⟩ := following.exists_begins
    obtain ⟨blanksNextToo, others, blankNextToo, rfl, sameOthers⟩ :=
      sameMore.exists_blanks (next.skipSpace_append blankNext)
    obtain ⟨left, sameRest, followingToo⟩ := beginsItems_of_sameLines following sameOthers
    exact ⟨left, sameRest, .more firstToo blankToo blankNextToo followingToo⟩

/-- So is a member of an object: its name is solid, and its value begins the other text. -/
theorem beginsMember_of_sameLines {text rest other : List Char} {name : String}
    {value : Value Rule} :
    BeginsMember text name value rest → SameLines text other →
      ∃ left, SameLines rest left ∧ BeginsMember other name value left
  | .member named blank blankNext meant, same => by
    obtain ⟨quoted, rfl, sameQuoted⟩ := same.exists_cons (by decide)
    obtain ⟨between, sameBetween, namedToo⟩ := named.of_sameLines sameQuoted
    obtain ⟨blanksToo, more, blankToo, rfl, sameMore⟩ :=
      sameBetween.exists_blanks_cons blank (by decide)
    obtain ⟨blanksNextToo, text, blankNextToo, rfl, sameText⟩ :=
      sameMore.exists_blanks (meant.skipSpace_append blankNext)
    obtain ⟨left, sameRest, meantToo⟩ := begins_of_sameLines meant sameText
    exact ⟨left, sameRest, .member namedToo blankToo blankNextToo meantToo⟩

/-- And so are all the members. The three run along the derivations of each other. -/
theorem beginsMembers_of_sameLines {text rest other : List Char}
    {members : List (String × Value Rule)} :
    BeginsMembers text members rest → SameLines text other →
      ∃ left, SameLines rest left ∧ BeginsMembers other members left
  | .last only blank, same => by
    obtain ⟨between, sameBetween, onlyToo⟩ := beginsMember_of_sameLines only same
    obtain ⟨blanksToo, left, blankToo, rfl, sameRest⟩ :=
      sameBetween.exists_blanks_cons blank (by decide)
    exact ⟨left, sameRest, .last onlyToo blankToo⟩
  | .more first blank blankNext following, same => by
    obtain ⟨between, sameBetween, firstToo⟩ := beginsMember_of_sameLines first same
    obtain ⟨blanksToo, more, blankToo, rfl, sameMore⟩ :=
      sameBetween.exists_blanks_cons blank (by decide)
    obtain ⟨blanksNextToo, others, blankNextToo, rfl, sameOthers⟩ :=
      sameMore.exists_blanks (following.skipSpace_append blankNext)
    obtain ⟨left, sameRest, followingToo⟩ := beginsMembers_of_sameLines following sameOthers
    exact ⟨left, sameRest, .more firstToo blankToo blankNextToo followingToo⟩

end

/-- A text with the same lines is the writing of the same value. -/
theorem IsJson.of_sameLines (isJson : IsJson text value) (same : SameLines text other) :
    IsJson other value := by
  obtain ⟨before, inside, after, blank, blankAfter, rfl, begins⟩ := isJson
  obtain ⟨beforeToo, insideToo, blankToo, rfl, sameInside⟩ :=
    same.exists_blanks (begins.skipSpace_append blank)
  obtain ⟨left, sameAfter, beginsToo⟩ := begins_of_sameLines begins sameInside
  refine ⟨beforeToo, insideToo, left, blankToo, ?_, rfl, beginsToo⟩
  have nothing := sameAfter.skipSpace
  rw [skipSpace_eq_nil_iff.mpr blankAfter] at nothing
  exact skipSpace_eq_nil_iff.mp (Text.unifyNewlines_eq_nil_iff.mp nothing.symm)

/-- So a file holds the same value, with its own ends of lines and with line feeds. -/
theorem isJson_unifyNewlines_iff : IsJson (unifyNewlines text) value ↔ IsJson text value := by
  have same : SameLines (unifyNewlines text) text :=
    Text.unifyNewlines_of_notMem (Text.return_notMem_unifyNewlines text)
  exact ⟨fun isJson => isJson.of_sameLines same, fun isJson => isJson.of_sameLines same.symm⟩

end ClassOrder.Json
