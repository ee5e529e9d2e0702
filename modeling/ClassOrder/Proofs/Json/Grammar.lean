import ClassOrder.Json.Reader
import ClassOrder.Proofs.Json.Number
import ClassOrder.Proofs.Json.Text

/-!
# How values are written

The grammar of JSON, with what is left of a text behind a value. It says how a text is divided up,
and nothing about how it is read: blanks may stand between any two tokens, a list is a value or
several with commas between them, and so is an object, with a name in front of each value. How a
text begins tells what may stand there, so blanks in front of a value end where the value begins.
-/
namespace ClassOrder.Json

/-- Blanks, or nothing. -/
def Blank (blanks : List Char) : Prop :=
  ∀ c ∈ blanks, isSpace c

variable {Rule : Type}

mutual

/-- A text begins with a value, and what is left behind it. -/
inductive Begins : List Char → Value Rule → List Char → Prop
  | word {word rest : List Char} {value : Value Rule} (listed : (word, value) ∈ wordLiterals) :
      Begins (word ++ rest) value rest
  | number {spelling rest : List Char} {literal : Literal} (spells : Spells literal spelling) :
      Begins (spelling ++ rest) literal.value rest
  | text {text rest : List Char} {pieces : List Piece} (inside : BeginsPieces text pieces rest) :
      Begins (textMark :: text) (.text (String.ofList (charactersOf pieces))) rest
  | emptyList {blanks rest : List Char} (blank : Blank blanks) :
      Begins ('[' :: (blanks ++ ']' :: rest)) (.list []) rest
  | list {blanks text rest : List Char} {items : List (Value Rule)} (blank : Blank blanks)
      (inside : BeginsItems text items rest) : Begins ('[' :: (blanks ++ text)) (.list items) rest
  | emptyMapping {blanks rest : List Char} (blank : Blank blanks) :
      Begins ('\x7b' :: (blanks ++ '\x7d' :: rest)) (.mapping []) rest
  | mapping {blanks text rest : List Char} {members : List (String × Value Rule)}
      (blank : Blank blanks) (inside : BeginsMembers text members rest) :
      Begins ('\x7b' :: (blanks ++ text)) (.mapping (Entries.ofPairs members)) rest

/-- A text begins with the items of a list, up to the closing bracket. -/
inductive BeginsItems : List Char → List (Value Rule) → List Char → Prop
  | last {text blanks rest : List Char} {item : Value Rule}
      (only : Begins text item (blanks ++ ']' :: rest)) (blank : Blank blanks) :
      BeginsItems text [item] rest
  | more {text blanks blanksToo others rest : List Char} {item : Value Rule}
      {items : List (Value Rule)} (first : Begins text item (blanks ++ ',' :: (blanksToo ++ others)))
      (blank : Blank blanks) (blankToo : Blank blanksToo) (following : BeginsItems others items rest) :
      BeginsItems text (item :: items) rest

/-- A text begins with the name and the value of a member of an object. -/
inductive BeginsMember : List Char → String → Value Rule → List Char → Prop
  | member {name blanks blanksToo text rest : List Char} {pieces : List Piece} {value : Value Rule}
      (named : BeginsPieces name pieces (blanks ++ ':' :: (blanksToo ++ text)))
      (blank : Blank blanks) (blankToo : Blank blanksToo) (meant : Begins text value rest) :
      BeginsMember (textMark :: name) (String.ofList (charactersOf pieces)) value rest

/-- A text begins with the members of an object, up to the closing brace. -/
inductive BeginsMembers : List Char → List (String × Value Rule) → List Char → Prop
  | last {text blanks rest : List Char} {name : String} {value : Value Rule}
      (only : BeginsMember text name value (blanks ++ '\x7d' :: rest)) (blank : Blank blanks) :
      BeginsMembers text [(name, value)] rest
  | more {text blanks blanksToo others rest : List Char} {name : String} {value : Value Rule}
      {members : List (String × Value Rule)}
      (first : BeginsMember text name value (blanks ++ ',' :: (blanksToo ++ others)))
      (blank : Blank blanks) (blankToo : Blank blanksToo)
      (following : BeginsMembers others members rest) :
      BeginsMembers text ((name, value) :: members) rest

end

/-- A text is the writing of a value: blanks, the value, and blanks. -/
def IsJson (text : List Char) (value : Value Rule) : Prop :=
  ∃ before inside after, Blank before ∧ Blank after ∧ text = before ++ inside ∧
    Begins inside value after

variable {text rest blanks : List Char} {value : Value Rule} {items : List (Value Rule)}

/-! ## Blanks -/

/-- Blanks are skipped. -/
theorem exists_blanks (text : List Char) :
    ∃ blanks, Blank blanks ∧ text = blanks ++ skipSpace text :=
  ⟨text.takeWhile isSpace, fun _ member => List.mem_takeWhile_imp member,
    List.takeWhile_append_dropWhile.symm⟩

/-- Nothing is left of blanks. -/
theorem skipSpace_eq_nil_iff : skipSpace blanks = [] ↔ Blank blanks :=
  List.dropWhile_eq_nil_iff

/-- Blanks in front of another character are skipped. -/
theorem skipSpace_append_cons {c : Char} (blank : Blank blanks) (solid : ¬ isSpace c) :
    skipSpace (blanks ++ c :: rest) = c :: rest := by
  rw [skipSpace, List.dropWhile_append_of_pos blank, List.dropWhile_cons_of_neg solid]

/-! ## How a value begins -/

/-- The characters that a word or a number may begin with. -/
def BeginsLiteral (c : Char) : Prop :=
  c ∈ ['n', 't', 'f', 'N', 'I', '-'] ∨ c.isDigit

/-- Whether a word or a number may begin with a character is decided by a list of characters. -/
instance (c : Char) : Decidable (BeginsLiteral c) :=
  inferInstanceAs (Decidable (_ ∨ _))

/-- A word begins with one of these characters. -/
theorem exists_cons_of_word {word : List Char} (listed : (word, value) ∈ wordLiterals) :
    ∃ c more, word = c :: more ∧ BeginsLiteral c := by
  simp only [wordLiterals, List.mem_cons, Prod.mk.injEq, List.not_mem_nil, or_false] at listed
  rcases listed with entry | entry | entry | entry | entry | entry <;>
    obtain ⟨rfl, rfl⟩ := entry <;> exact ⟨_, _, rfl, by decide⟩

/-- A number begins with one of these characters. -/
theorem Spells.exists_cons {literal : Literal} {spelling : List Char}
    (spells : Spells literal spelling) : ∃ c more, spelling = c :: more ∧ BeginsLiteral c := by
  obtain ⟨d, more, digit, rfl | rfl⟩ := spells.begins
  · exact ⟨d, more, rfl, .inr digit⟩
  · exact ⟨'-', d :: more, rfl, by decide⟩

/-- What begins with one of these characters is a word or a number. -/
theorem BeginsLiteral.ne {c other : Char} (begins : BeginsLiteral c) (not : ¬ BeginsLiteral other) :
    c ≠ other := by
  rintro rfl
  exact not begins

/-- A value begins with a character that is no blank, no closing bracket and no mark of the byte
order. -/
theorem Begins.exists_cons (begins : Begins text value rest) :
    ∃ c more, text = c :: more ∧ ¬ isSpace c ∧ c ≠ ']' ∧ c ≠ '\uFEFF' := by
  have literal {c : Char} (begins : BeginsLiteral c) : ¬ isSpace c ∧ c ≠ ']' ∧ c ≠ '\uFEFF' := by
    refine ⟨?_, begins.ne (by decide), begins.ne (by decide)⟩
    simp [isSpace, begins.ne (show ¬ BeginsLiteral ' ' by decide),
      begins.ne (show ¬ BeginsLiteral '\t' by decide),
      begins.ne (show ¬ BeginsLiteral '\n' by decide),
      begins.ne (show ¬ BeginsLiteral '\r' by decide)]
  cases begins with
  | word listed =>
    obtain ⟨c, more, rfl, first⟩ := exists_cons_of_word listed
    exact ⟨c, _, rfl, literal first⟩
  | number spells =>
    obtain ⟨c, more, rfl, first⟩ := spells.exists_cons
    exact ⟨c, _, rfl, literal first⟩
  | text inside => exact ⟨_, _, rfl, by decide, by decide, by decide⟩
  | emptyList blank => exact ⟨_, _, rfl, by decide, by decide, by decide⟩
  | list blank inside => exact ⟨_, _, rfl, by decide, by decide, by decide⟩
  | emptyMapping blank => exact ⟨_, _, rfl, by decide, by decide, by decide⟩
  | mapping blank inside => exact ⟨_, _, rfl, by decide, by decide, by decide⟩

/-- In front of a value blanks are skipped. -/
theorem Begins.skipSpace_append (begins : Begins text value rest) (blank : Blank blanks) :
    skipSpace (blanks ++ text) = text := by
  obtain ⟨c, more, rfl, solid, _⟩ := begins.exists_cons
  exact skipSpace_append_cons blank solid

/-- The items of a list begin with a value. -/
theorem BeginsItems.exists_begins (begins : BeginsItems text items rest) :
    ∃ (item : Value Rule) (between : List Char), Begins text item between := by
  cases begins with
  | last only _ => exact ⟨_, _, only⟩
  | more first _ _ _ => exact ⟨_, _, first⟩

/-- The members of an object begin with a mark. -/
theorem BeginsMembers.exists_cons {pairs : List (String × Value Rule)}
    (begins : BeginsMembers text pairs rest) : ∃ quoted, text = textMark :: quoted := by
  cases begins with
  | last only _ =>
    cases only
    exact ⟨_, rfl⟩
  | more first _ _ _ =>
    cases first
    exact ⟨_, rfl⟩

/-- In front of them blanks are skipped. -/
theorem BeginsMembers.skipSpace_append {pairs : List (String × Value Rule)}
    (begins : BeginsMembers text pairs rest) (blank : Blank blanks) :
    skipSpace (blanks ++ text) = text := by
  obtain ⟨quoted, rfl⟩ := begins.exists_cons
  exact skipSpace_append_cons blank (by decide)

/-- A text that a value is written in does not begin with the mark of the byte order. -/
theorem IsJson.head?_ne (isJson : IsJson text value) : text.head? ≠ some '\uFEFF' := by
  obtain ⟨before, inside, after, blank, _, rfl, begins⟩ := isJson
  cases before with
  | nil =>
    obtain ⟨c, more, rfl, _, _, noMark⟩ := begins.exists_cons
    exact fun mark => noMark (Option.some.inj mark)
  | cons c before =>
    rintro ⟨⟩
    exact absurd (blank _ List.mem_cons_self) (by decide)

end ClassOrder.Json
