import ClassOrder.Markup.Attribute

/-!
# The form of a class attribute

The form is stated here on its own: the word, an equals sign between blanks or none, and a
value that the mark in front of it does not occur in. An attribute of this form is taken
from the front of a text exactly when it stands there, so no two attributes can be taken
from one place. The lead and the mark alone decide whether an attribute begins, provided
that the mark occurs again.
-/
namespace ClassOrder.Markup.Attribute

variable {found other : Attribute} {text rest : List Char} {c : Char}

/-- What an attribute begins with: the word, and an equals sign between blanks. -/
def IsLead (lead : List Char) : Prop :=
  ∃ before after, (∀ c ∈ before, Text.isBlank c = true) ∧ (∀ c ∈ after, Text.isBlank c = true) ∧
    lead = "class".toList ++ before ++ '=' :: after

/-- An attribute has the form of a class attribute, and its value ends at the first mark of
the kind that opened it. -/
structure WellFormed (found : Attribute) : Prop where
  lead : IsLead found.lead
  mark : found.mark = '\x22' ∨ found.mark = '\x27'
  value : found.mark ∉ found.value

/-! ## Taking an attribute -/

/-- A run of blanks is taken up to what follows it. -/
theorem takeBlanks_append {front : List Char} (blank : ∀ c ∈ front, Text.isBlank c = true)
    (solid : Text.isBlank c = false) : takeBlanks (front ++ c :: rest) = (front, c :: rest) := by
  rw [takeBlanks, List.takeWhile_append_of_pos blank, List.dropWhile_append_of_pos blank]
  simp [solid]

/-- A value is taken up to the first mark. -/
theorem takeValue_append {mark : Char} {value : List Char} (absent : mark ∉ value) :
    takeValue mark (value ++ mark :: rest) = some (value, rest) := by
  have inside : ∀ c ∈ value, (c != mark) = true := by
    rintro c member
    have different : c ≠ mark := fun same => absent (same ▸ member)
    simpa using different
  rw [takeValue, List.takeWhile_append_of_pos inside, List.dropWhile_append_of_pos inside]
  simp

/-- Neither mark is a blank. -/
theorem not_blank_of_mark {mark : Char} (isMark : mark = '\x22' ∨ mark = '\x27') :
    Text.isBlank mark = false := by
  rcases isMark with rfl | rfl
  · decide
  · decide

/-- An attribute of the form is taken from wherever it stands. -/
theorem take_text (wellFormed : found.WellFormed) :
    take (found.text ++ rest) = some (found, rest) := by
  obtain ⟨lead, mark, value⟩ := found
  obtain ⟨⟨before, after, blankBefore, blankAfter, rfl⟩, isMark, absent⟩ := wellFormed
  have whole : Attribute.text ⟨"class".toList ++ before ++ '=' :: after, mark, value⟩ ++ rest =
      keyword ++ (before ++ '=' :: (after ++ mark :: (value ++ mark :: rest))) := by
    simp [Attribute.text, keyword]
  have sign : Text.isBlank '=' = false := by decide
  have marked : Attribute.isMark mark = true := by
    rcases isMark with rfl | rfl
    · decide
    · decide
  have begins : keyword.isPrefixOf
      (keyword ++ (before ++ '=' :: (after ++ mark :: (value ++ mark :: rest)))) = true :=
    List.isPrefixOf_iff_prefix.mpr (List.prefix_append _ _)
  rw [whole, take, if_pos begins, List.drop_left, takeBlanks_append blankBefore sign]
  simp only [takeBlanks_append blankAfter (not_blank_of_mark isMark), marked,
    takeValue_append absent, if_true]
  rfl

/-- Whatever is taken from a text has the form. -/
theorem wellFormed_of_take (taken : take text = some (found, rest)) : found.WellFormed := by
  unfold take at taken
  split at taken
  · simp only [takeBlanks] at taken
    split at taken
    · rename_i afterSign signed
      split at taken
      · rename_i mark afterMark marked
        split at taken
        · rename_i isMark
          split at taken
          · rename_i value closed valued
            simp only [Option.some.injEq, Prod.mk.injEq] at taken
            obtain ⟨rfl, rfl⟩ := taken
            refine ⟨⟨_, _, ?_, ?_, rfl⟩, ?_, ?_⟩
            · exact List.all_eq_true.mp List.all_takeWhile
            · exact List.all_eq_true.mp List.all_takeWhile
            · simpa [Attribute.isMark] using isMark
            · unfold takeValue at valued
              split at valued
              · cases valued
              · cases valued
                intro inside
                simpa using List.all_eq_true.mp List.all_takeWhile mark inside
          · cases taken
        · cases taken
      · cases taken
    · cases taken
  · cases taken

/-- An attribute is taken exactly when it has the form and stands in front of the rest. -/
theorem take_eq_some_iff : take text = some (found, rest) ↔
    found.WellFormed ∧ text = found.text ++ rest := by
  constructor
  · intro taken
    exact ⟨wellFormed_of_take taken, (text_take taken).symm⟩
  · rintro ⟨wellFormed, rfl⟩
    exact take_text wellFormed

/-- No two attributes stand at the front of one text. -/
theorem WellFormed.unique {others : List Char} (wellFormed : found.WellFormed)
    (otherWellFormed : other.WellFormed) (same : found.text ++ rest = other.text ++ others) :
    found = other ∧ rest = others := by
  have taken : take (found.text ++ rest) = some (found, rest) := take_text wellFormed
  rw [same, take_text otherWellFormed] at taken
  simp only [Option.some.injEq, Prod.mk.injEq] at taken
  exact ⟨taken.1.symm, taken.2.symm⟩

/-! ## Where an attribute begins -/

/-- An attribute begins at a place of a source: its form is right, no character before it
makes its name the end of a longer one, and its text stands there. -/
structure Begins (found : Attribute) (before text : List Char) : Prop where
  wellFormed : found.WellFormed
  free : ∀ c, before.getLast? = some c → continuesName c = false
  stands : found.text <+: text

/-- Behind a lead and a mark that occurs again, an attribute begins. -/
theorem exists_begins {before lead : List Char} {mark : Char} (isLead : IsLead lead)
    (isMark : mark = '\x22' ∨ mark = '\x27')
    (free : ∀ c, before.getLast? = some c → continuesName c = false) (closes : mark ∈ rest) :
    ∃ found : Attribute, found.Begins before (lead ++ mark :: rest) := by
  obtain ⟨value, behind, rfl, absent⟩ := List.eq_append_cons_of_mem closes
  refine ⟨⟨lead, mark, value⟩, ⟨isLead, isMark, absent⟩, free, behind, ?_⟩
  simp [Attribute.text]

/-- The lead begins with the first letter of the word, which does not come again in it. -/
theorem IsLead.first {lead : List Char} (isLead : IsLead lead) :
    ∃ more, lead = 'c' :: more ∧ 'c' ∉ more := by
  obtain ⟨before, after, blankBefore, blankAfter, rfl⟩ := isLead
  have solid : Text.isBlank 'c' = false := by decide
  have notBefore : 'c' ∉ before := fun member => by simp [blankBefore _ member] at solid
  have notAfter : 'c' ∉ after := fun member => by simp [blankAfter _ member] at solid
  exact ⟨"lass".toList ++ before ++ '=' :: after, by simp, by simp [notBefore, notAfter]⟩

end ClassOrder.Markup.Attribute
