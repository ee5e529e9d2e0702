import ClassOrder.Proofs.Json.Taking

/-!
# Reading follows the grammar

What the reader takes from the front of a text is what the grammar says stands there. That what is
taken is derived by the grammar follows by induction on the length of the text, and that what the
grammar derives is taken follows by induction on the derivation. Only behind a number it matters
what comes next, because the longest number is taken.
-/
namespace ClassOrder.Json

variable {Rule : Type} {text rest blanks : List Char} {value : Value Rule}

/-! ## What is taken is written there -/

/-- A word that is taken is listed and stands there. -/
theorem takeWord_sound (taken : takeWord text = some (value, rest)) :
    ∃ word, (word, value) ∈ wordLiterals ∧ text = word ++ rest := by
  obtain ⟨⟨word, meaning⟩, listed, found⟩ := List.exists_of_findSome?_eq_some taken
  dsimp only at found
  split at found
  · rename_i front
    obtain ⟨behind, rfl⟩ := List.isPrefixOf_iff_prefix.mp front
    cases found
    exact ⟨word, listed, by rw [List.drop_left]⟩
  · cases found

mutual

/-- A value that is taken is written there. -/
theorem begins_of_takes {text rest : List Char} {value : Value Rule}
    (takes : Takes text value rest) : Begins text value rest := by
  cases text with
  | nil =>
    obtain ⟨shorter, _⟩ := takes
    exact absurd shorter (Nat.not_lt_zero _)
  | cons c text =>
    by_cases mark : c = textMark
    · subst mark
      obtain ⟨inside, ended, rfl⟩ := takes_text_iff.mp takes
      obtain ⟨pieces, begins, rfl⟩ := takeText_eq_ok_iff.mp ended
      exact .text begins
    obtain ⟨blanks, blank, whole⟩ := exists_blanks text
    have bound := length_skipSpace text
    by_cases list : c = '['
    · subst list
      rw [whole]
      rcases takes_list_iff.mp takes with ⟨skipped, rfl⟩ | ⟨_, items, taken, rfl⟩
      · rw [skipped]
        exact .emptyList blank
      · exact .list blank (begins_of_takesItems taken)
    by_cases mapping : c = '\x7b'
    · subst mapping
      rw [whole]
      rcases takes_mapping_iff.mp takes with ⟨skipped, rfl⟩ | ⟨_, members, taken, rfl⟩
      · rw [skipped]
        exact .emptyMapping blank
      · obtain ⟨pairs, begins, rfl⟩ := begins_of_takesMembers taken
        exact .mapping blank begins
    rcases (takes_literal_iff mark list mapping).mp takes with found | ⟨_, literal, counted, rfl⟩
    · obtain ⟨word, listed, same⟩ := takeWord_sound found
      rw [same]
      exact .word listed
    · obtain ⟨spelling, spells, same⟩ := takeLiteral_sound counted
      rw [same]
      exact .number spells
termination_by 2 * text.length
decreasing_by all_goals (subst_vars; simp only [List.length_cons]; omega)

/-- Items that are taken are written there. -/
theorem begins_of_takesItems {text rest : List Char} {items : List (Value Rule)}
    (takes : TakesItems text items rest) : BeginsItems text items rest := by
  obtain ⟨item, between, first, following⟩ := takesItems_iff.mp takes
  obtain ⟨blanks, blank, whole⟩ := exists_blanks between
  have begins := begins_of_takes first
  obtain ⟨shorter, _⟩ := first
  rw [whole] at begins
  rcases following with ⟨skipped, rfl⟩ | ⟨others, more, skipped, taken, rfl⟩
  · rw [skipped] at begins
    exact .last begins blank
  · obtain ⟨blanksToo, blankToo, wholeToo⟩ := exists_blanks others
    have bound := length_of_skipSpace skipped
    have spaced := length_skipSpace others
    rw [skipped, wholeToo] at begins
    exact .more begins blank blankToo (begins_of_takesItems taken)
termination_by 2 * text.length + 1
decreasing_by all_goals omega

/-- Members that are taken are written there. -/
theorem begins_of_takesMembers {text rest : List Char} {read members : Entries (Value Rule)}
    (takes : TakesMembers read text members rest) :
    ∃ pairs, BeginsMembers text pairs rest ∧ members = Entries.merge read pairs := by
  obtain ⟨_, value, between, ⟨quoted, inside, afterName, afterColon, rfl, ended, separated, rfl,
    first⟩, following⟩ := takesMembers_iff.mp takes
  have named := length_takeText ended
  have colon := length_of_skipSpace separated
  have spacedValue := length_skipSpace afterColon
  have begins := begins_of_takes first
  obtain ⟨shorter, _⟩ := first
  obtain ⟨pieces, namePieces, rfl⟩ := takeText_eq_ok_iff.mp ended
  have member : BeginsMember (textMark :: quoted) (String.ofList (charactersOf pieces)) value
      between := by
    obtain ⟨blanks, blank, whole⟩ := exists_blanks afterName
    obtain ⟨blanksToo, blankToo, wholeToo⟩ := exists_blanks afterColon
    rw [whole, separated, wholeToo] at namePieces
    exact .member namePieces blank blankToo begins
  obtain ⟨blanks, blank, whole⟩ := exists_blanks between
  rcases following with ⟨skipped, rfl⟩ | ⟨others, skipped, taken⟩
  · rw [whole, skipped] at member
    exact ⟨_, .last member blank, rfl⟩
  · obtain ⟨blanksToo, blankToo, wholeToo⟩ := exists_blanks others
    have bound := length_of_skipSpace skipped
    have spaced := length_skipSpace others
    rw [whole, skipped, wholeToo] at member
    obtain ⟨pairs, following, rfl⟩ := begins_of_takesMembers taken
    exact ⟨_, .more member blank blankToo following, rfl⟩
termination_by 2 * text.length
decreasing_by all_goals (subst_vars; simp only [List.length_cons]; omega)

end

/-! ## What is written is taken -/

/-- A number ends in front of blanks. -/
theorem endsNumber_of_blank (blank : Blank blanks) (ends : EndsNumber rest) :
    EndsNumber (blanks ++ rest) := by
  cases blanks with
  | nil => exact ends
  | cons c blanks =>
    rintro _ ⟨⟩
    have space := blank c List.mem_cons_self
    simp only [isSpace, Bool.or_eq_true, beq_iff_eq] at space
    rcases space with ((rfl | rfl) | rfl) | rfl <;> decide

/-- A number ends in front of a comma, a bracket and a brace. -/
theorem endsNumber_cons {c : Char} (closes : c = ',' ∨ c = ']' ∨ c = '\x7d') :
    EndsNumber (c :: rest) := by
  rintro _ ⟨⟩
  rcases closes with rfl | rfl | rfl <;> decide

/-- A listed word that stands at the front is taken. -/
theorem takeWord_append {word : List Char} (listed : (word, value) ∈ wordLiterals) :
    takeWord (word ++ rest) = some (value, rest) := by
  simp only [wordLiterals, List.mem_cons, Prod.mk.injEq, List.not_mem_nil, or_false] at listed
  rcases listed with entry | entry | entry | entry | entry | entry <;>
    obtain ⟨rfl, rfl⟩ := entry <;> rfl

/-- No word is taken where a number stands. -/
theorem Spells.takeWord_append {literal : Literal} {spelling : List Char}
    (spells : Spells literal spelling) : @takeWord Rule (spelling ++ rest) = none := by
  obtain ⟨d, more, digit, begins⟩ := spells.begins
  have other {c : Char} (noDigit : ¬ c.isDigit) : c ≠ d := by
    rintro rfl
    exact noDigit digit
  rw [takeWord, List.findSome?_eq_none_iff]
  rintro ⟨word, meaning⟩ listed
  simp only [wordLiterals, List.mem_cons, Prod.mk.injEq, List.not_mem_nil, or_false] at listed
  rcases begins with rfl | rfl <;>
    rcases listed with entry | entry | entry | entry | entry | entry <;>
      obtain ⟨rfl, rfl⟩ := entry <;> simp [List.isPrefixOf, other]

mutual

/-- A value that is written at the front of a text is taken. -/
theorem takes_of_begins {text rest : List Char} {value : Value Rule} :
    Begins text value rest → EndsNumber rest → Takes text value rest
  | .word listed, _ => by
    obtain ⟨c, more, rfl, first⟩ := exists_cons_of_word listed
    rw [List.cons_append, takes_literal_iff (first.ne (by decide)) (first.ne (by decide))
      (first.ne (by decide)), ← List.cons_append]
    exact .inl (takeWord_append listed)
  | .number spells, ends => by
    obtain ⟨c, more, rfl, first⟩ := spells.exists_cons
    rw [List.cons_append, takes_literal_iff (first.ne (by decide)) (first.ne (by decide))
      (first.ne (by decide)), ← List.cons_append]
    exact .inr ⟨spells.takeWord_append, _, spells.takeLiteral_append ends, rfl⟩
  | .text inside, _ => takes_text_iff.mpr ⟨_, takeText_eq_ok_iff.mpr ⟨_, inside, rfl⟩, rfl⟩
  | .emptyList blank, _ =>
    takes_list_iff.mpr (.inl ⟨skipSpace_append_cons blank (by decide), rfl⟩)
  | .list blank inside, _ => by
    have items := takesItems_of_begins inside
    obtain ⟨item, between, first⟩ := inside.exists_begins
    obtain ⟨c, more, rfl, _, noBracket, _⟩ := first.exists_cons
    have skipped := first.skipSpace_append blank
    refine takes_list_iff.mpr (.inr ⟨?_, _, skipped.symm ▸ items, rfl⟩)
    intro after closed
    exact noBracket (List.cons.inj (skipped.symm.trans closed)).1
  | .emptyMapping blank, _ =>
    takes_mapping_iff.mpr (.inl ⟨skipSpace_append_cons blank (by decide), rfl⟩)
  | .mapping blank inside, _ => by
    have members := takesMembers_of_begins inside []
    obtain ⟨quoted, marked⟩ := inside.exists_cons
    have skipped := inside.skipSpace_append blank
    refine takes_mapping_iff.mpr (.inr ⟨?_, _, skipped.symm ▸ members, rfl⟩)
    intro after closed
    rw [skipped, marked] at closed
    cases closed

/-- Items that are written at the front of a text are taken. -/
theorem takesItems_of_begins {text rest : List Char} {items : List (Value Rule)} :
    BeginsItems text items rest → TakesItems text items rest
  | .last only blank => by
    have taken := takes_of_begins only (endsNumber_of_blank blank (endsNumber_cons (by decide)))
    exact takesItems_iff.mpr
      ⟨_, _, taken, .inl ⟨skipSpace_append_cons blank (by decide), rfl⟩⟩
  | .more first blank blankToo following => by
    have taken := takes_of_begins first (endsNumber_of_blank blank (endsNumber_cons (by decide)))
    have others := takesItems_of_begins following
    obtain ⟨item, between, next⟩ := following.exists_begins
    exact takesItems_iff.mpr ⟨_, _, taken, .inr ⟨_, _, skipSpace_append_cons blank (by decide),
      (next.skipSpace_append blankToo).symm ▸ others, rfl⟩⟩

/-- A member that is written at the front of a text is taken. -/
theorem takesMember_of_begins {text rest : List Char} {name : String} {value : Value Rule} :
    BeginsMember text name value rest → EndsNumber rest → TakesMember text name value rest
  | .member named blank blankToo meant, ends => by
    have taken := takes_of_begins meant ends
    exact ⟨_, _, _, _, rfl, takeText_eq_ok_iff.mpr ⟨_, named, rfl⟩,
      skipSpace_append_cons blank (by decide), rfl, (meant.skipSpace_append blankToo).symm ▸ taken⟩

/-- Members that are written at the front of a text are taken. -/
theorem takesMembers_of_begins {text rest : List Char} {pairs : List (String × Value Rule)} :
    BeginsMembers text pairs rest → ∀ read, TakesMembers read text (Entries.merge read pairs) rest
  | .last only blank, read => by
    have taken := takesMember_of_begins only
      (endsNumber_of_blank blank (endsNumber_cons (by decide)))
    exact takesMembers_iff.mpr
      ⟨_, _, _, taken, .inl ⟨skipSpace_append_cons blank (by decide), rfl⟩⟩
  | .more first blank blankToo following, read => by
    have taken := takesMember_of_begins first
      (endsNumber_of_blank blank (endsNumber_cons (by decide)))
    have others := takesMembers_of_begins following
    exact takesMembers_iff.mpr ⟨_, _, _, taken, .inr ⟨_, skipSpace_append_cons blank (by decide),
      (following.skipSpace_append blankToo).symm ▸ others _⟩⟩

end

/-! ## Reading a whole text -/

/-- A text is read as a value exactly when it is the writing of the value. -/
theorem read_eq_ok_iff {text : String} : Json.read text = .ok value ↔ IsJson text.toList value := by
  unfold Json.read
  dsimp only
  constructor
  · intro result
    split at result
    · cases result
    split at result
    · cases result
    · rename_i taken found
      split at result
      · rename_i nothing
        obtain rfl := Except.ok.inj result
        obtain ⟨before, blank, whole⟩ := exists_blanks text.toList
        have left : Blank taken.rest := skipSpace_eq_nil_iff.mp (List.isEmpty_iff.mp nothing)
        exact ⟨before, _, taken.rest, blank, left, whole, begins_of_takes ⟨taken.shorter, found⟩⟩
      · cases result
  · intro isJson
    rw [if_neg (by simpa using isJson.head?_ne)]
    obtain ⟨before, inside, after, blank, blankToo, whole, begins⟩ := isJson
    have ends : EndsNumber after := by
      have atEnd := endsNumber_of_blank blankToo (show EndsNumber [] from nofun)
      rwa [List.append_nil] at atEnd
    have takes : Takes (skipSpace text.toList) value after := by
      rw [whole, begins.skipSpace_append blank]
      exact takes_of_begins begins ends
    obtain ⟨shorter, taken⟩ := takes
    rw [taken]
    dsimp only
    rw [skipSpace_eq_nil_iff.mpr blankToo]
    rfl

/-- A text is the writing of one value at most. -/
theorem IsJson.unique {other : Value Rule} (isJson : IsJson text value)
    (isJsonToo : IsJson text other) : value = other := by
  have written : text = (String.ofList text).toList := String.toList_ofList.symm
  rw [written, ← read_eq_ok_iff] at isJson isJsonToo
  exact Except.ok.inj (isJson.symm.trans isJsonToo)

end ClassOrder.Json
