import ClassOrder.Proofs.Fallible
import ClassOrder.Proofs.Json.Grammar

/-!
# What the reader takes

Each function of the reader takes something from the front of a text and leaves the rest. One law
for each of them says when it takes what, from what the functions take that it calls. In these
laws the bounds that the functions recurse on no longer occur.
-/
namespace ClassOrder.Json

variable {Rule : Type} {text rest : List Char} {value : Value Rule} {items : List (Value Rule)}
  {members read : Entries (Value Rule)}

/-- A value is taken from the front of a text, and the rest is left. -/
def Takes (text : List Char) (value : Value Rule) (rest : List Char) : Prop :=
  ∃ shorter, takeValue text = .ok ⟨value, rest, shorter⟩

/-- The items of a list are taken from the front of a text. -/
def TakesItems (text : List Char) (items : List (Value Rule)) (rest : List Char) : Prop :=
  ∃ shorter, takeItems text = .ok ⟨items, rest, shorter⟩

/-- The name and the value of a member are taken from the front of a text. -/
def TakesMember (text : List Char) (name : String) (value : Value Rule) (rest : List Char) : Prop :=
  ∃ quoted inside afterName afterColon, text = textMark :: quoted ∧
    takeText quoted = .ok (inside, afterName) ∧ skipSpace afterName = ':' :: afterColon ∧
    name = String.ofList inside ∧ Takes (skipSpace afterColon) value rest

/-- The members of an object are taken from the front of a text and written behind others. -/
def TakesMembers (read : Entries (Value Rule)) (text : List Char) (members : Entries (Value Rule))
    (rest : List Char) : Prop :=
  ∃ shorter, takeMembers read text = .ok ⟨members, rest, shorter⟩

/-- A text behind its opening mark. -/
theorem takes_text_iff : Takes (textMark :: text) value rest ↔
    ∃ inside, takeText text = .ok (inside, rest) ∧ value = .text (String.ofList inside) := by
  unfold Takes
  rw [takeValue.eq_def]
  dsimp only
  rw [if_pos (by decide)]
  constructor
  · rintro ⟨shorter, taken⟩
    split at taken
    · cases taken
    · rename_i inside after ended
      cases taken
      exact ⟨_, ended, rfl⟩
  · rintro ⟨inside, ended, rfl⟩
    refine ⟨Nat.lt_succ_of_lt (length_takeText ended), ?_⟩
    split
    · rename_i refused
      cases ended.symm.trans refused
    · rename_i taken
      cases ended.symm.trans taken
      rfl

/-- A list behind its opening bracket. -/
theorem takes_list_iff : Takes ('[' :: text) value rest ↔
    skipSpace text = ']' :: rest ∧ value = .list [] ∨
      (∀ after, skipSpace text ≠ ']' :: after) ∧
        ∃ items, TakesItems (skipSpace text) items rest ∧ value = .list items := by
  unfold Takes TakesItems
  rw [takeValue.eq_def]
  dsimp only
  rw [if_neg (by decide), if_pos (by decide)]
  constructor
  · rintro ⟨shorter, taken⟩
    split at taken
    · rename_i after skipped
      cases taken
      exact .inl ⟨skipped, rfl⟩
    · rename_i other
      obtain ⟨found, items, same⟩ := Fallible.bind_eq_ok.mp taken
      cases same
      exact .inr ⟨other, _, ⟨_, items⟩, rfl⟩
  · rintro (⟨skipped, rfl⟩ | ⟨other, items, ⟨shorter, taken⟩, rfl⟩)
    · have bound := length_of_skipSpace skipped
      refine ⟨by simp only [List.length_cons]; omega, ?_⟩
      split
      · rename_i skippedToo
        cases skipped.symm.trans skippedToo
        rfl
      · rename_i other
        exact absurd skipped (other rest)
    · have bound := length_skipSpace text
      refine ⟨by simp only [List.length_cons]; omega, ?_⟩
      split
      · rename_i skipped
        exact absurd skipped (other _)
      · rw [taken]
        rfl

/-- An object behind its opening brace. -/
theorem takes_mapping_iff : Takes ('\x7b' :: text) value rest ↔
    skipSpace text = '\x7d' :: rest ∧ value = .mapping [] ∨
      (∀ after, skipSpace text ≠ '\x7d' :: after) ∧
        ∃ members, TakesMembers [] (skipSpace text) members rest ∧ value = .mapping members := by
  unfold Takes TakesMembers
  rw [takeValue.eq_def]
  dsimp only
  rw [if_neg (by decide), if_neg (by decide), if_pos (by decide)]
  constructor
  · rintro ⟨shorter, taken⟩
    split at taken
    · rename_i after skipped
      cases taken
      exact .inl ⟨skipped, rfl⟩
    · rename_i other
      obtain ⟨found, members, same⟩ := Fallible.bind_eq_ok.mp taken
      cases same
      exact .inr ⟨other, _, ⟨_, members⟩, rfl⟩
  · rintro (⟨skipped, rfl⟩ | ⟨other, members, ⟨shorter, taken⟩, rfl⟩)
    · have bound := length_of_skipSpace skipped
      refine ⟨by simp only [List.length_cons]; omega, ?_⟩
      split
      · rename_i skippedToo
        cases skipped.symm.trans skippedToo
        rfl
      · rename_i other
        exact absurd skipped (other rest)
    · have bound := length_skipSpace text
      refine ⟨by simp only [List.length_cons]; omega, ?_⟩
      split
      · rename_i skipped
        exact absurd skipped (other _)
      · rw [taken]
        rfl

/-- Any other value is a word or a number. -/
theorem takes_literal_iff {c : Char} (notMark : c ≠ textMark) (notList : c ≠ '[')
    (notMapping : c ≠ '\x7b') : Takes (c :: text) value rest ↔
    takeWord (c :: text) = some (value, rest) ∨ @takeWord Rule (c :: text) = none ∧
      ∃ literal, takeLiteral (c :: text) = some (literal, rest) ∧ value = literal.value := by
  unfold Takes
  rw [takeValue.eq_def]
  dsimp only
  rw [if_neg (by simpa using notMark), if_neg (by simpa using notList),
    if_neg (by simpa using notMapping)]
  constructor
  · rintro ⟨shorter, taken⟩
    split at taken
    · rename_i value after found
      cases taken
      exact .inl found
    · rename_i none
      split at taken
      · rename_i literal after counted
        cases taken
        exact .inr ⟨none, literal, counted, rfl⟩
      · cases taken
  · rintro (found | ⟨none, literal, counted, rfl⟩)
    · refine ⟨length_takeWord found, ?_⟩
      split
      · rename_i foundToo
        cases found.symm.trans foundToo
        rfl
      · rename_i none
        cases found.symm.trans none
    · refine ⟨length_takeLiteral counted, ?_⟩
      split
      · rename_i found
        cases none.symm.trans found
      · split
        · rename_i countedToo
          cases counted.symm.trans countedToo
          rfl
        · rename_i none
          cases counted.symm.trans none

/-- The items of a list. -/
theorem takesItems_iff : TakesItems text items rest ↔
    ∃ item between, Takes text item between ∧
      (skipSpace between = ']' :: rest ∧ items = [item] ∨
        ∃ others more, skipSpace between = ',' :: others ∧
          TakesItems (skipSpace others) more rest ∧ items = item :: more) := by
  unfold TakesItems
  rw [takeItems.eq_def]
  constructor
  · rintro ⟨shorter, taken⟩
    obtain ⟨⟨item, between, shorterToo⟩, first, taken⟩ := Fallible.bind_eq_ok.mp taken
    refine ⟨item, between, ⟨_, first⟩, ?_⟩
    dsimp only at taken
    split at taken
    · rename_i after skipped
      cases taken
      exact .inl ⟨skipped, rfl⟩
    · rename_i others skipped
      obtain ⟨found, more, same⟩ := Fallible.bind_eq_ok.mp taken
      cases same
      exact .inr ⟨others, _, skipped, ⟨_, more⟩, rfl⟩
    · cases taken
  · rintro ⟨item, between, ⟨shorter, first⟩, following⟩
    have shorter : rest.length < text.length := by
      rcases following with ⟨skipped, _⟩ | ⟨others, more, skipped, ⟨shorterToo, _⟩, _⟩
      · have bound := length_of_skipSpace skipped
        omega
      · have bound := length_of_skipSpace skipped
        have spaced := length_skipSpace others
        omega
    refine ⟨shorter, ?_⟩
    rw [first]
    dsimp only [Bind.bind, Except.bind]
    rcases following with ⟨skipped, rfl⟩ | ⟨others, more, skipped, ⟨shorterToo, taken⟩, rfl⟩
    · split
      · rename_i skippedToo
        cases skipped.symm.trans skippedToo
        rfl
      · rename_i skippedToo
        cases skipped.symm.trans skippedToo
      · rename_i other _
        exact absurd skipped (other rest)
    · split
      · rename_i skippedToo
        cases skipped.symm.trans skippedToo
      · rename_i skippedToo
        cases skipped.symm.trans skippedToo
        rw [taken]
        rfl
      · rename_i other
        exact absurd skipped (other others)

/-- Behind a member a text is shorter. -/
theorem TakesMember.shorter {name : String} (member : TakesMember text name value rest) :
    rest.length < text.length := by
  obtain ⟨quoted, inside, afterName, afterColon, rfl, ended, separated, _, shorter, _⟩ := member
  have named := length_takeText ended
  have colon := length_of_skipSpace separated
  have spaced := length_skipSpace afterColon
  rw [List.length_cons]
  omega

/-- Members that are taken begin with one. -/
theorem TakesMembers.exists_member (takes : TakesMembers read text members rest) :
    ∃ (name : String) (value : Value Rule) (between : List Char),
      TakesMember text name value between := by
  obtain ⟨shorter, taken⟩ := takes
  rw [takeMembers.eq_def] at taken
  split at taken
  · cases taken
  · rename_i c quoted
    split at taken
    · rename_i mark
      obtain rfl := beq_iff_eq.mp mark
      split at taken
      · cases taken
      · rename_i inside afterName ended
        split at taken
        · rename_i afterColon separated
          obtain ⟨⟨value, between, shorterToo⟩, first, _⟩ := Fallible.bind_eq_ok.mp taken
          exact ⟨_, value, between, _, inside, afterName, afterColon, rfl, ended, separated, rfl, _,
            first⟩
        · cases taken
    · cases taken

/-- Behind a member the object ends, or it goes on with a comma. -/
theorem TakesMember.takesMembers_iff {name : String} {between : List Char}
    (member : TakesMember text name value between) :
    TakesMembers read text members rest ↔
      skipSpace between = '\x7d' :: rest ∧ members = Entries.insert read name value ∨
        ∃ others, skipSpace between = ',' :: others ∧
          TakesMembers (Entries.insert read name value) (skipSpace others) members rest := by
  have behind := member.shorter
  obtain ⟨quoted, inside, afterName, afterColon, rfl, ended, separated, rfl, _, first⟩ := member
  unfold TakesMembers
  rw [takeMembers_eq_of_member ended separated first behind]
  constructor
  · rintro ⟨shorter, taken⟩
    split at taken
    · rename_i after skipped
      cases taken
      exact .inl ⟨skipped, rfl⟩
    · rename_i others skipped
      obtain ⟨found, more, same⟩ := Fallible.bind_eq_ok.mp taken
      cases same
      exact .inr ⟨others, skipped, _, more⟩
    · cases taken
  · rintro (⟨skipped, rfl⟩ | ⟨others, skipped, shorter, taken⟩)
    · refine ⟨(length_of_skipSpace skipped).trans behind, ?_⟩
      split
      · rename_i skippedToo
        cases skipped.symm.trans skippedToo
        rfl
      · rename_i skippedToo
        cases skipped.symm.trans skippedToo
      · rename_i other _
        exact absurd skipped (other rest)
    · have bound := length_of_skipSpace skipped
      have spaced := length_skipSpace others
      refine ⟨by omega, ?_⟩
      split
      · rename_i skippedToo
        cases skipped.symm.trans skippedToo
      · rename_i skippedToo
        cases skipped.symm.trans skippedToo
        rw [taken]
        rfl
      · rename_i other
        exact absurd skipped (other others)

/-- The members of an object. -/
theorem takesMembers_iff : TakesMembers read text members rest ↔
    ∃ name value between, TakesMember text name value between ∧
      (skipSpace between = '\x7d' :: rest ∧ members = Entries.insert read name value ∨
        ∃ others, skipSpace between = ',' :: others ∧
          TakesMembers (Entries.insert read name value) (skipSpace others) members rest) := by
  constructor
  · intro takes
    obtain ⟨name, value, between, member⟩ := takes.exists_member
    exact ⟨name, value, between, member, member.takesMembers_iff.mp takes⟩
  · rintro ⟨name, value, between, member, following⟩
    exact member.takesMembers_iff.mpr following

end ClassOrder.Json
