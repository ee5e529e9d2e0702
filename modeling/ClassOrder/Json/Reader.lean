import ClassOrder.Json.Number
import ClassOrder.Json.Text

/-!
# Reading JSON

A text holds one value between blanks. Objects keep the order of their names; a name
that is repeated keeps its first place and takes its last value. Beside the standard
literals there are three for numbers that are not finite. Reading stops at the first
place where no continuation could be right, and the refusal names that place.
-/
namespace ClassOrder.Json

variable {Rule : Type}

/-- The blanks that may stand between tokens. -/
def isSpace (c : Char) : Bool :=
  c == ' ' || c == '\t' || c == '\n' || c == '\r'

/-- A text without the blanks at its front. -/
def skipSpace (text : List Char) : List Char :=
  text.dropWhile isSpace

/-- Skipping blanks leaves no more than the text. -/
theorem length_skipSpace (text : List Char) : (skipSpace text).length ≤ text.length :=
  (List.dropWhile_sublist isSpace).length_le

/-- Behind blanks and a character a text is shorter. -/
theorem length_of_skipSpace {c : Char} {text rest : List Char}
    (skipped : skipSpace text = c :: rest) : rest.length < text.length := by
  have bound := length_skipSpace text
  rwa [skipped, List.length_cons] at bound

/-- What was read from the front of a text, and the rest, which is shorter. -/
structure Taken (α : Type) (text : List Char) where
  value : α
  rest : List Char
  shorter : rest.length < text.length

/-- The literals that are whole words. -/
def wordLiterals : List (List Char × Value Rule) :=
  [("null".toList, .null), ("true".toList, .flag true), ("false".toList, .flag false),
    ("NaN".toList, .decimal (0.0 / 0.0)), ("Infinity".toList, .decimal (1.0 / 0.0)),
    ("-Infinity".toList, .decimal (-1.0 / 0.0))]

/-- The word literal at the front of a text, and the rest. -/
def takeWord (text : List Char) : Option (Value Rule × List Char) :=
  wordLiterals.findSome? fun (word, value) =>
    if word.isPrefixOf text then some (value, text.drop word.length) else none

/-- Reading a word uses up at least one character. -/
theorem length_takeWord {text rest : List Char} {value : Value Rule}
    (taken : takeWord text = some (value, rest)) : rest.length < text.length := by
  obtain ⟨⟨word, meaning⟩, listed, found⟩ := List.exists_of_findSome?_eq_some taken
  have long : 0 < word.length := by
    revert listed
    simp only [wordLiterals, List.mem_cons, Prod.mk.injEq, List.not_mem_nil, or_false]
    rintro (h | h | h | h | h | h) <;> simp [h.1]
  simp only at found
  split at found
  · rename_i front
    simp only [Option.some.injEq, Prod.mk.injEq] at found
    have fits := (List.isPrefixOf_iff_prefix.mp front).length_le
    simp only [← found.2, List.length_drop]
    omega
  · simp at found

mutual
/-- Reads the value at the front of a text. -/
def takeValue (text : List Char) : Except Refusal (Taken (Value Rule) text) :=
  match text with
  | [] => .error ⟨.expectingValue, []⟩
  | c :: rest =>
    if c == textMark then
      match ended : takeText rest with
      | .error refusal => .error refusal
      | .ok (inside, after) =>
        .ok ⟨.text (String.ofList inside), after,
          Nat.lt_succ_of_lt (length_takeText ended)⟩
    else if c == '[' then
      match skipped : skipSpace rest with
      | ']' :: after => .ok ⟨.list [], after, by
          have bound := length_skipSpace rest
          simp only [skipped, List.length_cons] at bound ⊢
          omega⟩
      | inside => do
        let items ← takeItems inside
        return ⟨.list items.value, items.rest, by
          have bound := length_skipSpace rest
          have taken := items.shorter
          simp only [skipped, List.length_cons] at bound ⊢
          omega⟩
    else if c == '\x7b' then
      match skipped : skipSpace rest with
      | '\x7d' :: after => .ok ⟨.mapping [], after, by
          have bound := length_skipSpace rest
          simp only [skipped, List.length_cons] at bound ⊢
          omega⟩
      | inside => do
        let members ← takeMembers [] inside
        return ⟨.mapping members.value, members.rest, by
          have bound := length_skipSpace rest
          have taken := members.shorter
          simp only [skipped, List.length_cons] at bound ⊢
          omega⟩
    else
      match found : takeWord (c :: rest) with
      | some (value, after) => .ok ⟨value, after, length_takeWord found⟩
      | none =>
        match counted : takeLiteral (c :: rest) with
        | some (literal, after) => .ok ⟨literal.value, after, length_takeLiteral counted⟩
        | none => .error ⟨.expectingValue, c :: rest⟩
termination_by 2 * text.length
decreasing_by
  all_goals
    have bound := length_skipSpace rest
    simp only [skipped] at bound
    simp only [List.length_cons]
    omega

/-- Reads the items of a list up to its closing bracket, from where an item is
expected. -/
def takeItems (text : List Char) : Except Refusal (Taken (List (Value Rule)) text) := do
  let first ← takeValue text
  match skipped : skipSpace first.rest with
  | ']' :: after => return ⟨[first.value], after, by
      have bound := length_skipSpace first.rest
      have taken := first.shorter
      simp only [skipped, List.length_cons] at bound
      omega⟩
  | ',' :: after =>
    let more ← takeItems (skipSpace after)
    return ⟨first.value :: more.value, more.rest, by
      have bound := length_skipSpace first.rest
      have taken := first.shorter
      have spaced := length_skipSpace after
      have remaining := more.shorter
      simp only [skipped, List.length_cons] at bound
      omega⟩
  | unread => .error ⟨.expectingComma, unread⟩
termination_by 2 * text.length + 1
decreasing_by
  · omega
  · have bound := length_skipSpace first.rest
    have taken := first.shorter
    have spaced := length_skipSpace after
    simp only [skipped, List.length_cons] at bound
    omega

/-- Reads the members of an object up to its closing brace, from where a name is
expected. `read` holds the members before them. -/
def takeMembers (read : Entries (Value Rule)) (text : List Char) :
    Except Refusal (Taken (Entries (Value Rule)) text) :=
  match text with
  | [] => .error ⟨.expectingName, []⟩
  | c :: rest =>
    if c == textMark then
      match ended : takeText rest with
      | .error refusal => .error refusal
      | .ok (name, afterName) =>
        match separated : skipSpace afterName with
        | ':' :: afterColon => do
          let value ← takeValue (skipSpace afterColon)
          let members := Entries.insert read (String.ofList name) value.value
          match skipped : skipSpace value.rest with
          | '\x7d' :: after => return ⟨members, after, by
              have named := length_takeText ended
              have colon := length_skipSpace afterName
              have spaced := length_skipSpace afterColon
              have taken := value.shorter
              have bound := length_skipSpace value.rest
              simp only [separated, skipped, List.length_cons] at colon bound ⊢
              omega⟩
          | ',' :: after => do
            let more ← takeMembers members (skipSpace after)
            return ⟨more.value, more.rest, by
              have named := length_takeText ended
              have colon := length_skipSpace afterName
              have spaced := length_skipSpace afterColon
              have taken := value.shorter
              have bound := length_skipSpace value.rest
              have next := length_skipSpace after
              have remaining := more.shorter
              simp only [separated, skipped, List.length_cons] at colon bound ⊢
              omega⟩
          | unread => .error ⟨.expectingComma, unread⟩
        | unread => .error ⟨.expectingColon, unread⟩
    else .error ⟨.expectingName, c :: rest⟩
termination_by 2 * text.length
decreasing_by
  · have named := length_takeText ended
    have colon := length_skipSpace afterName
    have spaced := length_skipSpace afterColon
    simp only [separated, List.length_cons] at colon
    simp only [List.length_cons]
    omega
  · have named := length_takeText ended
    have colon := length_skipSpace afterName
    have spaced := length_skipSpace afterColon
    have taken := value.shorter
    have bound := length_skipSpace value.rest
    have next := length_skipSpace after
    simp only [separated, skipped, List.length_cons] at colon bound
    simp only [List.length_cons]
    omega
end

/-- Behind a name and its value an object ends, or it goes on with a comma. -/
theorem takeMembers_eq_of_member {read : Entries (Value Rule)} {value : Value Rule}
    {quoted name afterName afterColon between : List Char} {shorter}
    (ended : takeText quoted = .ok (name, afterName))
    (separated : skipSpace afterName = ':' :: afterColon)
    (first : takeValue (skipSpace afterColon) = .ok ⟨value, between, shorter⟩)
    (behind : between.length < (textMark :: quoted).length) :
    takeMembers read (textMark :: quoted) =
      match skipped : skipSpace between with
      | '\x7d' :: after => .ok ⟨Entries.insert read (String.ofList name) value, after,
          Nat.lt_trans (length_of_skipSpace skipped) behind⟩
      | ',' :: after => do
        let more ← takeMembers (Entries.insert read (String.ofList name) value) (skipSpace after)
        return ⟨more.value, more.rest, by
          have bound := length_of_skipSpace skipped
          have spaced := length_skipSpace after
          have remaining := more.shorter
          omega⟩
      | unread => .error ⟨.expectingComma, unread⟩ := by
  rw [takeMembers.eq_def]
  dsimp only
  rw [if_pos (by decide)]
  split
  · rename_i refused
    cases ended.symm.trans refused
  · rename_i endedToo
    cases ended.symm.trans endedToo
    split
    · rename_i separatedToo
      cases separated.symm.trans separatedToo
      rw [first]
      rfl
    · rename_i other
      exact absurd separated (other afterColon)

/-- The value that a text holds, or where and why it holds none. -/
def read (text : String) : Except Failure (Value Rule) :=
  let characters := text.toList
  let failure (refusal : Refusal) : Failure :=
    ⟨refusal.cause, characters.take (characters.length - refusal.unread.length)⟩
  if characters.head? == some '\uFEFF' then .error (failure ⟨.byteOrderMark, characters⟩)
  else
    match takeValue (skipSpace characters) with
    | .error refusal => .error (failure refusal)
    | .ok taken =>
      let unread := skipSpace taken.rest
      if unread.isEmpty then .ok taken.value else .error (failure ⟨.extraData, unread⟩)

end ClassOrder.Json
