import ClassOrder.Json.Failure

/-!
# Quoted text in JSON

The inside of a quoted text is read character by character up to the closing mark.
A backslash begins an escape: a letter, or the letter u with four hexadecimal digits.
Two such escapes that form a surrogate pair stand for one character; a surrogate
without its partner stands for the replacement character. Control characters must be
escaped.
-/
namespace ClassOrder.Json

/-- A cause and the text that was still unread when it arose. -/
structure Refusal where
  cause : Cause
  unread : List Char

/-- The mark that opens and closes a text. -/
def textMark : Char := '\x22'

/-- The value of a hexadecimal digit. -/
def hexDigit? (c : Char) : Option Nat :=
  if c.isDigit then some (c.toNat - '0'.toNat)
  else if 'a' ≤ c ∧ c ≤ 'f' then some (c.toNat - 'a'.toNat + 10)
  else if 'A' ≤ c ∧ c ≤ 'F' then some (c.toNat - 'A'.toNat + 10)
  else none

/-- The number that four hexadecimal digits denote. -/
def codeUnit? (a b c d : Char) : Option Nat :=
  match hexDigit? a, hexDigit? b, hexDigit? c, hexDigit? d with
  | some p, some q, some r, some s => some (((p * 16 + q) * 16 + r) * 16 + s)
  | _, _, _, _ => none

/-- The character that a one-letter escape stands for. -/
def escaped? (c : Char) : Option Char :=
  if c == textMark || c == '\\' || c == '/' then some c
  else if c == 'b' then some '\x08'
  else if c == 'f' then some '\x0c'
  else if c == 'n' then some '\n'
  else if c == 'r' then some '\r'
  else if c == 't' then some '\t'
  else none

/-- The characters read so far, last one first, once a leading surrogate that found
no partner is settled. -/
def settle (leading : Option Nat) (read : List Char) : List Char :=
  match leading with
  | some _ => '\uFFFD' :: read
  | none => read

/-- Adds a code unit to the characters read: a leading surrogate waits for its
partner, and a trailing one completes the character that waits. -/
def addUnit (leading : Option Nat) (read : List Char) (unit : Nat) : Option Nat × List Char :=
  if 0xD800 ≤ unit ∧ unit < 0xDC00 then (some unit, settle leading read)
  else if 0xDC00 ≤ unit ∧ unit < 0xE000 then
    match leading with
    | some high =>
      (none, Char.ofNat (0x10000 + (high - 0xD800) * 0x400 + (unit - 0xDC00)) :: read)
    | none => (none, '\uFFFD' :: read)
  else (none, Char.ofNat unit :: settle leading read)

/-- Reads on inside a text until its closing mark. `opening` is the text from the
opening mark on, `leading` a leading surrogate that waits for its partner, and `read`
what was read so far, last character first. A numeric escape needs a character after
its four digits. -/
def takeTextFrom (opening : List Char) :
    Option Nat → List Char → List Char → Except Refusal (List Char × List Char)
  | _, _, [] => .error ⟨.unterminatedText, opening⟩
  | leading, read, c :: rest =>
    if c == textMark then .ok ((settle leading read).reverse, rest)
    else if c == '\\' then
      match rest with
      | [] => .error ⟨.unterminatedText, opening⟩
      | 'u' :: w :: x :: y :: z :: more =>
        match codeUnit? w x y z with
        | some unit =>
          if more.isEmpty then .error ⟨.malformedUnicodeEscape, rest⟩
          else
            let added := addUnit leading read unit
            takeTextFrom opening added.1 added.2 more
        | none => .error ⟨.malformedUnicodeEscape, rest⟩
      | 'u' :: _ => .error ⟨.malformedUnicodeEscape, rest⟩
      | letter :: more =>
        match escaped? letter with
        | some meant => takeTextFrom opening none (meant :: settle leading read) more
        | none => .error ⟨.unknownEscape, c :: rest⟩
    else if c.toNat < 0x20 then .error ⟨.controlCharacter, c :: rest⟩
    else takeTextFrom opening none (c :: settle leading read) rest

/-- Reads a text whose opening mark was just passed. -/
def takeText (afterMark : List Char) : Except Refusal (List Char × List Char) :=
  takeTextFrom (textMark :: afterMark) none [] afterMark

/-- Reading on inside a text uses up at least its closing mark. -/
theorem length_takeTextFrom {opening read text : List Char} {leading : Option Nat}
    {taken : List Char × List Char}
    (ended : takeTextFrom opening leading read text = .ok taken) :
    taken.2.length < text.length := by
  fun_induction takeTextFrom opening leading read text with
  | case2 leading read c rest closing =>
    simp only [Except.ok.injEq] at ended
    simp [← ended]
  | _ => all_goals (simp_all [List.length_cons] <;> omega)

/-- Reading a text uses up at least its closing mark. -/
theorem length_takeText {text inside rest : List Char}
    (ended : takeText text = .ok (inside, rest)) : rest.length < text.length :=
  length_takeTextFrom ended

end ClassOrder.Json
