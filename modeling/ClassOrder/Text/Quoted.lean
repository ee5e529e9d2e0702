import ClassOrder.Text.Printable

/-!
# Quoted text

Messages show a text between quotation marks. The single mark is used unless the
text holds a single mark and no double one. The mark in use and the backslash are
escaped, as are line feed, carriage return and tab by their letters, and every
other character that is not printable by the shortest of three numeric forms.
-/
namespace ClassOrder.Text

/-- The single quotation mark. -/
def singleMark : Char := '\x27'

/-- The double quotation mark. -/
def doubleMark : Char := '\x22'

/-- A number in lower-case hexadecimal digits, filled up with zeros. -/
def hexadecimal (places code : Nat) : List Char :=
  (Nat.toDigits 16 code).leftpad places '0'

/-- One character as it stands between two marks. -/
def quoteCharacter (mark c : Char) : List Char :=
  if c == mark || c == '\\' then ['\\', c]
  else if c == '\n' then ['\\', 'n']
  else if c == '\r' then ['\\', 'r']
  else if c == '\t' then ['\\', 't']
  else if isPrintable c then [c]
  else if c.toNat < 0x100 then ['\\', 'x'] ++ hexadecimal 2 c.toNat
  else if c.toNat < 0x10000 then ['\\', 'u'] ++ hexadecimal 4 c.toNat
  else ['\\', 'U'] ++ hexadecimal 8 c.toNat

/-- The mark that a text is quoted with. -/
def quotingMark (text : List Char) : Char :=
  if text.contains singleMark && !text.contains doubleMark then doubleMark else singleMark

/-- A text between quotation marks. -/
def quote (text : String) : String :=
  let characters := text.toList
  let mark := quotingMark characters
  String.ofList (mark :: characters.flatMap (quoteCharacter mark) ++ [mark])

end ClassOrder.Text
