/-!
# Why a text is not JSON

A text is refused at its first offending character. The message names the cause
and the place: the line and the column, both counted from one, and the number of
characters before it.
-/
namespace ClassOrder.Json

/-- What is wrong at the place where reading stopped. -/
inductive Cause where
  | expectingValue
  | expectingName
  | expectingColon
  | expectingComma
  | extraData
  | unterminatedText
  | controlCharacter
  | unknownEscape
  | malformedUnicodeEscape
  | byteOrderMark
  deriving DecidableEq

/-- The wording of a cause. -/
def Cause.message : Cause → String
  | expectingValue => "Expecting value"
  | expectingName => "Expecting property name enclosed in double quotes"
  | expectingColon => "Expecting ':' delimiter"
  | expectingComma => "Expecting ',' delimiter"
  | extraData => "Extra data"
  | unterminatedText => "Unterminated string starting at"
  | controlCharacter => "Invalid control character at"
  | unknownEscape => "Invalid \\escape"
  | malformedUnicodeEscape => "Invalid \\uXXXX escape"
  | byteOrderMark => "Unexpected UTF-8 BOM (decode using utf-8-sig)"

/-- A cause and the characters that were already read when it arose. -/
structure Failure where
  cause : Cause
  before : List Char

/-- The number of the line that follows the characters read. -/
def Failure.line (failure : Failure) : Nat :=
  failure.before.count '\n' + 1

/-- The number of the column that follows the characters read. -/
def Failure.column (failure : Failure) : Nat :=
  (failure.before.reverse.takeWhile (· != '\n')).length + 1

/-- The full message of a failure. -/
def Failure.message (failure : Failure) : String :=
  failure.cause.message ++ ": line " ++ toString failure.line ++ " column " ++
    toString failure.column ++ " (char " ++ toString failure.before.length ++ ")"

end ClassOrder.Json
