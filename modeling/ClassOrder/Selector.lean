import ClassOrder.Text.Blank

/-!
# Class names and the selectors that name them

A class selector is a dot and the class name with its unsafe characters escaped by
backslashes. Cleaning undoes this for the leftmost simple selector of a rule: it takes
the first word, drops every backslash and then one leading dot.
-/
namespace ClassOrder.Selector

/-- Whether a character stands for itself in a class selector. -/
def isSafe (c : Char) : Bool :=
  c.isAlphanum || c == '_' || c == '-'

/-- A class name with a backslash before every unsafe character. -/
def escapeCharacters (name : List Char) : List Char :=
  name.flatMap fun c => if isSafe c then [c] else ['\\', c]

/-- A class name as it is written in a selector, without the dot. -/
def escape (name : String) : String :=
  String.ofList (escapeCharacters name.toList)

/-- A text without one leading dot. -/
def dropDot : List Char → List Char
  | '.' :: rest => rest
  | text => text

/-- The class name that the leftmost simple selector of a rule names. It is empty when
there is no selector. -/
def cleanCharacters (selector : List Char) : List Char :=
  match Text.wordsOf selector with
  | [] => []
  | first :: _ => dropDot (first.filter (· != '\\'))

/-- The class name that the leftmost simple selector of a rule names. -/
def clean (selector : String) : String :=
  String.ofList (cleanCharacters selector.toList)

end ClassOrder.Selector
