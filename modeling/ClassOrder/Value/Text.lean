import ClassOrder.Value.Basic
import ClassOrder.Decimal.Written
import ClassOrder.Text.Quoted

/-!
# Values as text

A value enters a declaration, a class name or a message as text. A text stands for
itself there; inside a list or a mapping, and where a message names an identifier, it
is quoted. All other values read the same in both places.
-/
namespace ClassOrder.Value

variable {Rule : Type}

mutual
/-- The text of a value with every text in it quoted. -/
def literal : Value Rule → String
  | null => "None"
  | flag value => if value then "True" else "False"
  | integer value => toString value
  | decimal value => Decimal.write value
  | text value => Text.quote value
  | list items => "[" ++ ", ".intercalate (literalItems items) ++ "]"
  | mapping entries => "\x7b" ++ ", ".intercalate (literalEntries entries) ++ "\x7d"
  | rule _ => "<function>"

/-- The literal texts of the items of a list. -/
def literalItems : List (Value Rule) → List String
  | [] => []
  | item :: rest => literal item :: literalItems rest

/-- The literal texts of the entries of a mapping. -/
def literalEntries : List (String × Value Rule) → List String
  | [] => []
  | (name, value) :: rest => (Text.quote name ++ ": " ++ literal value) :: literalEntries rest
end

/-- The text of a value where it stands on its own. -/
def display : Value Rule → String
  | text value => value
  | other => literal other

end ClassOrder.Value
