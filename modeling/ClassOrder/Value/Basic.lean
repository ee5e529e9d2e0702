import ClassOrder.Entries

/-!
# Nested values

Configuration, style objects and plugin orders are nested data: scalars, lists and
mappings. In a configuration a leaf may also be a rule that computes its value from
other parts of the theme. The type of rules is a parameter, so data without rules is
`Value Empty`, and the outline of a value, which keeps only that a rule stands
somewhere, is `Value Unit`.
-/
namespace ClassOrder

/-- Nested data whose leaves may be rules. -/
inductive Value (Rule : Type) where
  | null
  | flag (value : Bool)
  | integer (value : Int)
  | decimal (value : Float)
  | text (value : String)
  | list (items : List (Value Rule))
  | mapping (entries : List (String × Value Rule))
  | rule (rule : Rule)
  deriving Inhabited

/-- Data without rules. -/
abbrev Plain := Value Empty

namespace Value

variable {Rule Other : Type}

/-- The name of a value's kind, as error messages give it. -/
def kindName : Value Rule → String
  | null => "NoneType"
  | flag _ => "bool"
  | integer _ => "int"
  | decimal _ => "float"
  | text _ => "str"
  | list _ => "list"
  | mapping _ => "dict"
  | rule _ => "function"

/-- Whether a value counts as given: nothing, false, zero and whatever is empty do
not. -/
def isGiven : Value Rule → Bool
  | null => false
  | flag value => value
  | integer value => value != 0
  | decimal value => value != 0
  | text value => value != ""
  | list items => !items.isEmpty
  | mapping entries => !entries.isEmpty
  | rule _ => true

mutual
/-- The same data with every rule replaced. -/
def mapRules (change : Rule → Other) : Value Rule → Value Other
  | null => .null
  | flag value => .flag value
  | integer value => .integer value
  | decimal value => .decimal value
  | text value => .text value
  | list items => .list (mapRulesInItems change items)
  | mapping entries => .mapping (mapRulesInEntries change entries)
  | rule value => .rule (change value)

/-- The items of a list with every rule replaced. -/
def mapRulesInItems (change : Rule → Other) : List (Value Rule) → List (Value Other)
  | [] => []
  | item :: rest => mapRules change item :: mapRulesInItems change rest

/-- The entries of a mapping with every rule replaced. -/
def mapRulesInEntries (change : Rule → Other) :
    List (String × Value Rule) → List (String × Value Other)
  | [] => []
  | (name, value) :: rest => (name, mapRules change value) :: mapRulesInEntries change rest
end

/-- What can be seen of a value without looking into its rules. -/
def outline (value : Value Rule) : Value Unit :=
  value.mapRules fun _ => ()

/-- Data without rules, where rules would be allowed. -/
def ofPlain (value : Plain) : Value Rule :=
  value.mapRules Empty.elim

end Value

end ClassOrder
