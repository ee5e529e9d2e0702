import ClassOrder.Fault
import ClassOrder.Style.Tree
import ClassOrder.Text.Blank

/-!
# Style objects

Plugins describe styles by nested mappings. An entry whose name begins with an at sign
becomes an at-rule, any other entry whose value is a mapping becomes a rule, and the
rest become declarations, a list of values one declaration for each. A list of style
objects stands for all of them in order.
-/
namespace ClassOrder.StyleObject

variable {Rule : Type}

/-- Whether an entry's name makes it an at-rule. -/
def isAtRule (name : String) : Bool :=
  name.toList.head? == some '@'

/-- The name and the parameters of an at-rule, from the entry's name. -/
def atRuleParts (name : String) : String × String :=
  let (title, params) := Text.splitAtFirst ' ' (String.ofList (name.toList.drop 1))
  (title, Text.trim params)

/-- The declarations of an entry: one for each item of a list, else a single one. -/
def declarations (name : String) (value : Value Rule) : List StyleTree :=
  match value with
  | .list items => items.map fun item => .declaration name item.display
  | other => [.declaration name other.display]

mutual
/-- The style trees of an entry. A mapping becomes an at-rule or a rule around its own
entries. Any other value leaves an at-rule empty, or is declared. -/
def parseEntry (name : String) : Value Rule → List StyleTree
  | .mapping entries =>
    if isAtRule name then
      [.atRule (atRuleParts name).1 (atRuleParts name).2 (parseEntries entries)]
    else [.rule name (parseEntries entries)]
  | value =>
    if isAtRule name then [.atRule (atRuleParts name).1 (atRuleParts name).2 []]
    else declarations name value

/-- The style trees of the entries of a mapping in turn. -/
def parseEntries : List (String × Value Rule) → List StyleTree
  | [] => []
  | (name, value) :: rest => parseEntry name value ++ parseEntries rest
end

mutual
/-- The style trees that an object describes. -/
def parse : Value Rule → Except Fault (List StyleTree)
  | .text text => .error (.styleIsText text)
  | .list items => parseItems items
  | .mapping entries => .ok (parseEntries entries)
  | other => .error (.misused .iterated other.kindName)

/-- The style trees of several objects in turn. -/
def parseItems : List (Value Rule) → Except Fault (List StyleTree)
  | [] => .ok []
  | item :: rest => do
    let first ← parse item
    return first ++ (← parseItems rest)
end

end ClassOrder.StyleObject
