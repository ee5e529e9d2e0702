import ClassOrder.Style.Object

/-!
# Class prefixes

A site may put a prefix before all of its class names. The prefix goes right after the
dot of every class selector that stands at the top of a style object or inside its
at-rules. Selectors inside a rule, the stages of keyframes and everything that is not a
class selector stay as they are.
-/
namespace ClassOrder.StyleObject

variable {Rule : Type}

/-- A selector with the prefix after its leading dot. Other selectors are unchanged. -/
def prefixedSelector (classPrefix selector : String) : String :=
  match selector.toList with
  | '.' :: rest => "." ++ classPrefix ++ String.ofList rest
  | _ => selector

/-- Whether an entry holds the stages of an animation. -/
def isKeyframesEntry (name : String) : Bool :=
  "@keyframes".toList.isPrefixOf name.toList

mutual
/-- An entry under the prefix. A rule is renamed. An at-rule is entered, unless it holds
the stages of an animation. -/
def prefixedEntry (classPrefix name : String) : Value Rule → String × Value Rule
  | .mapping entries =>
    if !isAtRule name then (prefixedSelector classPrefix name, .mapping entries)
    else if isKeyframesEntry name then (name, .mapping entries)
    else (name, .mapping (Entries.ofPairs (prefixedPairs classPrefix entries)))
  | value => (name, value)

/-- The entries of a style object under the prefix. Two of them may have come to the same
name. -/
def prefixedPairs (classPrefix : String) :
    List (String × Value Rule) → List (String × Value Rule)
  | [] => []
  | (name, value) :: rest =>
    prefixedEntry classPrefix name value :: prefixedPairs classPrefix rest
end

/-- The entries of a style object with the prefix on their class selectors, written one
after the other. -/
def prefixedEntries (classPrefix : String) (entries : Entries (Value Rule)) :
    Entries (Value Rule) :=
  Entries.ofPairs (prefixedPairs classPrefix entries)

mutual
/-- A style object with the prefix on its class selectors. -/
def prefixed (classPrefix : String) : Value Rule → Except Fault (Value Rule)
  | .mapping entries => .ok (.mapping (prefixedEntries classPrefix entries))
  | .list items => do return .list (← prefixedItems classPrefix items)
  | .text text => if text == "" then .ok (.list []) else .error (.styleIsText text)
  | other => .error (.misused .iterated other.kindName)

/-- Several style objects with the prefix on their class selectors. -/
def prefixedItems (classPrefix : String) : List (Value Rule) → Except Fault (List (Value Rule))
  | [] => .ok []
  | item :: rest => do
    let first ← prefixed classPrefix item
    return first :: (← prefixedItems classPrefix rest)
end

end ClassOrder.StyleObject
