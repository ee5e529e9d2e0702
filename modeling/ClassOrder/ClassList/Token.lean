import ClassOrder.Text.Blank
import ClassOrder.Value.Uses

/-!
# The parts of a class token

A class in a list may be preceded by variants, such as a breakpoint, each followed by
the separator. The base class is the last segment and the variant that counts is the
first; the segments between them are ignored.

Only a text has segments. Any other value in which the separator cannot be found is a
base alone, if it can be searched at all.
-/
namespace ClassOrder

/-- A class token split into its base class and its first variant. -/
structure ClassToken where
  base : String
  variant : Option String := none
  deriving DecidableEq

namespace ClassToken

/-- The parts of a token whose segments are known. One segment is a base alone. -/
def ofSegments (token : String) : List (List Char) → ClassToken
  | first :: second :: rest =>
    { base := String.ofList ((second :: rest).getLast (by simp))
      variant := some (String.ofList first) }
  | _ => { base := token }

/-- Splits a token at a separator that is not empty. -/
def split (separator token : String) : ClassToken :=
  ofSegments token (Text.segmentsOf separator.toList token.toList)

/-- Splits a token at a separator. An empty separator cannot split anything. -/
def split? (separator token : String) : Except Fault ClassToken :=
  if separator == "" then .error .emptySeparator else .ok (split separator token)

variable {Rule : Type}

/-- The base and the first variant of any value as a token, at any value as the
separator. -/
def splitValue? (separator : Value Rule) (token : Plain) :
    Except Fault (Plain × Option String) := do
  match token with
  | .text text =>
    let parts ← split? (← separator.asText (.misused .separator)) text
    return (.text parts.base, parts.variant)
  | other =>
    if ← other.holds separator then throw (.lacks .text other.kindName) else return (other, none)

/-- The text of a token whose base can be looked up. -/
def textOf (separator : Value Rule) (token : Plain) : Except Fault String := do
  let (base, _) ← splitValue? separator token
  discard base.asKey
  token.asText (.misused .text)

/-- The tokens of a class list: the words of a text, or the items of another value. -/
def listOf (classes : Plain) : Except Fault (List Plain) :=
  match classes with
  | .text text => .ok ((Text.words text).map .text)
  | other => other.items

end ClassToken

end ClassOrder
