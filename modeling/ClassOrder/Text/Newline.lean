/-!
# Lines

A line may end with a line feed, a carriage return, or both in this order. Reading a file
turns all of them into line feeds.
-/
namespace ClassOrder.Text

/-- A text with a line feed at the end of every line. -/
def unifyNewlines : List Char → List Char
  | [] => []
  | '\r' :: '\n' :: rest => '\n' :: unifyNewlines rest
  | '\r' :: rest => '\n' :: unifyNewlines rest
  | c :: rest => c :: unifyNewlines rest

/-- The lines of a text. An end of line at the end of the text begins no further line. -/
def lines (text : String) : List String :=
  let parts := (unifyNewlines text.toList).splitOn '\n'
  let closed := if parts.getLast? == some [] then parts.dropLast else parts
  closed.map String.ofList

end ClassOrder.Text
