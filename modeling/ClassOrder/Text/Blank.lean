/-!
# Blank characters and the words between them

Class lists, selectors and attribute values are cut at blank characters. The
blank set is that of the Unicode property together with the four information
separators; it is wider than the five blanks of markup. A word is a longest run
without a blank, so no word is empty and the amount of space between words is
forgotten.
-/
namespace ClassOrder.Text

/-- The blank characters: the controls from tab to carriage return, the four
information separators, and every space or line separator of the character set. -/
def isBlank (c : Char) : Bool :=
  let code := c.toNat
  (0x09 ≤ code && code ≤ 0x0D) || (0x1C ≤ code && code ≤ 0x20) || code == 0x85 ||
    code == 0xA0 || code == 0x1680 || (0x2000 ≤ code && code ≤ 0x200A) ||
    code == 0x2028 || code == 0x2029 || code == 0x202F || code == 0x205F || code == 0x3000

/-- The words of a text: its longest runs without a blank, in order. -/
def wordsOf (text : List Char) : List (List Char) :=
  (text.splitOnP isBlank).filter fun word => !word.isEmpty

/-- The words of a string, as strings. -/
def words (text : String) : List String :=
  (wordsOf text.toList).map String.ofList

/-- A text without the blanks at its two ends. -/
def trim (text : String) : String :=
  let fromStart := text.toList.dropWhile isBlank
  String.ofList (fromStart.reverse.dropWhile isBlank).reverse

/-- Words set side by side with one space between neighbours. -/
def unwords (parts : List String) : String :=
  " ".intercalate parts

end ClassOrder.Text
