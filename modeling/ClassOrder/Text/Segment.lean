/-!
# Cutting a text at a separator

A separator is any nonempty text. The cut reads from left to right and takes
each occurrence that does not overlap the one before it, so `::` is found once
in `:::`. The segments are what lies between the cuts; there is one more segment
than there are cuts, and a text without the separator is its own only segment.
-/
namespace ClassOrder.Text

/-- The segments of a text, after its first `skip` characters, which belong to
the occurrence that was just cut. -/
def segmentsAfter (separator : List Char) : Nat → List Char → List (List Char)
  | _, [] => [[]]
  | skip + 1, _ :: rest => segmentsAfter separator skip rest
  | 0, c :: rest =>
    if separator.isPrefixOf (c :: rest) then
      [] :: segmentsAfter separator (separator.length - 1) rest
    else
      (segmentsAfter separator 0 rest).modifyHead (c :: ·)

/-- The segments of a text between the left-to-right, non-overlapping
occurrences of a nonempty separator. -/
def segmentsOf (separator text : List Char) : List (List Char) :=
  segmentsAfter separator 0 text

/-- Whether one text occurs in another, as a run of neighbouring characters. -/
def occursIn (part : List Char) : List Char → Bool
  | [] => part.isEmpty
  | c :: rest => part.isPrefixOf (c :: rest) || occursIn part rest

/-- The part of a text before the first occurrence of a character, and the part
after it. The second is empty when the character does not occur. -/
def splitAtFirst (mark : Char) (text : String) : String × String :=
  let characters := text.toList
  (String.ofList (characters.takeWhile (· != mark)),
    String.ofList ((characters.dropWhile (· != mark)).drop 1))

/-- The pieces of a string between the occurrences of one character. -/
def splitAtEach (mark : Char) (text : String) : List String :=
  (text.toList.splitOn mark).map String.ofList

end ClassOrder.Text
