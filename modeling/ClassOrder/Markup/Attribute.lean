import ClassOrder.Text.Blank
import ClassOrder.Text.WordCharacter

/-!
# Class attributes in markup

A class attribute is the word `class`, an equals sign with blanks around it or not, and
a value between two equal quotation marks. The word may not be the end of a longer name,
so it may not follow a word character, a colon, a dot or a hyphen. The value reaches up
to the next mark of the kind that opened it.

Cutting a source takes the leftmost attributes that do not overlap. Its pieces, written
one after the other, are the source again.
-/
namespace ClassOrder.Markup

/-- A class attribute as it is written: what stands before the value's quotation mark,
the mark, and the value. -/
structure Attribute where
  lead : List Char
  mark : Char
  value : List Char
  deriving DecidableEq

namespace Attribute

/-- The text of an attribute. -/
def text (found : Attribute) : List Char :=
  found.lead ++ found.mark :: found.value ++ [found.mark]

/-- The name that every class attribute begins with. -/
def keyword : List Char :=
  "class".toList

/-- Whether a character before the name makes it the end of a longer name. -/
def continuesName (c : Char) : Bool :=
  Text.isWordCharacter c || c == ':' || c == '.' || c == '-'

/-- Whether a character can enclose a value. -/
def isMark (c : Char) : Bool :=
  c == '\x22' || c == '\x27'

/-- The blanks at the front of a text, and the rest. -/
def takeBlanks (text : List Char) : List Char × List Char :=
  (text.takeWhile Text.isBlank, text.dropWhile Text.isBlank)

/-- The value behind an opening mark, and the rest after the mark that closes it. -/
def takeValue (mark : Char) (text : List Char) : Option (List Char × List Char) :=
  match text.dropWhile (· != mark) with
  | [] => none
  | _ :: rest => some (text.takeWhile (· != mark), rest)

/-- The attribute at the front of a text, and the rest. -/
def take (text : List Char) : Option (Attribute × List Char) :=
  if keyword.isPrefixOf text then
    let (before, afterBefore) := takeBlanks (text.drop keyword.length)
    match afterBefore with
    | '=' :: afterSign =>
      let (after, afterAfter) := takeBlanks afterSign
      match afterAfter with
      | mark :: afterMark =>
        if isMark mark then
          match takeValue mark afterMark with
          | some (value, rest) =>
            some ({ lead := keyword ++ before ++ '=' :: after, mark, value }, rest)
          | none => none
        else none
      | [] => none
    | _ => none
  else none

/-- An attribute and the rest after it are the text that it was taken from. -/
theorem text_take {text rest : List Char} {found : Attribute}
    (taken : take text = some (found, rest)) : found.text ++ rest = text := by
  unfold take at taken
  split at taken
  · rename_i begins
    obtain ⟨afterKeyword, rfl⟩ := List.isPrefixOf_iff_prefix.mp begins
    simp only [List.drop_left, takeBlanks] at taken
    split at taken
    · rename_i afterSign signed
      split at taken
      · rename_i mark afterMark marked
        split at taken
        · split at taken
          · rename_i value closed valued
            simp only [Option.some.injEq, Prod.mk.injEq] at taken
            obtain ⟨rfl, rfl⟩ := taken
            have blanksBefore :=
              List.takeWhile_append_dropWhile (p := Text.isBlank) (l := afterKeyword)
            have blanksAfter :=
              List.takeWhile_append_dropWhile (p := Text.isBlank) (l := afterSign)
            unfold takeValue at valued
            split at valued
            · simp at valued
            · rename_i closing rest ended
              simp only [Option.some.injEq, Prod.mk.injEq] at valued
              obtain ⟨rfl, rfl⟩ := valued
              have closes : closing = mark := by
                have stopped := List.head?_dropWhile_not (fun c => c != mark) afterMark
                rw [ended] at stopped
                simpa using stopped
              have inside :=
                List.takeWhile_append_dropWhile (p := fun c => c != mark) (l := afterMark)
              rw [ended, closes] at inside
              rw [signed] at blanksBefore
              rw [marked] at blanksAfter
              simp only [Attribute.text, List.append_assoc, List.cons_append, List.nil_append,
                List.append_cancel_left_eq]
              rw [inside, blanksAfter, blanksBefore]
          · simp at taken
        · simp at taken
      · simp at taken
    · simp at taken
  · simp at taken

/-- The text of an attribute is not empty. -/
theorem length_text (found : Attribute) : 0 < found.text.length := by
  simp only [Attribute.text, List.length_append, List.length_cons]
  omega

end Attribute

/-- A piece of a source: a character outside of all class attributes, or an attribute. -/
inductive Piece where
  | plain (c : Char)
  | classes (found : Attribute)

/-- The text of a piece. -/
def Piece.text : Piece → List Char
  | plain c => [c]
  | classes found => found.text

/-- Whether an attribute may begin after this character, or at the start of a source. -/
def mayBegin (before : Option Char) : Bool :=
  !before.any Attribute.continuesName

/-- The attribute that begins at the front of a text, given the character before it. -/
def attributeAt (before : Option Char) (text : List Char) : Option (Attribute × List Char) :=
  if mayBegin before then Attribute.take text else none

/-- Cutting off an attribute leaves a shorter text. -/
theorem length_attributeAt {before : Option Char} {text rest : List Char} {found : Attribute}
    (taken : attributeAt before text = some (found, rest)) : rest.length < text.length := by
  have whole : found.text ++ rest = text := by
    unfold attributeAt at taken
    split at taken
    · exact Attribute.text_take taken
    · simp at taken
  have positive := found.length_text
  have sizes := congrArg List.length whole
  simp only [List.length_append] at sizes
  omega

/-- The pieces of a source from a place on, given the character before that place. -/
def pieces (before : Option Char) (text : List Char) : List Piece :=
  match text with
  | [] => []
  | c :: rest =>
    match taken : attributeAt before (c :: rest) with
    | some (found, after) =>
      have := length_attributeAt taken
      .classes found :: pieces (some found.mark) after
    | none => .plain c :: pieces (some c) rest
termination_by text.length
decreasing_by
  · assumption
  · exact Nat.lt_succ_self rest.length

/-- The text that pieces make up. -/
def render (pieces : List Piece) : List Char :=
  pieces.flatMap Piece.text

end ClassOrder.Markup
