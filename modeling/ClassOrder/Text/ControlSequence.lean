/-!
# Terminal control sequences

A text may hold sequences that steer a terminal instead of being shown: an escape
character and an opening bracket, then parameters, then intermediate characters, then
one last character. Printed lines leave them out. A sequence that is not finished is
ordinary text.
-/
namespace ClassOrder.Text

/-- The parameters of a control sequence: digits and the punctuation after them. -/
def isParameter (c : Char) : Bool :=
  '0' ≤ c && c ≤ '?'

/-- The intermediate characters of a control sequence: the space and the punctuation
before the digits. -/
def isIntermediate (c : Char) : Bool :=
  ' ' ≤ c && c ≤ '/'

/-- The characters that end a control sequence: letters and the punctuation around
them. -/
def endsSequence (c : Char) : Bool :=
  '@' ≤ c && c ≤ '~'

/-- The text after the control sequence at the front of a text. The three classes of
characters have nothing in common, so each is taken as far as it reaches. -/
def afterSequence : List Char → Option (List Char)
  | '\x1b' :: '[' :: inside =>
    match (inside.dropWhile isParameter).dropWhile isIntermediate with
    | c :: rest => if endsSequence c then some rest else none
    | [] => none
  | _ => none

/-- A control sequence takes up at least one character. -/
theorem length_afterSequence {text rest : List Char} (taken : afterSequence text = some rest) :
    rest.length < text.length := by
  unfold afterSequence at taken
  split at taken
  · rename_i inside
    split at taken
    · rename_i c after ending
      split at taken
      · cases taken
        have parameters := (List.dropWhile_sublist isParameter (l := inside)).length_le
        have intermediates :=
          (List.dropWhile_sublist isIntermediate (l := inside.dropWhile isParameter)).length_le
        rw [ending] at intermediates
        simp only [List.length_cons] at intermediates ⊢
        omega
      · simp at taken
    · simp at taken
  · simp at taken

/-- A text without its control sequences, as characters. -/
def withoutSequences (text : List Char) : List Char :=
  match text with
  | [] => []
  | c :: rest =>
    match taken : afterSequence (c :: rest) with
    | some after =>
      have := length_afterSequence taken
      withoutSequences after
    | none => c :: withoutSequences rest
termination_by text.length
decreasing_by
  · assumption
  · exact Nat.lt_succ_self rest.length

/-- A text as it is printed: without its control sequences. -/
def printed (text : String) : String :=
  String.ofList (withoutSequences text.toList)

end ClassOrder.Text
