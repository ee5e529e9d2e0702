import ClassOrder.Text.Segment

/-!
# Slash-separated paths

A path is an anchor and a list of names. The anchor is empty for a path that starts
at the working directory, a slash for one that starts at the root, and two slashes
for one that is written with exactly two. Empty names and single dots are dropped
when a path is read; two dots are kept, because what they mean depends on the tree.

Not every text can be handed to the system as a path: it takes paths and names of a
limited length only, and no null character.
-/
namespace ClassOrder.Files

/-- The bytes that a path may have at most. -/
def maxPathBytes : Nat :=
  4095

/-- The bytes that a name in a directory may have at most. -/
def maxNameBytes : Nat :=
  255

/-- Whether a text holds the null character. -/
def hasNull (text : String) : Bool :=
  text.toList.contains '\x00'

/-- A path without empty names and single dots. -/
structure Path where
  anchor : String
  names : List String
  deriving DecidableEq, Inhabited

namespace Path

/-- The slashes that a text begins with, as an anchor. -/
def anchorOf (text : List Char) : String :=
  match (text.takeWhile (· == '/')).length with
  | 0 => ""
  | 2 => "//"
  | _ => "/"

/-- Reads a path. -/
def ofText (text : String) : Path where
  anchor := anchorOf text.toList
  names := (Text.splitAtEach '/' text).filter fun name => name != "" && name != "."

/-- Writes a path. The path without anchor and names is a single dot. -/
def text (path : Path) : String :=
  if path.anchor == "" && path.names.isEmpty then "."
  else path.anchor ++ "/".intercalate path.names

/-- A path followed from another one. A path with an anchor stands for itself. -/
def followedBy (base next : Path) : Path :=
  if next.anchor == "" then { base with names := base.names ++ next.names } else next

/-- The place of a name inside a directory. -/
def child (directory : Path) (name : String) : Path :=
  { directory with names := directory.names ++ [name] }

/-- The directory that holds a path. The root holds itself. -/
def parent (path : Path) : Path :=
  { path with names := path.names.dropLast }

/-- One step of a lexical walk: two dots take back the step before. -/
def step (walked : List String) (name : String) : List String :=
  if name == ".." then walked.dropLast else walked ++ [name]

/-- An anchored path without double dots, by the names alone. It starts at the root with a
single slash. -/
def collapsed (path : Path) : Path where
  anchor := "/"
  names := path.names.foldl step []

/-- A path and the directories above it, nearest first, up to the root. -/
def ancestry (path : Path) : List Path :=
  (List.range (path.names.length + 1)).map fun up =>
    { path with names := path.names.take (path.names.length - up) }

end Path

end ClassOrder.Files
