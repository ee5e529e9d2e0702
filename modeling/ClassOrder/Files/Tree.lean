import ClassOrder.Files.Access

/-!
# A described tree of files

A tree lists its files and directories by the names that lead to them from the root, and
has a working directory. Every directory on the way to an entry exists. A path is walked
name by name; each name but the last must lead to a directory, two dots lead back to the
directory above, and the root is above itself. A path that is too long is not walked,
and the walk ends at a name that is too long.
-/
namespace ClassOrder.Files

/-- Files and directories by the names from the root. A directory has no content. -/
structure Tree where
  here : List String
  entries : List (List String × Option ByteArray)

namespace Tree

/-- The content of the file at a place. -/
def content? (tree : Tree) (place : List String) : Option ByteArray :=
  (List.lookup place tree.entries).join

/-- Whether a place is a directory: it is listed as one or lies on the way to an entry or
to the working directory. -/
def isDirectory (tree : Tree) (place : List String) : Bool :=
  place.isPrefixOf tree.here ||
    tree.entries.any fun (names, content) =>
      place.isPrefixOf names && (content.isNone || place != names)

/-- What stands at a place. -/
def statusAt (tree : Tree) (place : List String) : Status :=
  if (tree.content? place).isSome then .file
  else if tree.isDirectory place then .directory
  else .missing

/-- One step of a walk, which must leave a directory. -/
def step (tree : Tree) (place : List String) (name : String) : Except Status (List String) :=
  if tree.statusAt place != .directory then .error .missing
  else if name == "" || name == "." then .ok place
  else if name == ".." then .ok place.dropLast
  else if name.utf8ByteSize > maxNameBytes then .error .tooLong
  else .ok (place ++ [name])

/-- The place that a path leads to. The empty path leads nowhere. -/
def locate (tree : Tree) (path : String) : Except Status (List String) :=
  if path == "" then .error .missing
  else if path.utf8ByteSize > maxPathBytes then .error .tooLong
  else
    let start := if path.toList.head? == some '/' then [] else tree.here
    (Text.splitAtEach '/' path).foldlM tree.step start

/-- What stands at a path. -/
def status (tree : Tree) (path : String) : Status :=
  match tree.locate path with
  | .ok place => tree.statusAt place
  | .error status => status

/-- The content of the file at a path; empty when there is none. -/
def read (tree : Tree) (path : String) : ByteArray :=
  match tree.locate path with
  | .ok place => (tree.content? place).getD .empty
  | .error _ => .empty

/-- The tree with the content of a file replaced. -/
def write (tree : Tree) (path text : String) : Tree :=
  match tree.locate path with
  | .ok place =>
    { tree with entries := tree.entries.map fun (names, content) =>
        if names == place then (names, some text.toUTF8) else (names, content) }
  | .error _ => tree

end Tree

/-- A program may run on a tree that is kept as a state. -/
instance : Access (StateM Tree) where
  here := do return { anchor := "/", names := (← get).here }
  status path := do return (← get).status path
  read path := do return (← get).read path
  write path text := modify fun tree => tree.write path text

end ClassOrder.Files
