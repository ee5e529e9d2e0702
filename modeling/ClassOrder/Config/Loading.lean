import ClassOrder.Files.Access
import ClassOrder.Json.Reader
import ClassOrder.Theme.Rule

/-!
# Finding and reading the configuration file

The configuration file is searched for in a directory and in the directories above it,
nearest first, up to a fixed number of levels. It holds a JSON object.
-/
namespace ClassOrder.Config

open Files (Path Access)

variable {m : Type → Type} [Monad m] [Access m]

/-- The name of the configuration file. -/
def fileName : String :=
  "tailwind.config.json"

/-- The number of directories above the first one that are searched. -/
def maxParentLevels : Nat :=
  16

/-- The places where the configuration file may stand, nearest first. -/
def candidates (directory : Path) : List Path :=
  (directory.ancestry.take (maxParentLevels + 1)).map fun above => above.child fileName

/-- The first of several paths at which a file stands. -/
def firstFile : List Path → ExceptT Fault m (Option Path)
  | [] => return none
  | path :: rest => do
    if ← Files.isFile path then return some path else firstFile rest

/-- The place that a start names from the working directory. Double dots are taken by the
names alone. -/
def placeFrom (start : Option String) : ExceptT Fault m Path := do
  let here ← (Access.here : m Path)
  match start with
  | none => return here
  | some text =>
    if Files.hasNull text then throw (.nullInPath text)
    return (here.followedBy (Path.ofText text)).collapsed

/-- The directory where a search begins: the place that the start names, or the directory
that holds it when it is a file. -/
def searchStart (start : Option String) : ExceptT Fault m Path := do
  let place ← placeFrom start
  if ← Files.isFile place then return place.parent else return place

/-- Finds the configuration file that is nearest to the start. -/
def find (start : Option String) : ExceptT Fault m Path := do
  let paths := candidates (← searchStart start)
  match ← firstFile paths with
  | some path => return path
  | none => throw (.noConfigFound fileName paths)

/-- The path of the configuration file: the one that is named, or else the nearest. -/
def locate (named : Option String) : ExceptT Fault m Path := do
  match named with
  | none => find none
  | some text =>
    let path := Path.ofText text
    if ← Files.isFile path then return path else throw (.configMissing path)

/-- The configuration that a file's text holds. -/
def ofText (path : Path) (text : String) : Except Fault Setting :=
  match Json.read text with
  | .error failure => .error (.config (.notJson path failure))
  | .ok (.mapping entries) => .ok (.mapping entries)
  | .ok other => .error (.config (.notAnObject path other.kindName))

/-- Loads the configuration from a file. -/
def load (path : Path) : ExceptT Fault m Setting := do
  let text ← Files.readText (m := m) path
  match ofText path text with
  | .ok config => return config
  | .error fault => throw fault

/-- Reads the configuration: from the file that is named, or else from the nearest. -/
def read (named : Option String) : ExceptT Fault m Setting := do
  load (← locate named)

end ClassOrder.Config
