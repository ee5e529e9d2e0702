import ClassOrder.Fault
import ClassOrder.Text.Newline

/-!
# Access to files

The program reaches files through a few operations, so that it can run on real files and
on a tree of files that is only described. A path is handed over as text, as it is
written.
-/
namespace ClassOrder.Files

/-- What stands at a path. -/
inductive Status where
  | missing
  | directory
  | file
  /-- The path, or a name on the way, is too long to be looked up. -/
  | tooLong
  deriving DecidableEq

/-- The operations on files. -/
class Access (m : Type → Type) where
  /-- The working directory. -/
  here : m Path
  /-- What stands at a path. -/
  status : String → m Status
  /-- The bytes of the file at a path. -/
  read : String → m ByteArray
  /-- Replaces the text of the file at a path. -/
  write : String → String → m Unit

variable {m : Type → Type} [Monad m] [Access m]

/-- Whether a file stands at a path. Nothing stands at a path with a null character. -/
def isFile (path : Path) : ExceptT Fault m Bool := do
  if hasNull path.text then return false
  match ← (Access.status path.text : m Status) with
  | .file => return true
  | .tooLong => throw (.pathTooLong path)
  | _ => return false

/-- The text that bytes stand for, with a line feed at the end of every line. Bytes that
are not text stand for none. -/
def decode (bytes : ByteArray) : Option String :=
  (String.fromUTF8? bytes).map fun text => String.ofList (Text.unifyNewlines text.toList)

/-- Reads the text of a file. -/
def readText (path : Path) : ExceptT Fault m String := do
  let bytes ← (Access.read path.text : m ByteArray)
  match decode bytes with
  | some text => return text
  | none => throw (.undecodable path)

end ClassOrder.Files
