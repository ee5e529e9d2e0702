import ClassOrder.CommandLine.Run

/-!
# The program

The outermost layer: it gives a run access to the real files, the arguments and the
standard input, and writes out what the run has written.
-/
namespace ClassOrder

open Files (Path Access Status)

/-- What stands at a real path, as an attempt to read it shows. -/
def realStatus (path : String) : IO Status := do
  match ← (IO.FS.readBinFile path).toBaseIO with
  | .ok _ => return .file
  | .error (.inappropriateType _ _ _) => return .directory
  | .error (.invalidArgument _ _ _) => return .tooLong
  | .error _ => return .missing

/-- A program may run on the files of the system. -/
instance : Access IO where
  here := do return Path.ofText (← IO.currentDir).toString
  status := realStatus
  read path := IO.FS.readBinFile path
  write path text := IO.FS.writeFile path text

/-- The whole of the standard input. -/
def wholeInput : IO String := do
  (← IO.getStdin).readToEnd

end ClassOrder

/-- Runs the program. -/
def main (arguments : List String) : IO UInt32 := do
  let finished ← ClassOrder.CommandLine.run arguments ClassOrder.wholeInput
  IO.print finished.written.output
  IO.eprint finished.written.report
  match finished.exit with
  | .status _ => pure ()
  | .wrongUse => IO.eprintln "Usage: twsort [OPTIONS] COMMAND [ARGS]..."
  | .escaped fault => IO.eprintln fault.message
  return finished.exit.code.toUInt32
