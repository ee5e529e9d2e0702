import ClassOrder.CommandLine.Options
import ClassOrder.Config.Loading
import ClassOrder.Markup.Rewriting
import ClassOrder.Text.ControlSequence

/-!
# Running a command

A run writes lines to its output and to its report, may read and replace files, and ends
with an exit. An unusable or missing configuration is reported and ends the run with
status one. A wrong use of the program ends it with status two. Any other fault escapes.
-/
namespace ClassOrder.CommandLine

open Files (Path Access Status)

/-- How a run ended. -/
inductive Exit where
  | status (code : Nat)
  | wrongUse
  | escaped (fault : Fault)

/-- The status of an exit. -/
def Exit.code : Exit → Nat
  | status code => code
  | wrongUse => 2
  | escaped _ => 1

/-- What a run has written. -/
structure Written where
  output : String := ""
  report : String := ""

/-- A step of a run: it may write, and it may end the run. -/
abbrev Running (m : Type → Type) := ExceptT Exit (StateT Written m)

/-- The version of the program. -/
def version : String :=
  "0.1.0"

variable {m : Type → Type} [Monad m] [Access m]

/-- Writes a line of output, without control sequences. -/
def printLine (line : String) : Running m Unit :=
  modify fun written => { written with output := written.output ++ Text.printed line ++ "\n" }

/-- Writes a line of the report. -/
def reportLine (line : String) : Running m Unit :=
  modify fun written => { written with report := written.report ++ line ++ "\n" }

/-- Writes remarks to the report, when they are wanted. -/
def reportRemarks (wanted : Bool) (remarks : List Remark) : Running m Unit :=
  if wanted then
    remarks.forM fun remark => reportLine ("DEBUG " ++ remark.source ++ ": " ++ remark.text)
  else return

/-- The exit for a fault: one that lies in the configuration is reported. -/
def failWith {α : Type} (fault : Fault) : Running m α := do
  let reported := match fault with
    | .config _ => true
    | .noConfigFound _ _ => true
    | .configMissing _ => true
    | _ => false
  if reported then
    reportLine (Text.printed ("Error: " ++ fault.message))
    throw (.status 1)
  else throw (.escaped fault)

/-- The value of an outcome, or an exit that leaves the fault as it is. -/
def orEscape {α : Type} (outcome : Except Fault α) : Running m α :=
  match outcome with
  | .ok value => return value
  | .error fault => throw (.escaped fault)

/-- Loads the configuration that the settings ask for. A file that was searched for is
remarked on. -/
def loadConfig (settings : Settings) : Running m Setting := do
  match ← (Config.locate (m := m) settings.configPath).run with
  | .error fault => failWith fault
  | .ok path =>
    if settings.configPath.isNone then
      reportRemarks settings.verbose [.onLoading ("Found config at " ++ path.text)]
    match ← (Config.load (m := m) path).run with
    | .error fault => failWith fault
    | .ok config => return config

/-- Makes the sorter that the settings ask for. -/
def makeSorter (settings : Settings) : Running m Sorter := do
  let config ← loadConfig settings
  let order := settings.pluginOrder.map fun names => PluginOrder.given (.list (names.map .text))
  let made := Sorter.create config settings.options .builtin .builtin order
  reportRemarks settings.verbose made.remarks
  match made.outcome with
  | .ok sorter => return sorter
  | .error fault => failWith fault

/-- Prints the classes of a text in order. -/
def printSorted (sorter : Sorter) (classes : String) : Running m Unit := do
  printLine (Text.unwords (← orEscape (sorter.sortText classes)))

/-- Sorts the class attributes of one file, or only says that it would. The answer is
whether the file has attributes to change. -/
def formatFile (sorter : Sorter) (check : Bool) (file : String) : Running m Bool := do
  let path := Path.ofText file
  let source ← orEscape (← (Files.readText (m := m) path).run)
  let rewritten ← orEscape (Markup.rewrite sorter.sortText source)
  if rewritten.changed == 0 then return false
  let summary := path.text ++ " (" ++ toString rewritten.changed ++ " attribute(s))"
  if check then printLine ("would reformat " ++ summary)
  else
    (Access.write path.text rewritten.text : m Unit)
    printLine ("reformatted " ++ summary)
  return true

/-- Sorts the class attributes of files in turn, and counts the files to change. -/
def formatFiles (sorter : Sorter) (check : Bool) : List String → Running m Nat
  | [] => return 0
  | file :: rest => do
    let changed ← formatFile sorter check file
    let others ← formatFiles sorter check rest
    return if changed then others + 1 else others

/-- Runs a command. `input` yields the whole of the standard input. -/
def runCommand (settings : Settings) (input : m String) (command : Command) :
    Running m Unit := do
  let sorter ← makeSorter settings
  match command with
  | .sort [] =>
    let text ← (input : m String)
    (Text.lines text).forM (printSorted sorter)
  | .sort classes => printSorted sorter (Text.unwords classes)
  | .selectors => sorter.index.selectors.forM printLine
  | .plugins => sorter.pluginOrder.forM fun id => printLine id.display
  | .format files check =>
    let changed ← formatFiles sorter check files
    let verb := if check then "would be reformatted" else "reformatted"
    printLine (toString changed ++ " of " ++ toString files.length ++ " file(s) " ++ verb)
    if check && changed != 0 then throw (.status 1)

/-- What stands at a path that is given as an argument. -/
def statusOf (path : String) : Running m Status := do
  if Files.hasNull path then throw (.escaped (.nullInPath path))
  (Access.status path : m Status)

/-- Refuses files that are not there or are directories. -/
def requireFiles (files : List String) : Running m Unit :=
  files.forM fun file => do
    if (← statusOf file) != .file then throw .wrongUse

/-- Refuses an option that names nothing known, and a directory as the configuration. -/
def requireMeaning (option : GlobalOption) : Running m Unit := do
  match option with
  | .config path => if (← statusOf path) == .directory then throw .wrongUse
  | .groupOrder name => if (policyNamed name).isNone then throw .wrongUse
  | .unknown name => if (positionNamed name).isNone then throw .wrongUse
  | _ => return

/-- The settings that the options in front of some arguments ask for, and the arguments
after them. The question for the version is answered at once and ends the run. -/
def takeSettings (arguments : List String) : Running m (Settings × List String) := do
  match globalVocabulary.parse false arguments with
  | none => throw .wrongUse
  | some parsed =>
    if parsed.options.contains .version then
      printLine ("twsort, version " ++ version)
      throw (.status 0)
    let options := decisive parsed.options
    options.forM requireMeaning
    match settingsOf options with
    | none => throw .wrongUse
    | some settings => return (settings, parsed.arguments)

/-- Runs the command that arguments name. Arguments that name none are read once more for
options, because two hyphens may have ended the options too early: one of them may ask
for the version, or its value may be at fault. -/
def runNamed (settings : Settings) (arguments : List String) (input : m String) :
    Running m Unit := do
  match commandOf arguments with
  | some command =>
    if let .format files _ := command then requireFiles files
    runCommand settings input command
  | none =>
    discard (takeSettings arguments)
    throw .wrongUse

/-- Runs the program on its arguments. -/
def runArguments (arguments : List String) (input : m String) : Running m Unit := do
  let (settings, rest) ← takeSettings arguments
  runNamed settings rest input

/-- A run that has ended. -/
structure Finished where
  exit : Exit
  written : Written

/-- Runs the program on its arguments to the end. -/
def run (arguments : List String) (input : m String) : m Finished := do
  let (outcome, written) ← ((runArguments arguments input).run).run {}
  match outcome with
  | .ok () => return { exit := .status 0, written }
  | .error exit => return { exit, written }

end ClassOrder.CommandLine
