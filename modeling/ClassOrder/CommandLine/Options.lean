import ClassOrder.CommandLine.Arguments
import ClassOrder.Sorter

/-!
# The options of the program

Options before the command choose the configuration and how the sorter works. An option
that is given several times counts with its last value, and only that value has to be
valid.
-/
namespace ClassOrder.CommandLine

/-- An option before the command, with its value as given. -/
inductive GlobalOption where
  | config (path : String)
  | groupOrder (name : String)
  | unknown (name : String)
  | pluginOrder (list : String)
  | sorted (enabled : Bool)
  | verbose
  | version
  deriving DecidableEq

/-- The options that may stand before the command. -/
def globalVocabulary : Vocabulary GlobalOption where
  long := [
    ("--config", .valued .config),
    ("--group-order", .valued .groupOrder),
    ("--unknown", .valued .unknown),
    ("--plugin-order", .valued .pluginOrder),
    ("--sort-within-group", .switch (.sorted true)),
    ("--no-sort-within-group", .switch (.sorted false)),
    ("--verbose", .switch .verbose),
    ("--version", .switch .version)]
  letters := [('v', .verbose)]

/-- What the options before the command ask for. -/
structure Settings where
  configPath : Option String
  pluginOrder : Option (List String)
  options : SorterOptions
  verbose : Bool

/-- The matter that an option decides. -/
def GlobalOption.matter : GlobalOption → String
  | config _ => "configuration"
  | groupOrder _ => "group order"
  | unknown _ => "unknown classes"
  | pluginOrder _ => "plugin order"
  | sorted _ => "sorting"
  | verbose => "report"
  | version => "version"

/-- The options that count: for every matter the last one that is given, in the order in
which the matters come up. -/
def decisive (given : List GlobalOption) : List GlobalOption :=
  Entries.values (Entries.ofPairs (given.map fun option => (option.matter, option)))

/-- The policy with a name. -/
def policyNamed (name : String) : Option GroupPolicy :=
  GroupPolicy.all.find? fun policy => policy.name == name

/-- The place of unknown classes with a name. -/
def positionNamed (name : String) : Option UnknownPosition :=
  if name == "start" then some .atStart
  else if name == "end" then some .atEnd
  else none

/-- The plugins that a comma-separated list names. Blanks around a name and empty names do
not count, and an empty list is no order. -/
def pluginsNamed (list : String) : Option (List String) :=
  if list == "" then none
  else some (((Text.splitAtEach ',' list).map Text.trim).filter (· != ""))

/-- What decisive options ask for, unless one of them has no meaning. -/
def settingsOf (options : List GlobalOption) : Option Settings := do
  let policy ← match options.findSome? fun | .groupOrder name => some name | _ => none with
    | some name => policyNamed name
    | none => some .componentsFirst
  let unknown ← match options.findSome? fun | .unknown name => some name | _ => none with
    | some name => positionNamed name
    | none => some .atStart
  let sorted := options.findSome? fun | .sorted enabled => some enabled | _ => none
  let order := options.findSome? fun | .pluginOrder list => some list | _ => none
  return {
    configPath := options.findSome? fun | .config path => some path | _ => none
    pluginOrder := order.bind pluginsNamed
    options := { policy, unknown, sorted := sorted.getD false }
    verbose := options.contains .verbose }

/-- A command of the program. -/
inductive Command where
  /-- Sort classes: those given, or else each line of the input. -/
  | sort (classes : List String)
  /-- List the known selectors in rank order. -/
  | selectors
  /-- List the plugins in order. -/
  | plugins
  /-- Sort the class attributes of files, or only check them. -/
  | format (files : List String) (check : Bool)

/-- The only option of the command that formats files. -/
inductive FormatOption where
  | check

/-- A command that has no options. -/
def plainVocabulary : Vocabulary Empty where
  long := []
  letters := []

/-- The options of the command that formats files. -/
def formatVocabulary : Vocabulary FormatOption where
  long := [("--check", .switch .check)]
  letters := []

/-- The command that arguments name, unless they name none. -/
def commandOf : List String → Option Command
  | [] => none
  | name :: rest =>
    if name == "sort" then
      (plainVocabulary.parse true rest).map fun parsed => .sort parsed.arguments
    else if name == "format" then do
      let parsed ← formatVocabulary.parse true rest
      if parsed.arguments.isEmpty then none
      else some (.format parsed.arguments (!parsed.options.isEmpty))
    else do
      let parsed ← plainVocabulary.parse true rest
      if !parsed.arguments.isEmpty then none
      else if name == "selectors" then some .selectors
      else if name == "plugins" then some .plugins
      else none

end ClassOrder.CommandLine
