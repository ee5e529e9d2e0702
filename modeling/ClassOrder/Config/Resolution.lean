import ClassOrder.Config.Default
import ClassOrder.Theme.Resolution

/-!
# Merging configurations

Configurations are merged with the first one strongest. Every entry beside the theme,
and every entry of the base theme, comes from the first configuration that has it. The
`extend` parts of all themes are then merged over the base theme, the strongest last.
The merged theme is resolved, and it is the last entry of the result.
-/
namespace ClassOrder.Config

/-- A part of a configuration that must be a mapping; an absent or null part is empty. -/
def part (name : String) (value : Option Setting) : Except Fault (Entries Setting) :=
  match value with
  | none => .ok []
  | some .null => .ok []
  | some (.mapping entries) => .ok entries
  | some other => .error (.config (.partNotAMapping name other.kindName))

/-- Adds the entries whose names are new, in order. -/
def fillIn (known added : Entries Setting) : Entries Setting :=
  added.foldl
    (fun entries (name, value) =>
      if Entries.contains entries name then entries else entries ++ [(name, value)])
    known

/-- What was gathered from the configurations read so far: the entries beside the
theme, the base theme, and the extensions with the strongest first. -/
structure Gathered where
  settings : Entries Setting
  base : Entries Setting
  extensions : List (Entries Setting)

/-- Adds one configuration, weaker than those before it. -/
def Gathered.add (gathered : Gathered) (config : Setting) : Except Fault Gathered := do
  match config with
  | .mapping entries =>
    let theme ← part "theme" (Entries.get? entries "theme")
    let extension ← part "theme.extend" (Entries.get? theme "extend")
    return {
      settings := fillIn gathered.settings (entries.filter fun (name, _) => name != "theme")
      base := fillIn gathered.base (theme.filter fun (name, _) => name != "extend")
      extensions := gathered.extensions ++ [extension] }
  | other => .error (.config (.notAMapping other.kindName))

/-- Gathers configurations, strongest first. -/
def gather (configs : List Setting) : Except Fault Gathered :=
  configs.foldlM Gathered.add ⟨[], [], []⟩

/-- The theme layers of what was gathered: extensions are merged weakest first. -/
def Gathered.layers (gathered : Gathered) : Theme.Layers where
  base := gathered.base
  extensions := gathered.extensions.reverse

/-- Merges configurations, strongest first, and resolves the merged theme. -/
def resolve (configs : List Setting) : Except Fault Setting := do
  let gathered ← gather configs
  let theme ← gathered.layers.resolved scaleNames
  return .mapping (gathered.settings ++ [("theme", .mapping theme)])

end ClassOrder.Config
