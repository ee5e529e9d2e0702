import ClassOrder.Plugin.Registry

/-!
# The core plugins

Each core plugin reads its scale from the theme and registers one class for every entry
of it, or registers a fixed set of classes. A class takes its name from a base and the
entry's name: the entry `default` gives the base alone, and a name with a leading minus
moves the minus to the front.
-/
namespace ClassOrder.Plugin

/-- The class name for an entry of a scale. -/
def className (base name : String) : String :=
  if name == "default" then base
  else match name.toList with
    | '-' :: rest => "-" ++ base ++ "-" ++ String.ofList rest
    | _ => base ++ "-" ++ name

/-- The selector of a class. -/
def classSelector (name : String) : String :=
  "." ++ Selector.escape name

/-- The same value for each of several properties. -/
def propertiesOf (properties : List String) (value : Setting) : Setting :=
  .mapping (properties.map fun property => (property, value))

/-- The classes for the entries of a scale. -/
def scaleClasses (base : String) (properties : List String) (scale : Entries Setting) :
    Entries Setting :=
  Entries.ofPairs (scale.map fun (name, value) =>
    (classSelector (className base name), propertiesOf properties value))

/-- The name of a colour inside a palette. Its own name counts outside of any palette,
and the default shade has the palette's name. -/
def colorName (palette name : String) : String :=
  if palette == "" then name
  else if name == "default" then palette
  else palette ++ "-" ++ name

mutual
/-- The flat mapping of one colour, or of a palette and all palettes in it. -/
def flattenColor (name : String) : Setting → Entries Setting
  | .mapping shades => flattenShades name [] shades
  | value => [(name, .text value.display)]

/-- The flat mapping of the shades of a palette, each written over those before it. -/
def flattenShades (palette : String) (done : Entries Setting) :
    List (String × Setting) → Entries Setting
  | [] => done
  | (name, value) :: rest =>
    let flat := flattenColor (colorName palette name) value
    flattenShades palette (Entries.merge done flat) rest
end

/-- Nested palettes as a flat mapping from colour names to texts. -/
def flattenColors (colors : Entries Setting) : Entries Setting :=
  flattenShades "" [] colors

/-- A scale of the theme: a mapping, empty when the theme has none. -/
def scaleOf (config : Setting) (name : String) : Except Fault (Entries Setting) := do
  Theme.entriesOf (← Config.themeAt config name (.mapping []))

/-- Registers classes as utilities, in the variants of the plugin. -/
def registerUtilities (plugin : String) (config : Setting) (classes : Entries Setting) :
    Registering Unit := do
  let variants ← Registering.ofExcept (Config.variantsOf config (.text plugin) (.list []))
  Registering.addUtilities config (.mapping classes) (.list variants)

/-- The plugin for the page container, whose width is bound by each breakpoint. -/
def container (config : Setting) : Registering Unit := do
  let screens ← Registering.ofExcept (Config.themeAt config "screens" (.mapping []))
  let widths ← match screens with
    | .mapping entries => pure (Entries.values entries)
    | other => throw (.lacks .values other.kindName)
  let selector := ".container"
  let full : Setting := .mapping [(selector, .mapping [("width", .text "100%")])]
  let bounded (width : Setting) : Setting :=
    .mapping [("@media (min-width: " ++ width.display ++ ")",
      .mapping [(selector, .mapping [("max-width", width)])])]
  Registering.addComponents config (.list (full :: widths.map bounded))

/-- The plugin that registers fixed classes, each with one declaration. -/
def fixedClasses (plugin : String) (property : String) (classes : List (String × String))
    (config : Setting) : Registering Unit :=
  registerUtilities plugin config
    (Entries.ofPairs (classes.map fun (name, value) =>
      (classSelector name, propertiesOf [property] (.text value))))

/-- The plugin for a scale whose entries set the same properties. -/
def scaledClasses (plugin base : String) (properties : List String) (config : Setting) :
    Registering Unit := do
  let scale ← Registering.ofExcept (scaleOf config plugin)
  registerUtilities plugin config (scaleClasses base properties scale)

/-- The three passes over a spacing scale: all sides, the two axes, the single sides.
Within a pass the classes of one entry stand together. -/
def spacingPasses (base property : String) : List (List (String × List String)) :=
  [[(base, [property])],
    [(base ++ "y", [property ++ "-top", property ++ "-bottom"]),
      (base ++ "x", [property ++ "-left", property ++ "-right"])],
    [(base ++ "t", [property ++ "-top"]), (base ++ "r", [property ++ "-right"]),
      (base ++ "b", [property ++ "-bottom"]), (base ++ "l", [property ++ "-left"])]]

/-- The classes for a spacing scale. -/
def spacingClasses (base property : String) (scale : Entries Setting) : Entries Setting :=
  Entries.ofPairs ((spacingPasses base property).flatMap fun pass =>
    scale.flatMap fun (name, value) =>
      pass.map fun (side, properties) =>
        (classSelector (className side name), propertiesOf properties value))

/-- The plugin for a spacing scale. -/
def spacedClasses (plugin base property : String) (config : Setting) : Registering Unit := do
  let scale ← Registering.ofExcept (scaleOf config plugin)
  registerUtilities plugin config (spacingClasses base property scale)

/-- The plugin for colours. -/
def coloredClasses (plugin base property : String) (config : Setting) : Registering Unit := do
  let colors ← Registering.ofExcept (scaleOf config plugin)
  registerUtilities plugin config (scaleClasses base [property] (flattenColors colors))

/-- The plugin for animations, which brings their keyframes along. -/
def animation (config : Setting) : Registering Unit := do
  let keyframes ← Registering.ofExcept (scaleOf config "keyframes")
  let animations ← Registering.ofExcept (scaleOf config "animation")
  let stages := Entries.ofPairs (keyframes.map fun (name, frames) =>
    ("@keyframes " ++ name, frames))
  let classes := scaleClasses "animate" ["animation"] animations
  registerUtilities "animation" config (Entries.merge stages classes)

/-- The core plugins by name, in the order of the framework. -/
def corePrograms : List (String × (Setting → Registering Unit)) :=
  [("container", container),
    ("display", fixedClasses "display" "display"
      [("block", "block"), ("inline-block", "inline-block"), ("inline", "inline"),
        ("flex", "flex"), ("inline-flex", "inline-flex"), ("grid", "grid"),
        ("hidden", "none")]),
    ("flexDirection", fixedClasses "flexDirection" "flex-direction"
      [("flex-row", "row"), ("flex-row-reverse", "row-reverse"), ("flex-col", "column"),
        ("flex-col-reverse", "column-reverse")]),
    ("justifyContent", fixedClasses "justifyContent" "justify-content"
      [("justify-start", "flex-start"), ("justify-end", "flex-end"),
        ("justify-center", "center"), ("justify-between", "space-between"),
        ("justify-around", "space-around")]),
    ("alignItems", fixedClasses "alignItems" "align-items"
      [("items-start", "flex-start"), ("items-end", "flex-end"), ("items-center", "center"),
        ("items-baseline", "baseline"), ("items-stretch", "stretch")]),
    ("margin", spacedClasses "margin" "m" "margin"),
    ("padding", spacedClasses "padding" "p" "padding"),
    ("width", scaledClasses "width" "w" ["width"]),
    ("height", scaledClasses "height" "h" ["height"]),
    ("zIndex", scaledClasses "zIndex" "z" ["z-index"]),
    ("textAlign", fixedClasses "textAlign" "text-align"
      [("text-left", "left"), ("text-center", "center"), ("text-right", "right"),
        ("text-justify", "justify")]),
    ("textColor", coloredClasses "textColor" "text" "color"),
    ("backgroundColor", coloredClasses "backgroundColor" "bg" "background-color"),
    ("borderRadius", scaledClasses "borderRadius" "rounded" ["border-radius"]),
    ("fontSize", scaledClasses "fontSize" "text" ["font-size"]),
    ("fontWeight", scaledClasses "fontWeight" "font" ["font-weight"]),
    ("opacity", scaledClasses "opacity" "opacity" ["opacity"]),
    ("animation", animation)]

/-- The core plugins by name, in the order of the framework. -/
def core : Entries Plugin :=
  corePrograms.map fun (name, run) => (name, .program name run)

end ClassOrder.Plugin
