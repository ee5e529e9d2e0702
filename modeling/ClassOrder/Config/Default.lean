import ClassOrder.Theme.Rule

/-!
# The default configuration

The framework's own configuration comes last in every merge, so each of its entries is
what holds when nobody says otherwise. The scales for width, height, margin and
padding derive from the spacing scale, and those for text and background from the
colours, so that they follow an override.
-/
namespace ClassOrder.Config

/-- A mapping from names to texts. -/
def texts (entries : List (String × String)) : Setting :=
  .mapping (entries.map fun (name, value) => (name, .text value))

/-- A list of texts. -/
def textList (items : List String) : Setting :=
  .list (items.map .text)

/-- The rule that looks up an entry of the theme, or takes the empty mapping. -/
def entryOf (name : String) : ThemeRule :=
  .lookup name (.mapping [])

/-- The breakpoints, by name. -/
def screens : Setting :=
  texts [("sm", "640px"), ("md", "768px"), ("lg", "1024px"), ("xl", "1280px")]

/-- The colours: plain ones, and palettes of three shades. -/
def colors : Setting :=
  .mapping [
    ("transparent", .text "transparent"),
    ("black", .text "#000"),
    ("white", .text "#fff"),
    ("gray", texts [("100", "#f7fafc"), ("500", "#a0aec0"), ("900", "#1a202c")]),
    ("red", texts [("100", "#fff5f5"), ("500", "#f56565"), ("900", "#742a2a")]),
    ("blue", texts [("100", "#ebf8ff"), ("500", "#4299e1"), ("900", "#2a4365")])]

/-- The steps of the spacing scale. -/
def spacing : Setting :=
  texts [("px", "1px"), ("0", "0"), ("1", "0.25rem"), ("2", "0.5rem"), ("4", "1rem"),
    ("8", "2rem")]

/-- The stacking levels. -/
def stackingLevels : Setting :=
  texts [("auto", "auto"), ("0", "0"), ("10", "10"), ("20", "20"), ("30", "30"), ("40", "40"),
    ("50", "50")]

/-- The radii of rounded corners. -/
def cornerRadii : Setting :=
  texts [("none", "0"), ("sm", "0.125rem"), ("default", "0.25rem"), ("lg", "0.5rem"),
    ("full", "9999px")]

/-- The sizes of letters. -/
def fontSizes : Setting :=
  texts [("xs", "0.75rem"), ("sm", "0.875rem"), ("base", "1rem"), ("lg", "1.125rem"),
    ("xl", "1.25rem")]

/-- The weights of letters. -/
def fontWeights : Setting :=
  texts [("normal", "400"), ("medium", "500"), ("bold", "700")]

/-- The degrees of opacity. -/
def opacities : Setting :=
  texts [("0", "0"), ("25", "0.25"), ("50", "0.5"), ("75", "0.75"), ("100", "1")]

/-- The widths: automatic, the spacing scale, a half, the whole and the screen. -/
def widths : ThemeRule :=
  .merge [
    .constant (texts [("auto", "auto")]),
    entryOf "spacing",
    .constant (texts [("1/2", "50%"), ("full", "100%"), ("screen", "100vw")])]

/-- The heights: automatic, the spacing scale, the whole and the screen. -/
def heights : ThemeRule :=
  .merge [
    .constant (texts [("auto", "auto")]),
    entryOf "spacing",
    .constant (texts [("full", "100%"), ("screen", "100vh")])]

/-- The margins: automatic, the spacing scale and its negation. -/
def margins : ThemeRule :=
  .merge [
    .constant (texts [("auto", "auto")]),
    entryOf "spacing",
    .negative (entryOf "spacing")]

/-- The stages of the named animations. -/
def keyframes : Setting :=
  .mapping [
    ("spin", .mapping [("to", texts [("transform", "rotate(360deg)")])]),
    ("ping", .mapping [("75%, 100%", texts [("transform", "scale(2)"), ("opacity", "0")])]),
    ("pulse", .mapping [("50%", texts [("opacity", ".5")])])]

/-- The named animations. -/
def animations : Setting :=
  texts [
    ("none", "none"),
    ("spin", "spin 1s linear infinite"),
    ("ping", "ping 1s cubic-bezier(0, 0, 0.2, 1) infinite"),
    ("pulse", "pulse 2s cubic-bezier(0.4, 0, 0.6, 1) infinite")]

/-- The default theme. -/
def defaultTheme : Entries Setting :=
  [("screens", screens), ("colors", colors), ("spacing", spacing), ("zIndex", stackingLevels),
    ("borderRadius", cornerRadii), ("fontSize", fontSizes), ("fontWeight", fontWeights),
    ("opacity", opacities), ("width", .rule widths), ("height", .rule heights),
    ("margin", .rule margins), ("padding", .rule (entryOf "spacing")),
    ("textColor", .rule (entryOf "colors")), ("backgroundColor", .rule (entryOf "colors")),
    ("keyframes", keyframes), ("animation", animations)]

/-- The names of the default theme. Plugins read these entries as scales. -/
def scaleNames : List String :=
  Entries.names defaultTheme

/-- The variants that each core plugin's utilities come in. -/
def defaultVariants : Entries Setting :=
  let responsive := textList ["responsive"]
  let interactive := textList ["responsive", "hover", "focus"]
  [("display", responsive), ("flexDirection", responsive), ("justifyContent", responsive),
    ("alignItems", responsive), ("margin", responsive), ("padding", responsive),
    ("width", responsive), ("height", responsive), ("zIndex", responsive),
    ("textAlign", responsive), ("textColor", interactive), ("backgroundColor", interactive),
    ("borderRadius", responsive), ("fontSize", responsive), ("fontWeight", interactive),
    ("opacity", interactive), ("animation", responsive)]

/-- The configuration that holds when nobody says otherwise. -/
def defaults : Setting :=
  .mapping [
    ("prefix", .text ""),
    ("separator", .text ":"),
    ("theme", .mapping defaultTheme),
    ("variants", .mapping defaultVariants),
    ("corePlugins", .mapping [])]

end ClassOrder.Config
