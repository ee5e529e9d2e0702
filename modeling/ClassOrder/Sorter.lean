import ClassOrder.ClassList.Sorting
import ClassOrder.Index.Build

/-!
# The class sorter

A sorter owns a resolved configuration, a plugin order and the selector index built from
them. Changing the order or the configuration rebuilds the index. A change first replaces
what it was asked to replace and then rebuilds, so when the rebuilding fails, the sorter
keeps the new order or configuration together with the old index.
-/
namespace ClassOrder

/-- The settings of a sorter. Where the separator is empty or null, the configuration's
own is used. -/
structure SorterOptions where
  policy : GroupPolicy := .componentsFirst
  unknown : UnknownPosition := .atStart
  breakpoints : List Plain := defaultBreakpoints.map .text
  sorted : Bool := false
  separator : Plain := .null

/-- A line of the report on what the program does, and the part that wrote it. -/
structure Remark where
  source : String
  text : String
  deriving DecidableEq

namespace Remark

/-- A remark on the way to a configuration file. -/
def onLoading (text : String) : Remark :=
  ⟨"twsort.loader", text⟩

/-- A remark of the sorter. -/
def onSorting (text : String) : Remark :=
  ⟨"twsort.sorter", text⟩

/-- A remark on building the index. -/
def onBuilding (text : String) : Remark :=
  ⟨"twsort.index.builder", text⟩

end Remark

/-- A sorter. -/
structure Sorter where
  options : SorterOptions
  catalog : Catalog
  engine : Engine
  config : Setting
  pluginOrder : List PluginId
  index : SelectorIndex String

/-- The outcome of an operation together with the remarks made on the way. -/
structure Remarked (α : Type) where
  outcome : Except Fault α
  remarks : List Remark

namespace Sorter

/-- What the index is built with. -/
def indexSettings (options : SorterOptions) (catalog : Catalog) (engine : Engine)
    (config : Setting) : IndexSettings where
  config := config
  catalog := catalog
  engine := engine
  policy := options.policy
  sorted := options.sorted

/-- Builds the index for an order, and remarks on it. -/
def buildIndex (settings : IndexSettings) (order : List PluginId) :
    Remarked (SelectorIndex String) :=
  let built := settings.build order
  let announcement := "Building selector index for " ++ toString order.length ++ " plugins"
  { outcome := built.outcome
    remarks := .onSorting announcement :: built.report.map .onBuilding }

/-- The configuration that a user's configuration resolves to, over the defaults of the
engine. -/
def resolveOver (engine : Engine) (config : Setting) : Except Fault Setting :=
  engine.resolve [config, engine.defaults]

/-- The plugin order to begin with: the one that is given, or the default order. The
default order must exist in both cases. -/
def initialOrder (catalog : Catalog) (order : Option PluginOrder) :
    Except Fault (List PluginId) := do
  let defaultOrder ← catalog.defaultOrder
  match order with
  | none => return defaultOrder
  | some order => order.resolve (.ok defaultOrder)

/-- Makes a sorter. A catalog without plugins counts as none given, and then the core
plugins are used. -/
def create (config : Setting) (options : SorterOptions) (catalog : Catalog)
    (engine : Engine) (order : Option PluginOrder) : Remarked Sorter :=
  let catalog := if catalog.isEmpty then Catalog.builtin else catalog
  let prepared : Except Fault (Setting × List PluginId) := do
    let resolved ← resolveOver engine config
    let ids ← initialOrder catalog order
    return (resolved, ids)
  match prepared with
  | .error fault => { outcome := .error fault, remarks := [] }
  | .ok (resolved, ids) =>
    let built := buildIndex (indexSettings options catalog engine resolved) ids
    { outcome := built.outcome.map fun index =>
        { options, catalog, engine, config := resolved, pluginOrder := ids, index }
      remarks := built.remarks }

/-- What a change leaves behind: the sorter as it is afterwards, whether the change
succeeded, and the remarks made on the way. -/
structure Change where
  sorter : Sorter
  outcome : Except Fault Unit
  remarks : List Remark

/-- Rebuilds the index for the current order and configuration. When that fails, the old
index stays. -/
def rebuild (sorter : Sorter) : Change :=
  let settings := indexSettings sorter.options sorter.catalog sorter.engine sorter.config
  let built := buildIndex settings sorter.pluginOrder
  match built.outcome with
  | .ok index =>
    { sorter := { sorter with index }, outcome := .ok (), remarks := built.remarks }
  | .error fault => { sorter, outcome := .error fault, remarks := built.remarks }

/-- Replaces the plugin order and rebuilds the index. A function acts on the catalog's
default order. -/
def setPluginOrder (sorter : Sorter) (order : PluginOrder) : Change :=
  match order.resolve sorter.catalog.defaultOrder with
  | .ok ids => rebuild { sorter with pluginOrder := ids }
  | .error fault => { sorter, outcome := .error fault, remarks := [] }

/-- Replaces the configuration by a newly resolved one and rebuilds the index. -/
def reconfigure (sorter : Sorter) (config : Setting) : Change :=
  match resolveOver sorter.engine config with
  | .ok resolved => rebuild { sorter with config := resolved }
  | .error fault => { sorter, outcome := .error fault, remarks := [] }

/-- The separator in force: that of the options, else that of the configuration, else a
colon. What is empty counts as not given. -/
def separator (sorter : Sorter) : Except Fault Setting := do
  if sorter.options.separator.isGiven then return .ofPlain sorter.options.separator
  else
    let configured := (← Config.entry sorter.config "separator").getD .null
    return if configured.isGiven then configured else .text ":"

/-- How class lists are sorted, apart from the separator. -/
def rules (sorter : Sorter) : Except Fault SortRules := do
  return {
    index := sorter.index
    breakpoints := ← Value.keyTexts sorter.options.breakpoints
    unknown := sorter.options.unknown }

/-- Sorts the tokens of a class list. -/
def sort (sorter : Sorter) (classes : Plain) : Except Fault (List String) := do
  let separator ← sorter.separator
  let tokens ← ClassToken.listOf classes
  let rules ← sorter.rules
  rules.sortValues separator tokens

/-- Sorts the words of a class string. -/
def sortText (sorter : Sorter) (classes : String) : Except Fault (List String) :=
  sorter.sort (.text classes)

end Sorter

end ClassOrder
