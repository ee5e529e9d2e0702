import ClassOrder.Plugin.Catalog
import ClassOrder.Plugin.Engine
import ClassOrder.SelectorIndex
import ClassOrder.Style.Extraction

/-!
# Building the selector index

Plugins are processed one by one in the plugin order. One that is disabled, or that
cannot be resolved, contributes nothing; any other fault ends the building. The
selectors of components and of utilities are gathered apart and put together by the
group policy.

What happens to each plugin is kept as a verdict, so that the report of the building
can be written afterwards, also when a fault ended it.
-/
namespace ClassOrder

/-- How the selectors of components and of utilities are put together. -/
inductive GroupPolicy where
  | componentsFirst
  | componentsLast
  | asIs
  deriving DecidableEq

namespace GroupPolicy

/-- The name of a policy. -/
def name : GroupPolicy → String
  | componentsFirst => "components-first"
  | componentsLast => "components-last"
  | asIs => "as-is"

/-- All policies. -/
def all : List GroupPolicy :=
  [componentsFirst, componentsLast, asIs]

end GroupPolicy

/-- Whether a configuration enables a plugin. The setting may list the plugins that are
enabled or map plugins to switches; a plugin that the mapping leaves out is enabled. -/
def Config.enables (config : Setting) (id : PluginId) : Except Fault Bool := do
  match (← Config.entry config "corePlugins").getD .null with
  | .null => return true
  | .mapping switches =>
    return ((← Config.entryAt (.mapping switches) id).map Value.isGiven).getD true
  | enabled => enabled.holds id

/-- The selectors that one plugin contributes. -/
structure Contribution where
  components : List String
  utilities : List String

/-- What became of a plugin. -/
inductive Verdict where
  | disabled
  | unresolvable (plugin reason : Plain)
  | contributed (contribution : Contribution)

/-- Everything that the index is built with, apart from the plugin order. -/
structure IndexSettings where
  config : Setting
  catalog : Catalog
  engine : Engine
  policy : GroupPolicy := .componentsFirst
  sorted : Bool := false

namespace IndexSettings

/-- The selectors of styles, group by group. -/
def contributionOf (settings : IndexSettings) (styles : StyleForests) :
    Except Fault Contribution := do
  let components ← styles.components.extract settings.sorted
  let utilities ← styles.utilities.extract settings.sorted
  return { components, utilities }

/-- The styles of a plugin that is processed on its own. -/
def styles (settings : IndexSettings) (id : PluginId) : Except Fault StyleForests := do
  let plugin ← settings.catalog.load id
  settings.engine.process [plugin] settings.config

/-- What becomes of a plugin, unless a fault ends the building. -/
def judge (settings : IndexSettings) (id : PluginId) : Except Fault Verdict := do
  if ← Config.enables settings.config id then
    match settings.styles id with
    | .ok styles => return .contributed (← settings.contributionOf styles)
    | .error (.unresolvable plugin reason) => return .unresolvable plugin reason
    | .error fault => throw fault
  else return .disabled

/-- The verdicts on plugins in turn, and the fault that ended the building, if any. -/
def judgeAll (settings : IndexSettings) :
    List PluginId → List (PluginId × Verdict) × Option Fault
  | [] => ([], none)
  | id :: rest =>
    match settings.judge id with
    | .error fault => ([], some fault)
    | .ok verdict =>
      let (verdicts, fault) := judgeAll settings rest
      ((id, verdict) :: verdicts, fault)

end IndexSettings

/-- The contribution of a verdict. -/
def Verdict.contribution? : Verdict → Option Contribution
  | contributed contribution => some contribution
  | _ => none

/-- Why a plugin contributes nothing, as the report says it. -/
def Verdict.remark? (id : PluginId) : Verdict → Option String
  | disabled => some ("Skipping disabled plugin " ++ id.display)
  | unresolvable plugin reason =>
    some ("Skipping plugin " ++ id.display ++ ": " ++ Fault.unresolvableMessage plugin reason)
  | contributed _ => none

/-- The selectors of several contributions, put together by a policy. Without grouping,
each plugin's selectors stand together, components first, both alphabetically. -/
def GroupPolicy.assemble (policy : GroupPolicy) (contributions : List Contribution) :
    List String :=
  let components := contributions.flatMap Contribution.components
  let utilities := contributions.flatMap Contribution.utilities
  match policy with
  | componentsFirst => components ++ utilities
  | componentsLast => utilities ++ components
  | asIs => contributions.flatMap fun contribution =>
      alphabetical contribution.components ++ alphabetical contribution.utilities

/-- The outcome of building an index, and the report of the building. -/
structure BuiltIndex where
  outcome : Except Fault (SelectorIndex String)
  report : List String

/-- Builds the selector index for a plugin order. -/
def IndexSettings.build (settings : IndexSettings) (order : List PluginId) : BuiltIndex :=
  let (verdicts, fault) := settings.judgeAll order
  let remarks := verdicts.filterMap fun (id, verdict) => verdict.remark? id
  match fault with
  | some fault => { outcome := .error fault, report := remarks }
  | none =>
    let contributions := verdicts.filterMap fun (_, verdict) => verdict.contribution?
    let index := SelectorIndex.ofList (settings.policy.assemble contributions)
    let summary := "Built selector index: " ++ toString index.size ++ " selectors from " ++
      toString order.length ++ " plugins (" ++ settings.policy.name ++ ")"
    { outcome := .ok index, report := remarks ++ [summary] }

end ClassOrder
