import ClassOrder.Config.Resolution
import ClassOrder.Plugin.Registry
import ClassOrder.Style.Graph

/-!
# Style engines

An engine brings a default configuration, resolves configurations, and turns plugins
into styles. The bundled engine resolves and runs plugins as this library defines it.
-/
namespace ClassOrder

/-- What a style engine provides. -/
structure Engine where
  defaults : Setting
  resolve : List Setting → Except Fault Setting
  process : List Plugin → Setting → Except Fault StyleForests

/-- The bundled engine. -/
def Engine.builtin : Engine where
  defaults := Config.defaults
  resolve := Config.resolve
  process plugins config := (Plugin.process plugins config).map StyleForests.ofStyles

end ClassOrder
