import ClassOrder.Plugin.Registry

/-!
# Plugin orders

An order names plugins from first to last. It is taken from any value that can be taken
apart into items that can be looked up: repeated items count at their first place.
-/
namespace ClassOrder

/-- What names a plugin in an order. It is a text as a rule. -/
abbrev PluginId := Plain

namespace PluginId

/-- No two names of an order are the same, whichever of the two is asked. -/
def Unrepeated (order : List PluginId) : Prop :=
  order.Pairwise fun left right => left.same right = false ∧ right.same left = false

/-- The distinct plugins among items, each at its first place. -/
def distinctOf (items : List Plain) : Except Fault (List PluginId) := do
  return (← Value.asKeys items).eraseDups

end PluginId

/-- A way to order plugins: a value that lists them, or a function of the default
order. -/
inductive PluginOrder where
  | given (order : Plain)
  | derived (arrange : List PluginId → Except Fault Plain)

namespace PluginOrder

/-- The distinct plugins that a value lists. -/
def idsOf (order : Plain) : Except Fault (List PluginId) := do
  PluginId.distinctOf (← order.items)

/-- The distinct plugins of an order. Only a function of the default order needs that
one to exist. -/
def resolve (order : PluginOrder) (defaultOrder : Except Fault (List PluginId)) :
    Except Fault (List PluginId) :=
  match order with
  | .given value => idsOf value
  | .derived arrange => do idsOf (← arrange (← defaultOrder))

end PluginOrder

end ClassOrder
