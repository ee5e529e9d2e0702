import ClassOrder.Plugin.Core
import ClassOrder.Plugin.Order

/-!
# The plugin catalog

A catalog holds plugins by what names them, in the order in which they were registered.
Its default order is the one that was declared with it, or else ascending.

The plugins stand in a table that no name is in twice. The table is written under names
that can be looked up only, and two of these are the same whichever of them is asked, so
writing in place or at the end keeps the names apart.
-/
namespace ClassOrder

/-- Plugins by what names them, in the order of their first registration. No two of them
go by the same name. -/
structure PluginTable where
  entries : List (PluginId × Plugin)
  unrepeated : PluginId.Unrepeated (Entries.names entries)

namespace PluginTable

/-- The table of no plugins. -/
def empty : PluginTable where
  entries := []
  unrepeated := List.Pairwise.nil

/-- A plugin that is written takes the place of one of its name, or goes to the end where
none has the name. -/
theorem unrepeated_insert (table : PluginTable) {id : PluginId} (keyed : id.asKey = .ok id)
    (plugin : Plugin) :
    PluginId.Unrepeated (Entries.names (Entries.insert table.entries id plugin)) := by
  rw [Entries.names_insert]
  split
  · exact table.unrepeated
  · rename_i fresh
    refine List.pairwise_append.mpr ⟨table.unrepeated, List.pairwise_singleton _ _, ?_⟩
    intro known member other single
    cases List.mem_singleton.mp single
    have different : known.same id = false := by
      rw [List.any_eq_true] at fresh
      exact Bool.eq_false_iff.mpr fun same => fresh ⟨known, member, same⟩
    exact ⟨different, (Value.same_comm_of_asKey keyed).trans different⟩

/-- Writes a plugin under a name, in place of the plugin of that name if there is one. -/
def write (table : PluginTable) (id : PluginId) (plugin : Plugin) : Except Fault PluginTable :=
  match keyed : id.asKey with
  | .ok _ => .ok {
      entries := Entries.insert table.entries id plugin
      unrepeated := table.unrepeated_insert (Value.eq_of_asKey keyed ▸ keyed) plugin }
  | .error fault => .error fault

/-- The table of plugins that are written one after the other. What cannot be looked up
names none of them. -/
def ofPairs (pairs : List (PluginId × Plugin)) : PluginTable :=
  pairs.foldl (fun table (id, plugin) => (table.write id plugin).toOption.getD table) empty

/-- A table may be given by its plugins. -/
instance : Coe (List (PluginId × Plugin)) PluginTable :=
  ⟨ofPairs⟩

/-- The number of plugins. -/
def length (table : PluginTable) : Nat :=
  table.entries.length

end PluginTable

/-- The core plugins have names of their own. -/
theorem Plugin.core_unrepeated :
    PluginId.Unrepeated (Entries.names (core.map fun (name, plugin) =>
      ((.text name, plugin) : PluginId × Plugin))) := by
  have texts : Entries.names (core.map fun (name, plugin) =>
      ((.text name, plugin) : PluginId × Plugin)) =
        (corePrograms.map Prod.fst).map Value.text := by
    simp [Entries.names, core]
  have different : (corePrograms.map Prod.fst).Nodup := by
    decide
  rw [texts]
  refine List.pairwise_map.mpr (different.imp ?_)
  intro left right different
  simp [Value.same, Value.sameScalar, Value.key?, different, Ne.symm different]

/-- Named plugins, and the default order if one was declared. -/
structure Catalog where
  plugins : PluginTable := .empty
  declaredOrder : Option (List Plain) := none

namespace Catalog

/-- Registers a plugin. A plugin of that name is replaced in its place. -/
def register (catalog : Catalog) (id : PluginId) (plugin : Plugin) : Except Fault Catalog := do
  return { catalog with plugins := ← catalog.plugins.write id plugin }

/-- What names the plugins, in the order of registration. -/
def ids (catalog : Catalog) : List PluginId :=
  Entries.names catalog.plugins.entries

/-- The declared order without repetition, or all names in ascending order. -/
def defaultOrder (catalog : Catalog) : Except Fault (List PluginId) :=
  match catalog.declaredOrder with
  | some order => PluginId.distinctOf order
  | none => Value.ascending catalog.ids

/-- Whether a plugin is registered. -/
def contains (catalog : Catalog) (id : PluginId) : Except Fault Bool := do
  return Entries.contains catalog.plugins.entries (← id.asKey)

/-- The plugin with a name. -/
def load (catalog : Catalog) (id : PluginId) : Except Fault Plugin := do
  match Entries.get? catalog.plugins.entries (← id.asKey) with
  | some plugin => return plugin
  | none => throw (.unresolvable id (.text "not in catalog"))

/-- Whether a catalog has no plugins. -/
def isEmpty (catalog : Catalog) : Bool :=
  catalog.plugins.entries.isEmpty

/-- The core plugins in the order of the framework. -/
def builtin : Catalog where
  plugins := {
    entries := Plugin.core.map fun (name, plugin) => (.text name, plugin)
    unrepeated := Plugin.core_unrepeated }
  declaredOrder := some (Plugin.corePrograms.map fun (name, _) => .text name)

end Catalog

end ClassOrder
