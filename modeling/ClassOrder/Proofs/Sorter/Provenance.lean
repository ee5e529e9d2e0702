import ClassOrder.Proofs.Index.Gathering
import ClassOrder.Proofs.Sorter.Failure

/-!
# Where the selectors of an index come from

Each selector of an index goes back to one plugin: the catalog has it under a name of the plugin
order, the configuration enables it, and it emits the selector when it is processed alone. This
holds of the catalog that the sorter works with. It is the one that was given, unless that one has
no plugins. Then the core plugins take its place, and what they emit does not come from the
catalog that was given.
-/
namespace ClassOrder

open Fallible

/-- The catalog that a sorter works with when it is given this one. -/
def Catalog.orBuiltin (catalog : Catalog) : Catalog :=
  if catalog.isEmpty then .builtin else catalog

/-- A catalog with plugins is worked with as it is. -/
theorem Catalog.orBuiltin_of_nonempty {catalog : Catalog} (nonempty : catalog.isEmpty = false) :
    catalog.orBuiltin = catalog := by
  simp [orBuiltin, nonempty]

/-- The catalog that a sorter works with has plugins. -/
theorem Catalog.orBuiltin_nonempty (catalog : Catalog) : catalog.orBuiltin.isEmpty = false := by
  cases nonempty : catalog.isEmpty with
  | true =>
    rw [orBuiltin, if_pos nonempty]
    rfl
  | false => rw [orBuiltin_of_nonempty nonempty, nonempty]

/-- A catalog without plugins has none to load. -/
theorem Catalog.load_of_isEmpty {catalog : Catalog} {id : PluginId} {plugin : Plugin}
    (empty : catalog.isEmpty = true) : catalog.load id ≠ .ok plugin := by
  have nothing : catalog.plugins.entries = [] := List.isEmpty_iff.mp empty
  intro loaded
  unfold Catalog.load at loaded
  obtain ⟨key, _, found⟩ := bind_eq_ok.mp loaded
  rw [nothing] at found
  cases found

/-- Sorting selectors drops none. -/
theorem StyleForest.mem_selectors_iff {forest : StyleForest} {sorted : Bool} {selector : String} :
    selector ∈ forest.selectors sorted ↔ selector ∈ forest.classNames := by
  unfold selectors
  cases sorted with
  | true => simp only [if_true, mem_alphabetical_iff, List.mem_eraseDups]
  | false => simp only [Bool.false_eq_true, if_false, List.mem_eraseDups]

namespace Sorter

variable {sorter : Sorter} {options : SorterOptions} {catalog : Catalog} {engine : Engine}
  {config : Setting} {order : Option PluginOrder}

/-- The plugin that a catalog has under a name is processed alone and emits a selector, as a
component or as a utility. -/
def EmitsFrom (sorter : Sorter) (catalog : Catalog) (id : PluginId) (selector : String) : Prop :=
  ∃ plugin styles, catalog.load id = .ok plugin ∧
    sorter.engine.process [plugin] sorter.config = .ok styles ∧
    ∃ group : StyleGroup, selector ∈ (group.forest styles).classNames

/-- Every selector of the index is emitted by a plugin of a catalog that the plugin order names and
the configuration enables. -/
def DrawsFrom (sorter : Sorter) (catalog : Catalog) : Prop :=
  ∀ selector ∈ sorter.index.selectors, ∃ id ∈ sorter.pluginOrder,
    Config.enables sorter.config id = .ok true ∧ sorter.EmitsFrom catalog id selector

/-- A sorter is made from the catalog that it works with. -/
theorem create_orBuiltin :
    create config options catalog.orBuiltin engine order =
      create config options catalog engine order := by
  cases nonempty : catalog.isEmpty with
  | true =>
    rw [Catalog.orBuiltin, if_pos nonempty, create, create, if_pos nonempty]
    rfl
  | false => rw [Catalog.orBuiltin_of_nonempty nonempty]

/-- An index that is built from the current order and configuration draws from the catalog of the
sorter. -/
theorem drawsFrom_of_rebuilt (current : sorter.rebuilt = .ok sorter.index) :
    sorter.DrawsFrom sorter.catalog := by
  obtain ⟨_, assembled⟩ := IndexSettings.build_eq_ok.mp current
  intro selector member
  rw [assembled, List.mem_eraseDups, IndexSettings.mem_assembled_iff] at member
  obtain ⟨id, ordered, group, emitted⟩ := member
  obtain ⟨enabled, styles, resolved, emitted⟩ := IndexSettings.mem_emitted_iff.mp emitted
  obtain ⟨plugin, loaded, processed⟩ := bind_eq_ok.mp resolved
  exact ⟨id, ordered, enabled, plugin, styles, loaded, processed, group,
    StyleForest.mem_selectors_iff.mp emitted⟩

/-- Only an empty index draws from a catalog without plugins. -/
theorem drawsFrom_of_isEmpty (empty : catalog.isEmpty = true) :
    sorter.DrawsFrom catalog ↔ sorter.index.selectors = [] := by
  constructor
  · intro drawn
    apply List.eq_nil_iff_forall_not_mem.mpr
    intro selector member
    obtain ⟨_, _, _, _, _, loaded, _⟩ := drawn selector member
    exact Catalog.load_of_isEmpty empty loaded
  · intro nothing selector member
    rw [nothing] at member
    cases member

/-- After every run of calls that return, the index draws from the catalog that the sorter works
with, and without an order of its own the sorter has the default order of that catalog. So the
index draws from the catalog that was given exactly when that one has plugins, or when the index
is empty.

Proof: the sorter is the one that the catalog in use would have given, and after the last call the
index is rebuilt from that. A selector can only come from a plugin that is loaded, and a catalog
without plugins loads none. -/
theorem performAll_draws_from_catalog_iff (catalog : Catalog) (options : SorterOptions)
    (engine : Engine) (config : Setting) (order : Option PluginOrder) (sorter : Sorter)
    (calls : List Call)
    (created : (create config options catalog engine order).outcome = .ok sorter)
    (returned : sorter.AllReturn calls) :
    (sorter.performAll calls).DrawsFrom catalog.orBuiltin ∧
      (lastOrder order calls = none →
        catalog.orBuiltin.defaultOrder = .ok (sorter.performAll calls).pluginOrder) ∧
      ((sorter.performAll calls).DrawsFrom catalog ↔
        catalog.isEmpty = false ∨ (sorter.performAll calls).index.selectors = []) := by
  have nonempty := catalog.orBuiltin_nonempty
  rw [← create_orBuiltin] at created
  obtain ⟨_, worksWith, _, _, ordered, current⟩ :=
    (create_eq_ok nonempty).mp (performAll_created nonempty calls created returned)
  have drawn := drawsFrom_of_rebuilt current
  rw [worksWith] at drawn
  refine ⟨drawn, ?_, ?_⟩
  · intro unordered
    rw [unordered] at ordered
    obtain ⟨defaultOrder, found, rfl⟩ := initialOrder_eq_ok ordered
    exact found
  · cases given : catalog.isEmpty with
    | true => simp [drawsFrom_of_isEmpty given]
    | false =>
      rw [Catalog.orBuiltin_of_nonempty given] at drawn
      simp [drawn]

/-- Two plugins, then one of them switched off. What is left comes from the other. -/
theorem performAll_draws_from_catalog_iff_switched_off :
    ∃ sorter, (create (.mapping []) {} twoPlugins verbatim none).outcome = .ok sorter ∧
      let last := sorter.performAll
        [.reconfigure (.mapping [("corePlugins", .list [.text "link"])])]
      last.index.selectors = ["link"] ∧ twoPlugins.defaultOrder = .ok last.pluginOrder ∧
        last.DrawsFrom twoPlugins := by
  let sorter : Sorter := ⟨{}, twoPlugins, verbatim, .mapping [], [.text "card", .text "link"],
    ⟨["card", "link"]⟩⟩
  let calls : List Call := [.reconfigure (.mapping [("corePlugins", .list [.text "link"])])]
  have created : (create (.mapping []) {} twoPlugins verbatim none).outcome = .ok sorter := by
    with_unfolding_all rfl
  have returned : sorter.AllReturn calls := by
    refine ⟨?_, trivial⟩
    with_unfolding_all rfl
  obtain ⟨_, unordered, drawn⟩ := performAll_draws_from_catalog_iff twoPlugins {} verbatim
    (.mapping []) none sorter calls created returned
  refine ⟨sorter, created, ?_, unordered rfl, drawn.mpr (.inl rfl)⟩
  with_unfolding_all rfl

/-- A sorter that is given a catalog without plugins knows the classes of a core plugin, and none of
them comes from that catalog. -/
theorem create_draws_from_elsewhere :
    ∃ sorter, (create (.mapping []) {} {} .builtin (some displayAlone)).outcome = .ok sorter ∧
      sorter.index = displayIndex ∧ ¬ sorter.DrawsFrom {} := by
  have evaluated :
      (create (.mapping []) {} {} .builtin (some displayAlone)).outcome.toOption.map
        (fun sorter => sorter.index) = some displayIndex := by
    decide +kernel
  obtain ⟨sorter, made, index⟩ := Option.map_eq_some_iff.mp evaluated
  refine ⟨sorter, toOption_eq_some.mp made, index, ?_⟩
  rw [drawsFrom_of_isEmpty rfl, index]
  simp [displayIndex]

end Sorter

end ClassOrder
