import ClassOrder.Proofs.Plugin.Order
import ClassOrder.Sorter

/-!
# What a run of changes leaves behind

A sorter is changed by calls, each of which replaces the plugin order or the
configuration and then rebuilds the index. A call may fail, and later calls start from
what it left. Whatever came before, a call that returns leaves an index built from the
current order and configuration. When every call returned, nothing of the history is
left: the sorter is the one that is made from the last configuration and the last order.
-/
namespace ClassOrder.Sorter

open Fallible PluginId

/-- A call that changes a sorter. -/
inductive Call where
  | setPluginOrder (order : PluginOrder)
  | reconfigure (config : Setting)

/-- What a call leaves behind. -/
def perform (sorter : Sorter) : Call → Change
  | .setPluginOrder order => sorter.setPluginOrder order
  | .reconfigure config => sorter.reconfigure config

/-- The sorter after calls in turn, some of which may have failed. -/
def performAll (sorter : Sorter) : List Call → Sorter
  | [] => sorter
  | call :: rest => performAll (sorter.perform call).sorter rest

/-- Every one of the calls returns. -/
def AllReturn (sorter : Sorter) : List Call → Prop
  | [] => True
  | call :: rest => (sorter.perform call).outcome = .ok () ∧
      AllReturn (sorter.perform call).sorter rest

/-- The configuration that was given last, after the one to begin with. -/
def lastConfig (config : Setting) : List Call → Setting
  | [] => config
  | .setPluginOrder _ :: rest => lastConfig config rest
  | .reconfigure replaced :: rest => lastConfig replaced rest

/-- The plugin order that was given last, after the one to begin with, if any. -/
def lastOrder (order : Option PluginOrder) : List Call → Option PluginOrder
  | [] => order
  | .setPluginOrder replaced :: rest => lastOrder (some replaced) rest
  | .reconfigure _ :: rest => lastOrder order rest

variable {sorter : Sorter} {call : Call} {options : SorterOptions} {catalog : Catalog}
  {engine : Engine} {config : Setting} {order : Option PluginOrder}

/-! ## One call -/

/-- The outcome of building the index of a sorter from its order and configuration. -/
def rebuilt (sorter : Sorter) : Except Fault (SelectorIndex String) :=
  ((indexSettings sorter.options sorter.catalog sorter.engine sorter.config).build
    sorter.pluginOrder).outcome

/-- Rebuilding replaces the index by one that is built from the current order and
configuration, or it fails and replaces nothing. -/
theorem rebuild_cases (sorter : Sorter) :
    (∃ index, sorter.rebuilt = .ok index ∧ sorter.rebuild.outcome = .ok () ∧
      sorter.rebuild.sorter = { sorter with index }) ∨
    (∃ fault, sorter.rebuilt = .error fault ∧ sorter.rebuild.outcome = .error fault ∧
      sorter.rebuild.sorter = sorter) := by
  cases built : sorter.rebuilt with
  | ok index =>
    left
    change (buildIndex _ _).outcome = _ at built
    exact ⟨index, rfl, by simp only [rebuild, built], by simp only [rebuild, built]⟩
  | error fault =>
    right
    change (buildIndex _ _).outcome = _ at built
    exact ⟨fault, rfl, by simp only [rebuild, built], by simp only [rebuild, built]⟩

/-- Rebuilding leaves all but the index as it was. -/
theorem rebuild_fixed (sorter : Sorter) :
    ∃ index, sorter.rebuild.sorter = { sorter with index } := by
  rcases rebuild_cases sorter with ⟨index, _, _, left⟩ | ⟨fault, _, _, left⟩
  · exact ⟨index, left⟩
  · exact ⟨sorter.index, left⟩

/-- When rebuilding returns, the index is the one that is built from the sorter. -/
theorem rebuild_current (returned : sorter.rebuild.outcome = .ok ()) :
    sorter.rebuild.sorter.rebuilt = .ok sorter.rebuild.sorter.index := by
  rcases rebuild_cases sorter with ⟨index, built, _, left⟩ | ⟨fault, _, failed, _⟩
  · rw [left]
    exact built
  · rw [failed] at returned
    cases returned

/-- A call takes its argument in and rebuilds, or it fails on the argument and replaces
nothing. An order that is a function is taken in by what it makes of the default order,
never of the current one. -/
theorem perform_cases (sorter : Sorter) (call : Call) :
    (∃ fault, (sorter.perform call).outcome = .error fault ∧
      (sorter.perform call).sorter = sorter) ∨
    (∃ order ids, call = .setPluginOrder order ∧
      order.resolve sorter.catalog.defaultOrder = .ok ids ∧
      sorter.perform call = { sorter with pluginOrder := ids }.rebuild) ∨
    (∃ config resolved, call = .reconfigure config ∧
      resolveOver sorter.engine config = .ok resolved ∧
      sorter.perform call = { sorter with config := resolved }.rebuild) := by
  cases call with
  | setPluginOrder order =>
    cases taken : order.resolve sorter.catalog.defaultOrder with
    | error fault =>
      left
      exact ⟨fault, by simp only [perform, setPluginOrder, taken],
        by simp only [perform, setPluginOrder, taken]⟩
    | ok ids =>
      right; left
      exact ⟨order, ids, rfl, taken, by simp only [perform, setPluginOrder, taken]⟩
  | reconfigure config =>
    cases taken : resolveOver sorter.engine config with
    | error fault =>
      left
      exact ⟨fault, by simp only [perform, reconfigure, taken],
        by simp only [perform, reconfigure, taken]⟩
    | ok resolved =>
      right; right
      exact ⟨config, resolved, rfl, taken, by simp only [perform, reconfigure, taken]⟩

/-- A call leaves the options, the catalog and the engine as they were. -/
theorem perform_fixed (sorter : Sorter) (call : Call) :
    (sorter.perform call).sorter.options = sorter.options ∧
      (sorter.perform call).sorter.catalog = sorter.catalog ∧
      (sorter.perform call).sorter.engine = sorter.engine := by
  rcases perform_cases sorter call with
    ⟨fault, _, left⟩ | ⟨order, ids, _, _, step⟩ | ⟨config, resolved, _, _, step⟩
  · rw [left]
    exact ⟨rfl, rfl, rfl⟩
  · obtain ⟨index, left⟩ := rebuild_fixed { sorter with pluginOrder := ids }
    rw [step, left]
    exact ⟨rfl, rfl, rfl⟩
  · obtain ⟨index, left⟩ := rebuild_fixed { sorter with config := resolved }
    rw [step, left]
    exact ⟨rfl, rfl, rfl⟩

/-- A call keeps the plugin order free of repetitions, also when it fails. -/
theorem perform_unrepeated (call : Call) (unrepeated : Unrepeated sorter.pluginOrder) :
    Unrepeated (sorter.perform call).sorter.pluginOrder := by
  rcases perform_cases sorter call with
    ⟨fault, _, left⟩ | ⟨order, ids, _, taken, step⟩ | ⟨config, resolved, _, _, step⟩
  · rw [left]
    exact unrepeated
  · obtain ⟨index, left⟩ := rebuild_fixed { sorter with pluginOrder := ids }
    rw [step, left]
    exact PluginOrder.resolve_unrepeated taken
  · obtain ⟨index, left⟩ := rebuild_fixed { sorter with config := resolved }
    rw [step, left]
    exact unrepeated

/-- After a call that returns, the index is the one that is built from the sorter. -/
theorem perform_current (returned : (sorter.perform call).outcome = .ok ()) :
    (sorter.perform call).sorter.rebuilt = .ok (sorter.perform call).sorter.index := by
  rcases perform_cases sorter call with
    ⟨fault, failed, _⟩ | ⟨order, ids, _, _, step⟩ | ⟨config, resolved, _, _, step⟩
  · rw [failed] at returned
    cases returned
  · rw [step] at returned ⊢
    exact rebuild_current returned
  · rw [step] at returned ⊢
    exact rebuild_current returned

/-- An order that is a function, taken in by a call that returns, is what the function
makes of the default order. -/
theorem derived_from_default {arrange : List PluginId → Except Fault Plain}
    (returned : (sorter.perform (.setPluginOrder (.derived arrange))).outcome = .ok ()) :
    ∃ defaultOrder arranged, sorter.catalog.defaultOrder = .ok defaultOrder ∧
      arrange defaultOrder = .ok arranged ∧ PluginOrder.idsOf arranged =
        .ok (sorter.perform (.setPluginOrder (.derived arrange))).sorter.pluginOrder := by
  rcases perform_cases sorter (.setPluginOrder (.derived arrange)) with
    ⟨fault, failed, _⟩ | ⟨order, ids, same, taken, step⟩ | ⟨config, resolved, other, _⟩
  · rw [failed] at returned
    cases returned
  · cases same
    obtain ⟨defaultOrder, found, taken⟩ := bind_eq_ok.mp taken
    obtain ⟨arranged, made, listed⟩ := bind_eq_ok.mp taken
    obtain ⟨index, left⟩ := rebuild_fixed { sorter with pluginOrder := ids }
    rw [step, left]
    exact ⟨defaultOrder, arranged, found, made, listed⟩
  · cases other

/-! ## A new sorter -/

/-- A sorter is made when the configuration resolves, the default order and with it the
plugin order exist, and the index can be built. -/
theorem create_eq_ok (nonempty : catalog.isEmpty = false) :
    (create config options catalog engine order).outcome = .ok sorter ↔
      sorter.options = options ∧ sorter.catalog = catalog ∧ sorter.engine = engine ∧
        resolveOver engine config = .ok sorter.config ∧
        initialOrder catalog order = .ok sorter.pluginOrder ∧
        sorter.rebuilt = .ok sorter.index := by
  simp only [create, nonempty, Bool.false_eq_true, if_false]
  cases resolves : resolveOver engine config with
  | error fault => simp [bind, Except.bind]
  | ok resolved =>
    cases ordered : initialOrder catalog order with
    | error fault => simp [bind, Except.bind]
    | ok ids =>
      simp only [bind, Except.bind, pure, Except.pure, map_eq_ok]
      constructor
      · rintro ⟨index, built, rfl⟩
        exact ⟨rfl, rfl, rfl, rfl, rfl, built⟩
      · rintro ⟨rfl, rfl, rfl, sameConfig, sameOrder, built⟩
        cases sameConfig
        cases sameOrder
        exact ⟨sorter.index, built, rfl⟩

/-- A made sorter has a default order to choose from. -/
theorem initialOrder_eq_ok {ids : List PluginId} (ordered : initialOrder catalog order = .ok ids) :
    ∃ defaultOrder, catalog.defaultOrder = .ok defaultOrder ∧
      match order with
      | none => ids = defaultOrder
      | some order => order.resolve (.ok defaultOrder) = .ok ids := by
  obtain ⟨defaultOrder, found, chosen⟩ := bind_eq_ok.mp ordered
  refine ⟨defaultOrder, found, ?_⟩
  cases order with
  | none =>
    cases chosen
    rfl
  | some order => exact chosen

/-- The plugin order of a new sorter repeats nothing. -/
theorem create_unrepeated {ids : List PluginId}
    (ordered : initialOrder catalog order = .ok ids) : Unrepeated ids := by
  obtain ⟨defaultOrder, found, chosen⟩ := initialOrder_eq_ok ordered
  cases order with
  | none =>
    cases chosen
    exact Catalog.defaultOrder_unrepeated found
  | some order => exact PluginOrder.resolve_unrepeated chosen

/-- A call that returns leaves the sorter that is made from what was given last. -/
theorem perform_created (nonempty : catalog.isEmpty = false)
    (created : (create config options catalog engine order).outcome = .ok sorter)
    (returned : (sorter.perform call).outcome = .ok ()) :
    (create (lastConfig config [call]) options catalog engine (lastOrder order [call])).outcome =
      .ok (sorter.perform call).sorter := by
  have current := perform_current returned
  rw [create_eq_ok nonempty] at created ⊢
  obtain ⟨rfl, rfl, rfl, resolves, ordered, _⟩ := created
  rcases perform_cases sorter call with
    ⟨fault, failed, _⟩ | ⟨order, ids, rfl, taken, step⟩ | ⟨config, resolved, rfl, taken, step⟩
  · rw [failed] at returned
    cases returned
  · obtain ⟨index, left⟩ := rebuild_fixed { sorter with pluginOrder := ids }
    rw [step, left] at current ⊢
    obtain ⟨defaultOrder, found, _⟩ := initialOrder_eq_ok ordered
    have chosen : initialOrder sorter.catalog (some order) = .ok ids := by
      rw [found] at taken
      exact bind_eq_ok.mpr ⟨defaultOrder, found, taken⟩
    exact ⟨rfl, rfl, rfl, resolves, chosen, current⟩
  · obtain ⟨index, left⟩ := rebuild_fixed { sorter with config := resolved }
    rw [step, left] at current ⊢
    exact ⟨rfl, rfl, rfl, taken, ordered, current⟩

/-! ## Runs of calls -/

/-- A run leaves the options, the catalog and the engine as they were. -/
theorem performAll_fixed (sorter : Sorter) (calls : List Call) :
    (sorter.performAll calls).options = sorter.options ∧
      (sorter.performAll calls).catalog = sorter.catalog ∧
      (sorter.performAll calls).engine = sorter.engine := by
  induction calls generalizing sorter with
  | nil => exact ⟨rfl, rfl, rfl⟩
  | cons call rest inductionHypothesis =>
    obtain ⟨options, catalog, engine⟩ := perform_fixed sorter call
    obtain ⟨sameOptions, sameCatalog, sameEngine⟩ :=
      inductionHypothesis (sorter.perform call).sorter
    exact ⟨sameOptions.trans options, sameCatalog.trans catalog, sameEngine.trans engine⟩

/-- A run keeps the plugin order free of repetitions, whether its calls return or fail. -/
theorem performAll_unrepeated (calls : List Call) (unrepeated : Unrepeated sorter.pluginOrder) :
    Unrepeated (sorter.performAll calls).pluginOrder := by
  induction calls generalizing sorter with
  | nil => exact unrepeated
  | cons call rest inductionHypothesis =>
    exact inductionHypothesis (perform_unrepeated call unrepeated)

/-- A run all of whose calls return leaves the sorter that is made from what was given
last. -/
theorem performAll_created (nonempty : catalog.isEmpty = false) (calls : List Call)
    (created : (create config options catalog engine order).outcome = .ok sorter)
    (returned : sorter.AllReturn calls) :
    (create (lastConfig config calls) options catalog engine (lastOrder order calls)).outcome =
      .ok (sorter.performAll calls) := by
  induction calls generalizing config order sorter with
  | nil => exact created
  | cons call rest inductionHypothesis =>
    have stepped := perform_created nonempty created returned.1
    cases call with
    | setPluginOrder order => exact inductionHypothesis stepped returned.2
    | reconfigure config => exact inductionHypothesis stepped returned.2

/-- The catalog that a sorter was asked to use: the core one when none is given. -/
def catalogOf (given : Option Catalog) : Catalog :=
  given.getD .builtin

/-- The catalog that is used has plugins. -/
theorem catalogOf_nonempty {given : Option Catalog}
    (nonempty : ∀ catalog, given = some catalog → catalog.isEmpty = false) :
    (catalogOf given).isEmpty = false := by
  cases given with
  | none => rfl
  | some catalog => exact nonempty catalog rfl

/-- Every call of a run that returns leaves an order without repetitions and the index that is
built from it and the configuration; an order that is a function is what it makes of the default
order. When all calls of a run return, they leave the very sorter that is made from the
configuration and the order that were given last, so it answers every question alike.

Proof: a call that returns ends in a rebuild, so the index is that of what is in force after it.
That the order is free of repetitions, and that what is in force is what was given last, goes
through the calls by induction. -/
theorem performAll_only_last_inputs (given : Option Catalog) (options : SorterOptions)
    (engine : Engine) (config : Setting) (order : Option PluginOrder) (sorter : Sorter)
    (usable : ∀ catalog, given = some catalog → catalog.isEmpty = false)
    (created : (create config options (catalogOf given) engine order).outcome = .ok sorter)
    (calls : List Call) :
    (∀ call, ((sorter.performAll calls).perform call).outcome = .ok () →
      ∃ changed, ((sorter.performAll calls).perform call).sorter = changed ∧
        Unrepeated changed.pluginOrder ∧
        ((indexSettings options (catalogOf given) engine changed.config).build
          changed.pluginOrder).outcome = .ok changed.index ∧
        ∀ arrange, call = .setPluginOrder (.derived arrange) →
          ∃ defaultOrder arranged, (catalogOf given).defaultOrder = .ok defaultOrder ∧
            arrange defaultOrder = .ok arranged ∧
            PluginOrder.idsOf arranged = .ok changed.pluginOrder) ∧
      (sorter.AllReturn calls →
        (create (lastConfig config calls) options (catalogOf given) engine
          (lastOrder order calls)).outcome = .ok (sorter.performAll calls)) := by
  have nonempty : (catalogOf given).isEmpty = false := catalogOf_nonempty usable
  refine ⟨?_, performAll_created nonempty calls created⟩
  intro call returned
  obtain ⟨rfl, sameCatalog, rfl, _, ordered, _⟩ := (create_eq_ok nonempty).mp created
  obtain ⟨runOptions, runCatalog, runEngine⟩ := performAll_fixed sorter calls
  obtain ⟨options, catalog, engine⟩ := perform_fixed (sorter.performAll calls) call
  refine ⟨_, rfl, ?_, ?_, ?_⟩
  · exact perform_unrepeated call (performAll_unrepeated calls (create_unrepeated ordered))
  · have current := perform_current returned
    rw [rebuilt, options, catalog, engine, runOptions, runCatalog, runEngine,
      sameCatalog] at current
    exact current
  · rintro arrange rfl
    rw [← sameCatalog, ← runCatalog]
    exact derived_from_default returned

/-- Two plugins of one class each, registered against their ascending order. -/
def twoPlugins : Catalog where
  plugins := .ofPairs [
    (.text "link", .program "link" fun config =>
      Registering.addUtilities config (.mapping [(".link", .mapping [])]) .null),
    (.text "card", .program "card" fun config =>
      Registering.addComponents config (.mapping [(".card", .mapping [])]))]

/-- An engine that takes a configuration as it is given. -/
def verbatim : Engine where
  defaults := .mapping []
  resolve configs := .ok (configs.headD .null)
  process := Engine.builtin.process

/-- A function that turns the default order round, and then a configuration that switches
a plugin off: the run leaves the sorter that is made from these two. -/
theorem performAll_only_last_inputs_turned_round :
    twoPlugins.isEmpty = false ∧
      (create (.mapping [("corePlugins", .mapping [("link", .flag false)])]) {} twoPlugins verbatim
        (some (.derived fun order => .ok (.list order.reverse)))).outcome =
          .ok ⟨{}, twoPlugins, verbatim,
            .mapping [("corePlugins", .mapping [("link", .flag false)])],
            [.text "link", .text "card"], ⟨["card"]⟩⟩ := by
  let sorter : Sorter := ⟨{}, twoPlugins, verbatim, .mapping [], [.text "card", .text "link"],
    ⟨["card", "link"]⟩⟩
  let calls : List Call := [.setPluginOrder (.derived fun order => .ok (.list order.reverse)),
    .reconfigure (.mapping [("corePlugins", .mapping [("link", .flag false)])])]
  have created : (create (.mapping []) {} twoPlugins verbatim none).outcome = .ok sorter := by
    with_unfolding_all rfl
  have returned : sorter.AllReturn calls := by
    refine ⟨?_, ?_, trivial⟩ <;> with_unfolding_all rfl
  have usable : ∀ catalog, some twoPlugins = some catalog → catalog.isEmpty = false := by
    rintro _ ⟨⟩
    rfl
  have made := (performAll_only_last_inputs (some twoPlugins) {} verbatim (.mapping []) none sorter
    usable created calls).2 returned
  have left : sorter.performAll calls = ⟨{}, twoPlugins, verbatim,
      .mapping [("corePlugins", .mapping [("link", .flag false)])],
      [.text "link", .text "card"], ⟨["card"]⟩⟩ := by
    with_unfolding_all rfl
  rw [left] at made
  exact ⟨rfl, made⟩

end ClassOrder.Sorter
