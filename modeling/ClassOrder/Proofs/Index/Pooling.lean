import ClassOrder.Proofs.Entries
import ClassOrder.Proofs.Index.Gathering
import ClassOrder.Proofs.Plugin.Adding
import ClassOrder.Proofs.Style.Trees

/-!
# Building in one go

The building processes each plugin alone, extracts the selectors of its styles and puts the lists
together. One may as well process all enabled plugins in one go and extract the selectors of all
that they register. With the bundled engine, and without sorting inside the groups, both give the
same index when the enabled plugins are written with the operations of the registry: plugins in
turn register what each registers alone, the walk over the trees of several plugins is the walk
over those of the first and then of the others, and a selector that was kept before is left out at
whatever stage it comes again.

In one go all plugins share one registry, and its lists are open to them. A plugin that looks
there for what is registered already may register one class in one go and another one alone.
-/
namespace ClassOrder

open Fallible

namespace StyleGroup

/-- The trees of a group. -/
def trees (styles : Styles) : StyleGroup → List StyleTree
  | component => styles.components
  | utility => styles.utilities

/-- The class names of a group are those of its trees. -/
theorem classNames_forest (group : StyleGroup) (styles : Styles) :
    (group.forest (.ofStyles styles)).classNames =
      StyleTree.classNamesOfAll (group.trees styles) := by
  cases group <;> exact StyleForest.classNames_ofTrees _

/-- Styles of several plugins have the class names of each of them in turn. -/
theorem classNames_gathered (group : StyleGroup) (all : List Styles) :
    StyleTree.classNamesOfAll (group.trees (.gathered all)) =
      all.flatMap fun styles => StyleTree.classNamesOfAll (group.trees styles) := by
  induction all with
  | nil => cases group <;> rfl
  | cons styles rest inductionHypothesis =>
    have parted : group.trees (styles.followedBy (.gathered rest)) =
        group.trees styles ++ group.trees (.gathered rest) := by
      cases group <;> rfl
    rw [Styles.gathered, parted, StyleTree.classNamesOfAll_append, inductionHypothesis,
      List.flatMap_cons]

end StyleGroup

namespace Catalog

/-- The plugin under a name, when the configuration enables it and the catalog has it. -/
def enabled? (catalog : Catalog) (config : Setting) (id : PluginId) : Option Plugin :=
  match Config.enables config id, catalog.load id with
  | .ok true, .ok plugin => some plugin
  | _, _ => none

/-- The enabled plugins of an order. -/
def enabledPlugins (catalog : Catalog) (config : Setting) (order : List PluginId) : List Plugin :=
  order.flatMap fun id => (catalog.enabled? config id).toList

/-- The enabled plugins are those under the names of the order. -/
theorem mem_enabledPlugins {catalog : Catalog} {config : Setting} {order : List PluginId}
    {plugin : Plugin} :
    plugin ∈ catalog.enabledPlugins config order ↔
      ∃ id ∈ order, catalog.enabled? config id = some plugin := by
  simp only [enabledPlugins, List.mem_flatMap, Option.mem_toList]

/-- Each enabled plugin of an order runs without an error when it is processed alone. -/
def EachRuns (catalog : Catalog) (config : Setting) (order : List PluginId) : Prop :=
  ∀ plugin ∈ catalog.enabledPlugins config order,
    ∃ styles, Engine.builtin.process [plugin] config = .ok styles

/-- It can be told whether the configuration enables a plugin, and if so, whether the catalog has
it. -/
def Decides (catalog : Catalog) (config : Setting) (id : PluginId) : Prop :=
  Config.enables config id = .ok false ∨
    Config.enables config id = .ok true ∧
      ((∃ plugin reason, catalog.load id = .error (.unresolvable plugin reason)) ∨
        ∃ plugin, catalog.load id = .ok plugin)

/-- A plugin is disabled, or it is missing, or it runs without an error. -/
def RunsThrough (catalog : Catalog) (config : Setting) (id : PluginId) : Prop :=
  Config.enables config id = .ok false ∨
    Config.enables config id = .ok true ∧
      ((∃ plugin reason, catalog.load id = .error (.unresolvable plugin reason)) ∨
        ∃ plugin styles, catalog.load id = .ok plugin ∧
          Engine.builtin.process [plugin] config = .ok styles)

/-- Where it can be told which plugins are enabled, and each of these runs, all run through. -/
theorem EachRuns.runsThrough {catalog : Catalog} {config : Setting} {order : List PluginId}
    (runs : catalog.EachRuns config order) {id : PluginId} (ordered : id ∈ order)
    (decided : catalog.Decides config id) : catalog.RunsThrough config id := by
  rcases decided with off | ⟨asked, missing | ⟨plugin, loaded⟩⟩
  · exact .inl off
  · exact .inr ⟨asked, .inl missing⟩
  · have found : catalog.enabled? config id = some plugin := by
      simp [enabled?, asked, loaded]
    obtain ⟨styles, processed⟩ := runs plugin (mem_enabledPlugins.mpr ⟨id, ordered, found⟩)
    exact .inr ⟨asked, .inr ⟨plugin, styles, loaded, processed⟩⟩

end Catalog

namespace IndexSettings

variable {config : Setting} {catalog : Catalog} {policy : GroupPolicy} {id : PluginId}
  {order : List PluginId}

/-- What the index is built with when the engine is the bundled one and the groups are not
sorted. -/
def bundled (config : Setting) (catalog : Catalog) (policy : GroupPolicy) : IndexSettings where
  config := config
  catalog := catalog
  engine := .builtin
  policy := policy

/-- A plugin that runs through is judged, and what it emits are the class names of what it adds
to the styles. -/
theorem judge_of_runsThrough (runs : catalog.RunsThrough config id) :
    (∃ verdict, (bundled config catalog policy).judge id = .ok verdict) ∧
      ∀ group, (bundled config catalog policy).emitted group id =
        ((catalog.enabled? config id).toList.flatMap fun plugin =>
          StyleTree.classNamesOfAll (group.trees (plugin.added config))).eraseDups := by
  rcases runs with off | ⟨asked, ⟨plugin, reason, missing⟩ | ⟨plugin, styles, loaded, processed⟩⟩
  · refine ⟨⟨_, judge_eq_ok.mpr (.inl ⟨off, rfl⟩)⟩, fun group => ?_⟩
    simp [emitted, bundled, Catalog.enabled?, off]
  · have failed : (bundled config catalog policy).styles id =
        .error (.unresolvable plugin reason) := by
      simp [styles, bundled, missing, bind, Except.bind]
    refine ⟨⟨_, judge_eq_ok.mpr (.inr (.inl ⟨asked, plugin, reason, failed, rfl⟩))⟩,
      fun group => ?_⟩
    simp [emitted, failed, Catalog.enabled?, missing]
  · obtain ⟨registered, alone, rfl⟩ := map_eq_ok.mp processed
    obtain ⟨_, rfl⟩ := Plugin.process_alone_eq_ok.mp alone
    have resolved : (bundled config catalog policy).styles id =
        .ok (.ofStyles (plugin.added config)) := by
      simp [styles, bundled, loaded, processed, bind, Except.bind]
    have found : catalog.enabled? config id = some plugin := by
      simp [Catalog.enabled?, asked, loaded]
    refine ⟨⟨_, judge_eq_ok.mpr (.inr (.inr ⟨asked, _, _, resolved, contributionOf_eq_ok.mpr
      ⟨StyleForest.fault?_ofTrees _, StyleForest.fault?_ofTrees _, rfl⟩, rfl⟩))⟩, fun group => ?_⟩
    have askedToo : Config.enables (bundled config catalog policy).config id = .ok true := asked
    simp only [emitted, askedToo, resolved, found, Option.toList_some, List.flatMap_singleton]
    exact congrArg List.eraseDups (group.classNames_forest _)

/-- The plugins of an order emit the class names of what the enabled ones register in one go. -/
theorem eraseDups_flatMap_emitted (runs : ∀ id ∈ order, catalog.RunsThrough config id)
    (group : StyleGroup) :
    (order.flatMap ((bundled config catalog policy).emitted group)).eraseDups =
      (StyleTree.classNamesOfAll (group.trees
        (.gathered ((catalog.enabledPlugins config order).map
          (Plugin.added config))))).eraseDups := by
  have each : ∀ id ∈ order, ((bundled config catalog policy).emitted group id).eraseDups =
      ((catalog.enabled? config id).toList.flatMap fun plugin =>
        StyleTree.classNamesOfAll (group.trees (plugin.added config))).eraseDups := by
    intro id ordered
    rw [(judge_of_runsThrough (runs id ordered)).2 group, eraseDups_eraseDups]
  rw [eraseDups_flatMap_congr order each, group.classNames_gathered, List.flatMap_map,
    Catalog.enabledPlugins, List.flatMap_assoc]

/-- The enabled plugins of an order can be processed in one go, and the selectors of all that they
register, put together group by group, are the index that is built plugin by plugin. -/
def BuildsInOneGo (config : Setting) (catalog : Catalog) (order : List PluginId) : Prop :=
  ∃ styles components utilities,
    Engine.builtin.process (catalog.enabledPlugins config order) config = .ok styles ∧
    styles.components.extract false = .ok components ∧
    styles.utilities.extract false = .ok utilities ∧
    ((bundled config catalog .componentsFirst).build order).outcome =
      .ok (.ofList (components ++ utilities)) ∧
    ((bundled config catalog .componentsLast).build order).outcome =
      .ok (.ofList (utilities ++ components))

/-- Building plugin by plugin gives the index of what all enabled plugins register in one go, when
each of these runs alone and is written with the operations of the registry. What the plugins add
in turn is what they add alone, one behind the other, so the class names of a group are those of
each plugin in turn. The building keeps the first occurrences plugin by plugin and then once more
over all of them, which comes to the same as keeping them once at the end. -/
theorem build_in_one_go (config : Setting) (catalog : Catalog) (order : List PluginId)
    (decided : ∀ id ∈ order, catalog.Decides config id) (runs : catalog.EachRuns config order)
    (written : ∀ plugin ∈ catalog.enabledPlugins config order,
      Registering.Written (plugin.run config)) :
    BuildsInOneGo config catalog order := by
  let registered : Styles :=
    .gathered ((catalog.enabledPlugins config order).map (Plugin.added config))
  have runsThrough : ∀ id ∈ order, catalog.RunsThrough config id :=
    fun id ordered => runs.runsThrough ordered (decided id ordered)
  have inOneGo : Plugin.process (catalog.enabledPlugins config order) config = .ok registered := by
    apply Plugin.process_eq_gathered
    · exact fun plugin enabled => (written plugin enabled).adds
    · intro plugin enabled
      obtain ⟨styles, processed⟩ := runs plugin enabled
      obtain ⟨_, alone, _⟩ := map_eq_ok.mp processed
      exact (Plugin.process_alone_eq_ok.mp alone).1
  have extracts (group : StyleGroup) : (group.forest (.ofStyles registered)).extract false =
      .ok (StyleTree.classNamesOfAll (group.trees registered)).eraseDups := by
    refine StyleForest.extract_eq_ok.mpr ⟨?_, ?_⟩
    · cases group <;> exact StyleForest.fault?_ofTrees _
    · exact congrArg List.eraseDups (group.classNames_forest registered).symm
  -- What is kept of a group was kept plugin by plugin or is kept only now.
  have grouped (policy : GroupPolicy) (group : StyleGroup) :
      (order.flatMap ((bundled config catalog policy).emitted group)).eraseDups =
        (StyleTree.classNamesOfAll (group.trees registered)).eraseDups.eraseDups := by
    rw [eraseDups_flatMap_emitted runsThrough group, eraseDups_eraseDups]
  have judged (policy : GroupPolicy) : ∀ id ∈ order, ∃ verdict,
      (bundled config catalog policy).judge id = .ok verdict :=
    fun id ordered => (judge_of_runsThrough (runsThrough id ordered)).1
  refine ⟨.ofStyles registered, _, _, ?_, extracts .component, extracts .utility, ?_, ?_⟩
  · exact map_eq_ok.mpr ⟨registered, inOneGo, rfl⟩
  · exact build_eq_ok.mpr ⟨judged _,
      (eraseDups_append_congr (grouped _ .component) (grouped _ .utility)).symm⟩
  · exact build_eq_ok.mpr ⟨judged _,
      (eraseDups_append_congr (grouped _ .utility) (grouped _ .component)).symm⟩

/-- What is extracted of plugins that are processed in one go is what an evaluation says. -/
theorem extracted_of_evaluated {plugins : List Plugin} {styles : StyleForests}
    {components utilities known knownToo : List String}
    (processed : Engine.builtin.process plugins config = .ok styles)
    (extracted : styles.components.extract false = .ok components)
    (extractedToo : styles.utilities.extract false = .ok utilities)
    (evaluated : (Engine.builtin.process plugins config).map (fun styles =>
      (styles.components.extract false, styles.utilities.extract false)) =
        .ok (.ok known, .ok knownToo)) :
    components = known ∧ utilities = knownToo := by
  rw [processed] at evaluated
  simpa only [Except.map, extracted, extractedToo, Except.ok.injEq, Prod.mk.injEq] using evaluated

/-- A plugin that registers two classes, one in each group, and then the other way round. -/
def bothWays (name first second : String) : PluginId × Plugin :=
  (.text name, .program name fun config => do
    Registering.addComponents config (.mapping [("." ++ first, .mapping [])])
    Registering.addUtilities config (.mapping [("." ++ second, .mapping [])]) .null
    Registering.addUtilities config (.mapping [("." ++ first, .mapping [])])
      (.list [.text "hover"])
    Registering.addComponents config (.mapping [("." ++ second, .mapping [])]))

/-- Plugins whose classes overlap, in front of the core plugins. -/
def crossedPlugins : Catalog where
  plugins := .ofPairs ([bothWays "card" "card" "link", bothWays "link" "link" "flex",
      bothWays "off" "off" "link"] ++
    Plugin.core.map fun (name, plugin) => (.text name, plugin))

/-- One plugin is switched off, one is missing, and one is named twice. A core plugin registers a
class once more. -/
theorem build_in_one_go_crossed :
    let config : Setting := .mapping [("corePlugins", .mapping [("off", .flag false)])]
    let order : List PluginId := [.text "off", .text "link", .text "gone", .text "display",
      .text "card", .text "link"]
    let components := ["link", "flex", "card"]
    let utilities := ["flex", "link", "block", "inline-block", "inline", "inline-flex", "grid",
      "hidden", "card"]
    ∃ styles,
      Engine.builtin.process (crossedPlugins.enabledPlugins config order) config = .ok styles ∧
      styles.components.extract false = .ok components ∧
      styles.utilities.extract false = .ok utilities ∧
      ((bundled config crossedPlugins .componentsFirst).build order).outcome =
        .ok (.ofList (components ++ utilities)) ∧
      ((bundled config crossedPlugins .componentsLast).build order).outcome =
        .ok (.ofList (utilities ++ components)) := by
  intro config order components utilities
  have registers (name first second : String) :
      Registering.Written ((bothWays name first second).2.run config) :=
    .next (.components _ _) fun _ => .next (.utilities _ _ _) fun _ =>
      .next (.utilities _ _ _) fun _ => .components _ _
  have displays (name property : String) (classes : List (String × String)) :
      Registering.Written ((Plugin.program name (Plugin.fixedClasses name property classes)).run
        config) :=
    (Plugin.registersLast_registerUtilities _ _ _).written
  -- The plugins under the names of the order, in one pass for all that is asked of them.
  have each : ∀ id ∈ order, crossedPlugins.Decides config id ∧
      ∀ plugin, crossedPlugins.enabled? config id = some plugin →
        Registering.Written (plugin.run config) ∧ ((plugin.run config).run {}).1 = .ok () := by
    have loaded (id : PluginId) {plugin : Plugin} (found : crossedPlugins.load id = .ok plugin)
        (asked : Config.enables config id = .ok true)
        (written : Registering.Written (plugin.run config))
        (returns : ((plugin.run config).run {}).1 = .ok ()) :
        crossedPlugins.Decides config id ∧
          ∀ plugin, crossedPlugins.enabled? config id = some plugin →
            Registering.Written (plugin.run config) ∧
              ((plugin.run config).run {}).1 = .ok () := by
      refine ⟨.inr ⟨asked, .inr ⟨plugin, found⟩⟩, ?_⟩
      intro other enabled
      simp only [Catalog.enabled?, asked, found, Option.some.injEq] at enabled
      exact enabled ▸ ⟨written, returns⟩
    have link := loaded (.text "link") rfl rfl (registers _ _ _) (by with_unfolding_all rfl)
    simp only [order, List.forall_mem_cons]
    refine ⟨⟨.inl rfl, by rintro _ ⟨⟩⟩, link, ⟨.inr ⟨rfl, .inl ⟨_, _, rfl⟩⟩, by rintro _ ⟨⟩⟩,
      loaded (.text "display") rfl rfl (displays _ _ _) (by with_unfolding_all rfl),
      loaded (.text "card") rfl rfl (registers _ _ _) (by with_unfolding_all rfl), link, by simp⟩
  have named {plugin : Plugin} (enabled : plugin ∈ crossedPlugins.enabledPlugins config order) :
      Registering.Written (plugin.run config) ∧ ((plugin.run config).run {}).1 = .ok () := by
    obtain ⟨id, ordered, found⟩ := Catalog.mem_enabledPlugins.mp enabled
    exact (each id ordered).2 plugin found
  have runs : crossedPlugins.EachRuns config order := fun plugin enabled =>
    ⟨_, map_eq_ok.mpr ⟨_, Plugin.process_alone_eq_ok.mpr ⟨(named enabled).2, rfl⟩, rfl⟩⟩
  obtain ⟨styles, firstGroup, secondGroup, processed, extracted, extractedToo, first, last⟩ :=
    build_in_one_go config crossedPlugins order (fun id ordered => (each id ordered).1) runs
      fun plugin enabled => (named enabled).1
  have evaluated : (Engine.builtin.process (crossedPlugins.enabledPlugins config order) config).map
      (fun styles => (styles.components.extract false, styles.utilities.extract false)) =
        .ok (.ok components, .ok utilities) := by
    with_unfolding_all rfl
  obtain ⟨rfl, rfl⟩ := extracted_of_evaluated processed extracted extractedToo evaluated
  exact ⟨styles, processed, extracted, extractedToo, first, last⟩

/-- A plugin that registers a class, and behind it one that looks whether it is the first to
register components. -/
def lookingBack : Catalog where
  plugins := .ofPairs [
    (.text "card", .program "card" fun config =>
      Registering.addComponents config (.mapping [(".card", .mapping [])])),
    (.text "peek", .program "peek" fun config => do
      if (← get).components.isEmpty then
        Registering.addComponents config (.mapping [(".first", .mapping [])])
      else
        Registering.addComponents config (.mapping [(".later", .mapping [])]))]

/-- That each enabled plugin runs is not enough. The plugin that looks back registers one class
alone and another one behind the card. And where the setting that enables plugins is a number,
no plugin is enabled, so that nothing is registered in one go, but the building fails. -/
theorem build_not_in_one_go :
    let order : List PluginId := [.text "card", .text "peek"]
    let numbered : Setting := .mapping [("corePlugins", .integer 5)]
    (lookingBack.EachRuns (.mapping []) order ∧
        ¬ BuildsInOneGo (.mapping []) lookingBack order) ∧
      (Catalog.builtin.EachRuns numbered [.text "display"] ∧
        ¬ BuildsInOneGo numbered .builtin [.text "display"]) := by
  intro order numbered
  refine ⟨⟨?_, ?_⟩, ?_, ?_⟩
  · intro plugin member
    obtain ⟨id, ordered, found⟩ := Catalog.mem_enabledPlugins.mp member
    simp only [order, List.mem_cons, List.not_mem_nil, or_false] at ordered
    rcases ordered with rfl | rfl
    · cases found
      exact ⟨_, by with_unfolding_all rfl⟩
    · cases found
      exact ⟨_, by with_unfolding_all rfl⟩
  · rintro ⟨styles, components, utilities, processed, extracted, extractedToo, first, -⟩
    have evaluated : (Engine.builtin.process (lookingBack.enabledPlugins (.mapping []) order)
        (.mapping [])).map (fun styles => (styles.components.extract false,
          styles.utilities.extract false)) = .ok (.ok ["card", "later"], .ok []) := by
      with_unfolding_all rfl
    have built : ((bundled (.mapping []) lookingBack .componentsFirst).build order).outcome =
        .ok ⟨["card", "first"]⟩ := by
      with_unfolding_all rfl
    obtain ⟨rfl, rfl⟩ := extracted_of_evaluated processed extracted extractedToo evaluated
    have same : SelectorIndex.ofList (["card", "later"] ++ []) = ⟨["card", "first"]⟩ :=
      Except.ok.inj (first.symm.trans built)
    exact absurd same (by decide)
  · intro plugin member
    obtain ⟨id, ordered, found⟩ := Catalog.mem_enabledPlugins.mp member
    cases List.mem_singleton.mp ordered
    cases found
  · rintro ⟨styles, components, utilities, -, -, -, first, -⟩
    cases first

end IndexSettings

end ClassOrder
