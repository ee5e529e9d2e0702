import ClassOrder.Index.Build
import ClassOrder.Proofs.Plugin.Prefix

/-!
# The index under a prefix

The index is built from the selectors that the core plugins emit. A prefix goes before each
of them and changes nothing about which plugins are enabled, which cannot be resolved, and
whether the building ends early. It keeps selectors apart and in order, so sorting, grouping
and leaving out repetitions come to the same list with the prefix on its members.
-/
namespace ClassOrder

open Fallible

/-- A contribution with the prefix on its selectors. -/
def Contribution.prefixed (classPrefix : String) (contribution : Contribution) : Contribution where
  components := contribution.components.map (classPrefix ++ ·)
  utilities := contribution.utilities.map (classPrefix ++ ·)

/-- A verdict with the prefix on the selectors that are contributed. -/
def Verdict.prefixed (classPrefix : String) : Verdict → Verdict
  | contributed contribution => contributed (contribution.prefixed classPrefix)
  | other => other

/-- An index with the prefix on its selectors. -/
def SelectorIndex.prefixed (classPrefix : String) (index : SelectorIndex String) :
    SelectorIndex String :=
  ⟨index.selectors.map (classPrefix ++ ·)⟩

/-- A plugin of the bundled catalog is one of the core plugins. -/
theorem Catalog.load_builtin {id : PluginId} {plugin : Plugin}
    (loaded : builtin.load id = .ok plugin) :
    ∃ entry ∈ Plugin.corePrograms, plugin = .program entry.1 entry.2 := by
  obtain ⟨key, _, chosen⟩ := bind_eq_ok.mp loaded
  split at chosen
  · rename_i found
    cases chosen
    obtain ⟨known, member⟩ := Entries.exists_mem_of_get? found
    obtain ⟨⟨name, listed⟩, inCore, same⟩ := List.mem_map.mp member
    cases same
    obtain ⟨entry, core, same⟩ := List.mem_map.mp inCore
    cases same
    exact ⟨entry, core, rfl⟩
  · cases chosen

namespace IndexSettings

/-- What an index of the core plugins is built with. -/
def core (config : Setting) (policy : GroupPolicy) (sorted : Bool) : IndexSettings where
  config := config
  catalog := .builtin
  engine := .builtin
  policy := policy
  sorted := sorted

variable {classPrefix : String} {plain marked : Setting} {policy : GroupPolicy} {sorted : Bool}

/-- The same plugins are enabled. -/
theorem enables_eq (differ : Config.DifferByPrefix classPrefix plain marked) (id : PluginId) :
    Config.enables marked id = Config.enables plain id := by
  rw [Config.enables, Config.enables, differ.alike "corePlugins" (by decide)]

/-- The styles of a plugin that is found are those that it registers. -/
theorem styles_core {id : PluginId} {plugin : Plugin}
    (loaded : Catalog.builtin.load id = .ok plugin) (config : Setting) :
    (core config policy sorted).styles id =
      (Plugin.process [plugin] config).map StyleForests.ofStyles := by
  unfold IndexSettings.styles core
  rw [loaded]
  rfl

/-- A plugin fails alike with and without the prefix, or its styles differ by the prefix. -/
theorem styles_cases (differ : Config.DifferByPrefix classPrefix plain marked)
    (policy : GroupPolicy) (sorted : Bool) (id : PluginId) :
    (∃ fault, (core plain policy sorted).styles id = .error fault ∧
      (core marked policy sorted).styles id = .error fault) ∨
    (∃ styles : Styles, styles.NamesClasses ∧
      (core plain policy sorted).styles id = .ok (.ofStyles styles) ∧
      (core marked policy sorted).styles id = .ok (.ofStyles (styles.renamed classPrefix))) := by
  cases loaded : Catalog.builtin.load id with
  | error fault =>
    have failed (config : Setting) : (core config policy sorted).styles id = .error fault := by
      unfold IndexSettings.styles core
      rw [loaded]
      rfl
    exact .inl ⟨fault, failed plain, failed marked⟩
  | ok plugin =>
    obtain ⟨entry, listed, rfl⟩ := Catalog.load_builtin loaded
    have mirrored : ∀ plugin ∈ [Plugin.program entry.1 entry.2],
        Registering.Mirrors classPrefix (plugin.run plain) (plugin.run marked) :=
      List.forall_mem_singleton.mpr (Plugin.mirrors_core differ entry listed)
    obtain ⟨same, named⟩ := Plugin.process_of_mirrors (Plugin.mirrors_runAll mirrored)
    rw [styles_core loaded, styles_core loaded, same]
    cases registered : Plugin.process [.program entry.1 entry.2] plain with
    | error fault => exact .inl ⟨fault, rfl, rfl⟩
    | ok styles => exact .inr ⟨styles, named styles registered, rfl, rfl⟩

/-- The walk over registered styles meets no fault, so their selectors are contributed. -/
theorem contributionOf_ofStyles (settings : IndexSettings) (styles : Styles) :
    settings.contributionOf (.ofStyles styles) = .ok
      ⟨(StyleForest.ofTrees styles.components).selectors settings.sorted,
        (StyleForest.ofTrees styles.utilities).selectors settings.sorted⟩ := by
  have extracted (trees : List StyleTree) :
      (StyleForest.ofTrees trees).extract settings.sorted =
        .ok ((StyleForest.ofTrees trees).selectors settings.sorted) := by
    rw [StyleForest.extract, StyleForest.fault?_ofTrees]
  rw [contributionOf, StyleForests.ofStyles, extracted, extracted]
  rfl

/-- With a prefix, what becomes of a plugin is the same, with the prefix on what it
contributes. -/
theorem judge_prefixed (usable : IsClassPrefix classPrefix)
    (differ : Config.DifferByPrefix classPrefix plain marked) (id : PluginId) :
    (core marked policy sorted).judge id =
      ((core plain policy sorted).judge id).map (Verdict.prefixed classPrefix) := by
  have enables : Config.enables (core marked policy sorted).config id =
      Config.enables (core plain policy sorted).config id := enables_eq differ id
  unfold judge
  rw [enables]
  cases Config.enables (core plain policy sorted).config id with
  | error fault => rfl
  | ok enabled =>
    cases enabled with
    | false => rfl
    | true =>
      rcases styles_cases differ policy sorted id with
        ⟨fault, failed, failedToo⟩ | ⟨styles, named, made, madeToo⟩
      · simp only [failed, failedToo]
        cases fault <;> rfl
      · simp only [made, madeToo, contributionOf_ofStyles, Styles.renamed,
          StyleForest.selectors_renamedAll usable named.components,
          StyleForest.selectors_renamedAll usable named.utilities]
        rfl

/-- With a prefix, the building ends where it ends without one, and the verdicts until then
are the same, with the prefix on what is contributed. -/
theorem judgeAll_prefixed (usable : IsClassPrefix classPrefix)
    (differ : Config.DifferByPrefix classPrefix plain marked) (order : List PluginId) :
    (core marked policy sorted).judgeAll order =
      (((core plain policy sorted).judgeAll order).1.map fun (id, verdict) =>
          (id, verdict.prefixed classPrefix),
        ((core plain policy sorted).judgeAll order).2) := by
  induction order with
  | nil => rfl
  | cons id rest inductionHypothesis =>
    rw [judgeAll, judgeAll, judge_prefixed usable differ, inductionHypothesis]
    cases (core plain policy sorted).judge id <;> rfl

/-- Every policy puts selectors together in the same order with a prefix as without one. -/
theorem assemble_prefixed (policy : GroupPolicy) (classPrefix : String)
    (contributions : List Contribution) :
    policy.assemble (contributions.map (Contribution.prefixed classPrefix)) =
      (policy.assemble contributions).map (classPrefix ++ ·) := by
  cases policy <;>
    simp only [GroupPolicy.assemble, Contribution.prefixed, List.flatMap_map, List.map_flatMap,
      List.map_append, alphabetical_map_append]

/-- Verdicts with the prefix contribute the same with the prefix. -/
theorem contributions_prefixed (classPrefix : String) (verdicts : List (PluginId × Verdict)) :
    (verdicts.map fun (id, verdict) => (id, verdict.prefixed classPrefix)).filterMap
        (fun (_, verdict) => verdict.contribution?) =
      (verdicts.filterMap fun (_, verdict) => verdict.contribution?).map
        (Contribution.prefixed classPrefix) := by
  rw [List.filterMap_map, List.map_filterMap]
  congr 1
  funext ⟨id, verdict⟩
  cases verdict <;> rfl

/-- With a prefix the building has the same outcome, with the prefix on the selectors of the
index. -/
theorem build_prefixed (usable : IsClassPrefix classPrefix)
    (differ : Config.DifferByPrefix classPrefix plain marked) (order : List PluginId) :
    ((core marked policy sorted).build order).outcome =
      ((core plain policy sorted).build order).outcome.map
        (SelectorIndex.prefixed classPrefix) := by
  unfold build
  rw [judgeAll_prefixed usable differ]
  cases (core plain policy sorted).judgeAll order with
  | mk verdicts fault =>
    cases fault with
    | some fault => rfl
    | none =>
      simp only [contributions_prefixed, core, assemble_prefixed, SelectorIndex.ofList,
        eraseDups_map_append, SelectorIndex.prefixed, Except.map]

end IndexSettings

end ClassOrder
