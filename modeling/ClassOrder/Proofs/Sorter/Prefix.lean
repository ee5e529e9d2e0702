import ClassOrder.Proofs.Config.Replacement
import ClassOrder.Proofs.Index.Prefix
import ClassOrder.Proofs.Sorter.Changes

/-!
# A prefix reaches every class of the index and nothing else

A sorter that is made with a prefix and one that is made without differ only by the prefix
on the selectors of their indexes. The prefix passes through the resolved configuration
untouched, goes into the style objects of the core plugins, and comes out before each class
name.
-/
namespace ClassOrder.Sorter

open Fallible

/-- A configuration with an entry for the prefix, in the place of the one that may be there. -/
def withPrefix (entries : Entries Setting) (classPrefix : String) : Setting :=
  .mapping (Entries.insert entries "prefix" (.text classPrefix))

variable {entries : Entries Setting} {classPrefix old : String} {resolved : Setting}
  {options : SorterOptions} {order : Option PluginOrder} {sorter : Sorter}

/-- Whatever the prefix, the configuration is resolved, and all else in it is the same. -/
theorem resolveOver_withPrefix (new : String)
    (returned : resolveOver .builtin (withPrefix entries old) = .ok resolved) :
    ∃ replaced, resolveOver .builtin (withPrefix entries new) = .ok replaced ∧
      (∀ name, name ≠ "prefix" → Config.entry replaced name = Config.entry resolved name) ∧
      Config.classPrefix? replaced = .ok (if new = "" then none else some new) := by
  obtain ⟨replaced, returnedToo, alike, stands⟩ :=
    Config.resolve_insert (by decide) (.text new) returned
  exact ⟨replaced, returnedToo, alike, Config.classPrefix?_of_entry stands⟩

/-- The prefix of a resolved configuration is the one that was given. -/
theorem classPrefix?_withPrefix
    (returned : resolveOver .builtin (withPrefix entries old) = .ok resolved) :
    Config.classPrefix? resolved = .ok (if old = "" then none else some old) := by
  obtain ⟨replaced, returnedToo, _, found⟩ := resolveOver_withPrefix old returned
  rw [returned] at returnedToo
  cases returnedToo
  exact found

/-- Resolved configurations that are alike in all but the prefix differ by the prefix. -/
theorem differByPrefix_of_alike (usable : IsClassPrefix classPrefix) {plain marked : Setting}
    (resolves : resolveOver .builtin (withPrefix entries "") = .ok plain)
    (resolvesToo : resolveOver .builtin (withPrefix entries classPrefix) = .ok marked)
    (alike : ∀ name, name ≠ "prefix" → Config.entry marked name = Config.entry plain name) :
    Config.DifferByPrefix classPrefix plain marked := by
  have given := classPrefix?_withPrefix resolvesToo
  rw [if_neg usable.nonempty] at given
  exact ⟨alike, classPrefix?_withPrefix resolves, given⟩

/-- A sorter with the core plugins is made when the configuration resolves, the plugin order
exists, and the index can be built from them. -/
theorem create_core_eq_ok {config : Setting} :
    (create config options .builtin .builtin order).outcome = .ok sorter ↔
      ∃ resolved ids index, resolveOver .builtin config = .ok resolved ∧
        initialOrder .builtin order = .ok ids ∧
        ((IndexSettings.core resolved options.policy options.sorted).build ids).outcome =
          .ok index ∧
        sorter = ⟨options, .builtin, .builtin, resolved, ids, index⟩ := by
  rw [create_eq_ok rfl]
  constructor
  · obtain ⟨others, catalog, engine, resolved, ids, index⟩ := sorter
    rintro ⟨rfl, rfl, rfl, resolves, ordered, built⟩
    exact ⟨resolved, ids, index, resolves, ordered, built, rfl⟩
  · rintro ⟨resolved, ids, index, resolves, ordered, built, rfl⟩
    exact ⟨rfl, rfl, rfl, resolves, ordered, built⟩

/-- A sorter that is made without a prefix is made with one as well, and its index has the same
selectors with the prefix on them. -/
theorem create_of_plain (usable : IsClassPrefix classPrefix)
    (created : (create (withPrefix entries "") options .builtin .builtin order).outcome =
      .ok sorter) :
    ∃ prefixed, (create (withPrefix entries classPrefix) options .builtin .builtin order).outcome =
        .ok prefixed ∧ prefixed.index = sorter.index.prefixed classPrefix := by
  obtain ⟨plain, ids, index, resolves, ordered, built, rfl⟩ := create_core_eq_ok.mp created
  obtain ⟨marked, resolvesToo, alike, _⟩ := resolveOver_withPrefix classPrefix resolves
  have differ := differByPrefix_of_alike usable resolves resolvesToo alike
  have builtToo :
      ((IndexSettings.core marked options.policy options.sorted).build ids).outcome =
        .ok (index.prefixed classPrefix) := by
    rw [IndexSettings.build_prefixed usable differ, built]
    rfl
  exact ⟨_, create_core_eq_ok.mpr ⟨marked, ids, _, resolvesToo, ordered, builtToo, rfl⟩, rfl⟩

/-- A sorter that is made with a prefix is made without one as well. -/
theorem create_of_prefixed (usable : IsClassPrefix classPrefix)
    (created : (create (withPrefix entries classPrefix) options .builtin .builtin order).outcome =
      .ok sorter) :
    ∃ plain, (create (withPrefix entries "") options .builtin .builtin order).outcome =
        .ok plain := by
  obtain ⟨marked, ids, index, resolves, ordered, built, rfl⟩ := create_core_eq_ok.mp created
  -- Leaving the prefix out is one more replacement, so the two configurations change places.
  obtain ⟨plain, resolvesToo, alike, _⟩ := resolveOver_withPrefix "" resolves
  have differ := differByPrefix_of_alike usable resolvesToo resolves fun name beside =>
    (alike name beside).symm
  rw [IndexSettings.build_prefixed usable differ] at built
  obtain ⟨plainIndex, builtToo, _⟩ := map_eq_ok.mp built
  exact ⟨_, create_core_eq_ok.mpr ⟨plain, ids, plainIndex, resolvesToo, ordered, builtToo, rfl⟩⟩

/-- With the core plugins, whatever their order and the options are, a sorter is made with a
prefix exactly when it is made without one, and then the selectors of its index are those of the
other with the prefix before each of them, in the same order. The two configurations resolve alike
but for the prefix, and a core plugin that registers trees with the one registers the same trees
with the other, except that the class names are renamed. Sorting a group and leaving repetitions
out commute with the renaming, since a prefix keeps names apart and in order. -/
theorem create_prefix_only_renames (entries : Entries Setting) (options : SorterOptions)
    (order : Option PluginOrder) (classPrefix : String) (usable : IsClassPrefix classPrefix) :
    ((∃ prefixed,
        (create (withPrefix entries classPrefix) options .builtin .builtin order).outcome =
          .ok prefixed) ↔
      ∃ plain, (create (withPrefix entries "") options .builtin .builtin order).outcome =
        .ok plain) ∧
    ∀ prefixed plain,
      (create (withPrefix entries classPrefix) options .builtin .builtin order).outcome =
        .ok prefixed →
      (create (withPrefix entries "") options .builtin .builtin order).outcome = .ok plain →
      prefixed.index.selectors = plain.index.selectors.map (classPrefix ++ ·) := by
  refine ⟨⟨fun made => ?_, fun made => ?_⟩, ?_⟩
  · obtain ⟨prefixed, created⟩ := made
    exact create_of_prefixed usable created
  · obtain ⟨plain, created⟩ := made
    obtain ⟨prefixed, createdToo, _⟩ := create_of_plain usable created
    exact ⟨prefixed, createdToo⟩
  · intro prefixed plain createdPrefixed createdPlain
    obtain ⟨other, created, renamed⟩ := create_of_plain usable createdPlain
    rw [createdPrefixed] at created
    cases created
    rw [renamed]
    rfl

/-- A configuration with a prefix of its own, and with names that give odd classes. -/
def oddNames : Entries Setting := [
  ("prefix", .text "old-"),
  ("theme", .mapping [("opacity", .mapping [
    ("default", .text "1"), ("-half", .text "0.5"), ("a b", .text "0.2")])])]

/-- Two core plugins, and one that is in no catalog. -/
def threePlugins : PluginOrder :=
  .given (.list [.text "opacity", .text "missing", .text "container"])

/-- The minus of a name comes behind the prefix, and a name is still cut at its blank. -/
theorem create_prefix_only_renames_odd_names :
    IsClassPrefix "tw-" ∧ ∃ prefixed,
      (create (withPrefix oddNames "tw-") {} .builtin .builtin (some threePlugins)).outcome =
          .ok prefixed ∧
        prefixed.index.selectors =
          ["tw-container", "tw-opacity", "tw--opacity-half", "tw-opacity-a"] := by
  have usable : IsClassPrefix "tw-" := ⟨by decide, by simp [Text.isBlank], by simp⟩
  obtain ⟨alike, renames⟩ :=
    create_prefix_only_renames oddNames {} (some threePlugins) "tw-" usable
  have evaluated : (create (withPrefix oddNames "") {} .builtin .builtin
      (some threePlugins)).outcome.toOption.map (·.index.selectors) =
        some ["container", "opacity", "-opacity-half", "opacity-a"] := by
    decide +kernel
  obtain ⟨plain, made, selectors⟩ := Option.map_eq_some_iff.mp evaluated
  have created := toOption_eq_some.mp made
  obtain ⟨prefixed, createdToo⟩ := alike.mpr ⟨plain, created⟩
  refine ⟨usable, prefixed, createdToo, ?_⟩
  rw [renames prefixed plain createdToo created, selectors]
  rfl

end ClassOrder.Sorter
