import ClassOrder.Proofs.Config.Overriding
import ClassOrder.Proofs.Index.Pooling
import ClassOrder.Proofs.Sorter.Prefix
import ClassOrder.Proofs.Sorter.Reporting
import ClassOrder.Proofs.Style.Traversal

/-!
# One core plugin alone

A sorter may be made for the classes of one core plugin. Its index then holds the class names
of the style object that the plugin registers as utilities, each where it occurs first: the
variants around the styles name no class, and there are no components.
-/
namespace ClassOrder

open Fallible

/-- Variants around style trees name no class. -/
theorem Config.classNamesOfAll_withVariants {variants : Setting} {trees wrapped : List StyleTree}
    (wraps : withVariants variants trees = .ok wrapped) :
    StyleTree.classNamesOfAll wrapped = StyleTree.classNamesOfAll trees := by
  unfold withVariants at wraps
  split at wraps
  · obtain ⟨params, _, ⟨⟩⟩ := bind_eq_ok.mp wraps
    rw [StyleTree.classNamesOfAll_singleton, StyleTree.classNames, isKeyframes_variants,
      if_neg Bool.false_ne_true]
  · cases wraps
    rfl

/-- Without a prefix the registered utilities have the class names of the style object. -/
theorem Plugin.run_registerUtilities {config : Setting} {plugin : String}
    (bare : Config.classPrefix? config = .ok none) (varied : Config.ReadsVariants config plugin)
    (classes : Entries Setting) :
    ∃ trees, (registerUtilities plugin config classes).run {} = (.ok (), { utilities := trees }) ∧
      StyleTree.classNamesOfAll trees = StyleObject.classNames (.mapping classes) := by
  obtain ⟨variants, read, texts⟩ := varied
  have converted : Config.stylesOf config (.mapping classes) =
      .ok (StyleObject.parseEntries classes) := by
    rw [Config.stylesOf, bare]
    rfl
  rcases Config.withVariants_cases variants (StyleObject.parseEntries classes) with
    ⟨_, wrapped, wraps⟩ | ⟨different, _⟩
  · refine ⟨wrapped, ?_, ?_⟩
    · rw [registerUtilities, Registering.run_bind, Registering.run_ofExcept, read]
      simp only [Registering.run_addUtilities converted, wraps]
      rfl
    · rw [Config.classNamesOfAll_withVariants wraps, StyleObject.classNamesOfAll_parseEntries]
      rfl
  · exact absurd texts different

namespace Sorter

/-- A sorter for one enabled core plugin that registers utilities is made, and its index has the
class names of these. -/
theorem create_alone {config resolved : Setting}
    {program : String × (Setting → Registering Unit)} {trees : List StyleTree}
    (listed : program ∈ Plugin.corePrograms)
    (resolves : Config.resolve [config, Config.defaults] = .ok resolved)
    (enabled : Config.enables resolved (.text program.1) = .ok true)
    (registers : (program.2 resolved).run {} = (.ok (), { utilities := trees })) :
    ∃ sorter,
      (create config {} .builtin .builtin (some (.given (.list [.text program.1])))).outcome =
        .ok sorter ∧
      sorter.index.selectors = (StyleTree.classNamesOfAll trees).eraseDups := by
  have returns : ((program.2 resolved).run {}).1 = .ok () := congrArg Prod.fst registers
  have added : (Plugin.program program.1 program.2).added resolved = { utilities := trees } :=
    congrArg Prod.snd registers
  have loaded := Catalog.load_core program listed
  have alone : Plugin.process [.program program.1 program.2] resolved =
      .ok { utilities := trees } :=
    Plugin.process_alone_eq_ok.mpr ⟨returns, added.symm⟩
  have runs : Catalog.builtin.RunsThrough resolved (.text program.1) :=
    .inr ⟨enabled, .inr ⟨_, _, loaded, map_eq_ok.mpr ⟨_, alone, rfl⟩⟩⟩
  have found : Catalog.builtin.enabled? resolved (.text program.1) =
      some (.program program.1 program.2) := by
    simp [Catalog.enabled?, enabled, loaded]
  let settings := IndexSettings.bundled resolved .builtin .componentsFirst
  obtain ⟨judged, emitted⟩ : (∃ verdict, settings.judge (.text program.1) = .ok verdict) ∧
      ∀ group, settings.emitted group (.text program.1) = _ :=
    IndexSettings.judge_of_runsThrough runs
  have components := emitted .component
  have utilities := emitted .utility
  rw [found, Option.toList_some, List.flatMap_singleton, added] at components utilities
  have assembled : settings.assembled [.text program.1] =
      (StyleTree.classNamesOfAll trees).eraseDups := by
    change [Value.text program.1].flatMap _ ++ [Value.text program.1].flatMap _ = _
    rw [List.flatMap_singleton, List.flatMap_singleton, components, utilities]
    rfl
  have built : (settings.build [.text program.1]).outcome =
      .ok ⟨(StyleTree.classNamesOfAll trees).eraseDups⟩ := by
    refine IndexSettings.build_eq_ok.mpr ⟨by simpa using judged, ?_⟩
    rw [assembled, eraseDups_eraseDups]
  exact ⟨_, create_core_eq_ok.mpr ⟨resolved, [.text program.1], _, resolves, rfl, built, rfl⟩, rfl⟩

/-- A configuration that overrides one scale has no prefix, enables all plugins and varies them
all. -/
theorem settles_overriding {scale : String} {entries : Entries Setting} {resolved : Setting}
    (settled : Config.SettledFor (Config.overriding scale entries) resolved) :
    Config.classPrefix? resolved = .ok none ∧
      (∀ plugin, Config.enables resolved (.text plugin) = .ok true) ∧
      ∀ plugin, Config.ReadsVariants resolved plugin := by
  refine ⟨?_, fun plugin => ?_, fun plugin => ?_⟩
  · rw [Config.classPrefix?, settled.settings "prefix" (by decide)]
    rfl
  · rw [settled.enables_eq]
    rfl
  · exact (settled.readsVariants_iff plugin).mpr ⟨[], rfl, by simp⟩

/-- A sorter for a core plugin that registers classes for one scale is made where another scale is
overridden, and its index has the names of the classes for what the scale then holds. -/
theorem create_overriding {plugin overridden : String} {program : Setting → Registering Unit}
    {entries scale : Entries Setting} (classesFor : Entries Setting → Entries Setting)
    (listed : (plugin, program) ∈ Plugin.corePrograms)
    (reads : ∀ config, program config = Registering.ofExcept (Plugin.scaleOf config plugin) >>=
      fun scale => Plugin.registerUtilities plugin config (classesFor scale))
    (isScale : overridden ∈ Config.scaleNames)
    (holds : ∀ resolved,
      Config.resolve [Config.overriding overridden entries, Config.defaults] = .ok resolved →
        ∀ fallback, Config.themeAt resolved plugin fallback = .ok (.mapping scale)) :
    ∃ sorter,
      (create (Config.overriding overridden entries) {} .builtin .builtin
        (some (.given (.list [.text plugin])))).outcome = .ok sorter ∧
      sorter.index.selectors =
        (StyleObject.classNames (.mapping (classesFor scale))).eraseDups := by
  obtain ⟨resolved, resolves, settled⟩ := Config.exists_resolve_overriding isScale entries
  obtain ⟨bare, enabled, varied⟩ := settles_overriding settled
  obtain ⟨trees, registers, named⟩ :=
    Plugin.run_registerUtilities bare (varied plugin) (classesFor scale)
  have found : Plugin.scaleOf resolved plugin = .ok scale :=
    bind_eq_ok.mpr ⟨_, holds resolved resolves _, rfl⟩
  have runs : (program resolved).run {} = (.ok (), { utilities := trees }) := by
    rw [reads, Registering.run_bind, Registering.run_ofExcept, found]
    exact registers
  rw [← named]
  exact create_alone listed resolves (enabled plugin) runs

end Sorter

end ClassOrder
