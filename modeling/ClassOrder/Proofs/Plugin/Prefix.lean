import ClassOrder.Proofs.Plugin.Adding
import ClassOrder.Proofs.Plugin.Classes

/-!
# The core plugins under a prefix

A plugin never sees the prefix: it goes into the style objects when they are registered.
Run with two configurations of which only one gives a prefix, a core plugin reads the same
scales, fails alike, and registers the same style objects. All of these define classes, so
the styles that come of them differ by the prefix on the class names.
-/
namespace ClassOrder

open Fallible

/-- Two configurations, the second of which gives the prefix and the first of which gives
none. Otherwise they are alike. -/
structure Config.DifferByPrefix (classPrefix : String) (plain marked : Setting) : Prop where
  alike : ∀ name, name ≠ "prefix" → entry marked name = entry plain name
  without : classPrefix? plain = .ok none
  given : classPrefix? marked = .ok (some classPrefix)

namespace Styles

/-- Styles with the prefix on their class selectors. -/
def renamed (classPrefix : String) (styles : Styles) : Styles where
  components := StyleTree.renamedAll classPrefix styles.components
  utilities := StyleTree.renamedAll classPrefix styles.utilities

/-- The rules of styles at which the walk stops name classes. -/
structure NamesClasses (styles : Styles) : Prop where
  components : StyleTree.AllNameClasses styles.components
  utilities : StyleTree.AllNameClasses styles.utilities

end Styles

namespace Config.DifferByPrefix

variable {classPrefix : String} {plain marked : Setting}

/-- The theme is the same. -/
theorem themeAt_eq (differ : DifferByPrefix classPrefix plain marked) (path : String)
    (fallback : Setting) : themeAt marked path fallback = themeAt plain path fallback := by
  rw [themeAt, themeAt, differ.alike "theme" (by decide)]

/-- The scales are the same. -/
theorem scaleOf_eq (differ : DifferByPrefix classPrefix plain marked) (name : String) :
    Plugin.scaleOf marked name = Plugin.scaleOf plain name := by
  rw [Plugin.scaleOf, Plugin.scaleOf, differ.themeAt_eq]

/-- The variants are the same. -/
theorem variantsOf_eq (differ : DifferByPrefix classPrefix plain marked) (plugin : Plain)
    (fallback : Setting) :
    variantsOf marked plugin fallback = variantsOf plain plugin fallback := by
  rw [variantsOf, variantsOf, differ.alike "variants" (by decide)]

/-- The styles of an object that defines classes have the prefix. -/
theorem stylesOf_eq_ok (differ : DifferByPrefix classPrefix plain marked) {object : Setting}
    (defines : StyleObject.ClassObject object) :
    ∃ trees, stylesOf plain object = .ok trees ∧ StyleTree.AllNameClasses trees ∧
      stylesOf marked object = .ok (StyleTree.renamedAll classPrefix trees) := by
  obtain ⟨trees, converted, convertedPrefixed⟩ :=
    StyleObject.parse_prefixed classPrefix object defines.takesPrefix
  refine ⟨trees, ?_, defines.namesClasses converted, ?_⟩
  · rw [stylesOf, differ.without]
    exact converted
  · rw [stylesOf, differ.given]
    exact convertedPrefixed

end Config.DifferByPrefix

namespace Config

/-- A text that stands where the prefix is looked up is the prefix, unless it is empty. -/
theorem classPrefix?_of_entry {config : Setting} {text : String}
    (stands : entry config "prefix" = .ok (some (.text text))) :
    classPrefix? config = .ok (if text = "" then none else some text) := by
  rw [classPrefix?, stands]
  by_cases empty : text = ""
  · subst empty
    rfl
  · have given : (Value.text text : Setting).isGiven = true := by simpa [Value.isGiven] using empty
    simp [bind, Except.bind, pure, Except.pure, given, empty, Value.display]

/-- Variants are no keyframes. -/
theorem isKeyframes_variants : StyleNode.isKeyframes "variants" = false := by
  decide

/-- Renamed trees are wrapped like the trees as they were. -/
theorem withVariants_renamedAll (classPrefix : String) (variants : Setting)
    (trees : List StyleTree) :
    withVariants variants (StyleTree.renamedAll classPrefix trees) =
      (withVariants variants trees).map (StyleTree.renamedAll classPrefix) := by
  unfold withVariants
  cases variants.isGiven with
  | false => rfl
  | true =>
    cases textsOf variants with
    | error fault => rfl
    | ok params =>
      have wrapped (params : String) :
          StyleTree.renamedAll classPrefix [.atRule "variants" params trees] =
            [.atRule "variants" params (StyleTree.renamedAll classPrefix trees)] := by
        simp [StyleTree.renamedAll, StyleTree.renamed, isKeyframes_variants]
      exact congrArg Except.ok (wrapped _).symm

/-- Wrapped trees name the classes that they named before. -/
theorem allNameClasses_withVariants {variants : Setting} {trees wrapped : List StyleTree}
    (named : StyleTree.AllNameClasses trees) (wraps : withVariants variants trees = .ok wrapped) :
    StyleTree.AllNameClasses wrapped := by
  unfold withVariants at wraps
  split at wraps
  · obtain ⟨params, _, ⟨⟩⟩ := bind_eq_ok.mp wraps
    exact ⟨fun _ => named, trivial⟩
  · cases wraps
    exact named

end Config

/-! ## The steps of a plugin -/

namespace Registering

variable {classPrefix : String} {plain marked : Setting} {α β : Type}

/-- The second step does what the first does, save that the styles have the prefix. All styles
name classes, before and after. -/
def Mirrors (classPrefix : String) (step other : Registering α) : Prop :=
  ∀ styles : Styles, styles.NamesClasses →
    (step.run styles).2.NamesClasses ∧ other.run (styles.renamed classPrefix) =
      ((step.run styles).1, (step.run styles).2.renamed classPrefix)

/-- A step that registers nothing mirrors itself. -/
theorem mirrors_ofExcept (outcome : Except Fault α) :
    Mirrors classPrefix (ofExcept outcome) (ofExcept outcome) :=
  fun _ named => ⟨named, rfl⟩

/-- A value on its own mirrors itself. -/
theorem mirrors_pure (value : α) : Mirrors classPrefix (pure value) (pure value) :=
  fun _ named => ⟨named, rfl⟩

/-- So does a fault. -/
theorem mirrors_throw (fault : Fault) :
    Mirrors classPrefix (throw fault : Registering α) (throw fault) :=
  fun _ named => ⟨named, rfl⟩

/-- Steps in turn are mirrored one by one. -/
theorem mirrors_bind {step other : Registering α} {next nextToo : α → Registering β}
    (here : Mirrors classPrefix step other)
    (behind : ∀ value, Mirrors classPrefix (next value) (nextToo value)) :
    Mirrors classPrefix (step >>= next) (other >>= nextToo) := by
  intro styles named
  obtain ⟨namedNext, same⟩ := here styles named
  rw [run_bind, run_bind, same]
  cases ran : step.run styles with
  | mk outcome after =>
    rw [ran] at namedNext
    cases outcome with
    | ok value => exact behind value after namedNext
    | error fault => exact ⟨namedNext, rfl⟩

/-- Registering the same components is mirrored. -/
theorem mirrors_addComponents (differ : Config.DifferByPrefix classPrefix plain marked)
    {object : Setting} (defines : StyleObject.ClassObject object) :
    Mirrors classPrefix (addComponents plain object) (addComponents marked object) := by
  obtain ⟨trees, converted, named, convertedToo⟩ := differ.stylesOf_eq_ok defines
  intro styles namedBefore
  rw [run_addComponents converted, run_addComponents convertedToo]
  refine ⟨⟨?_, namedBefore.utilities⟩, ?_⟩
  · exact StyleTree.allNameClasses_append.mpr ⟨namedBefore.components, named⟩
  · simp only [Styles.renamed, StyleTree.renamedAll_append]

/-- Registering the same utilities is mirrored. -/
theorem mirrors_addUtilities (differ : Config.DifferByPrefix classPrefix plain marked)
    {object : Setting} (defines : StyleObject.ClassObject object) (variants : Setting) :
    Mirrors classPrefix (addUtilities plain object variants)
      (addUtilities marked object variants) := by
  obtain ⟨trees, converted, named, convertedToo⟩ := differ.stylesOf_eq_ok defines
  intro styles namedBefore
  rw [run_addUtilities converted, run_addUtilities convertedToo, Config.withVariants_renamedAll]
  cases wraps : Config.withVariants variants trees with
  | error fault => exact ⟨namedBefore, rfl⟩
  | ok wrapped =>
    refine ⟨⟨namedBefore.components, ?_⟩, ?_⟩
    · exact StyleTree.allNameClasses_append.mpr
        ⟨namedBefore.utilities, Config.allNameClasses_withVariants named wraps⟩
    · simp only [Styles.renamed, Except.map, StyleTree.renamedAll_append]

end Registering

/-! ## The core plugins -/

namespace Plugin

open Registering Selector

variable {classPrefix : String} {plain marked : Setting}

/-- Class rules that are registered mirror themselves, with the prefix on their classes. -/
theorem mirrors_registerUtilities (differ : Config.DifferByPrefix classPrefix plain marked)
    (plugin : String) {classes : Entries Setting}
    (defines : StyleObject.ClassObject (.mapping classes)) :
    Mirrors classPrefix (registerUtilities plugin plain classes)
      (registerUtilities plugin marked classes) := by
  unfold registerUtilities
  rw [differ.variantsOf_eq]
  exact mirrors_bind (mirrors_ofExcept _) fun _ => mirrors_addUtilities differ defines _

/-- The container reads no prefix and registers class rules only. -/
theorem mirrors_container (differ : Config.DifferByPrefix classPrefix plain marked) :
    Mirrors classPrefix (container plain) (container marked) := by
  unfold container
  rw [differ.themeAt_eq]
  refine mirrors_bind (mirrors_ofExcept _) fun screens => ?_
  have registers (widths : List Setting) :=
    mirrors_addComponents differ (classObject_container widths)
  cases screens with
  | mapping entries => exact mirrors_bind (mirrors_pure _) registers
  | _ => exact mirrors_bind (mirrors_throw _) registers

/-- A plugin of fixed classes mirrors itself, as no base begins with an at sign. -/
theorem mirrors_fixedClasses (differ : Config.DifferByPrefix classPrefix plain marked)
    (plugin property : String) {classes : List (String × String)}
    (safe : ∀ entry ∈ classes, startsSafe entry.1 = true) :
    Mirrors classPrefix (fixedClasses plugin property classes plain)
      (fixedClasses plugin property classes marked) := by
  refine mirrors_registerUtilities differ plugin (classObject_ofPairs ?_)
  intro pair member
  obtain ⟨⟨name, value⟩, listed, rfl⟩ := List.mem_map.mp member
  exact classEntry_classSelector (safe _ listed) _ _

/-- So does one that has a class for each key of a scale. -/
theorem mirrors_scaledClasses (differ : Config.DifferByPrefix classPrefix plain marked)
    (plugin : String) {base : String} (safe : startsSafe base = true) (properties : List String) :
    Mirrors classPrefix (scaledClasses plugin base properties plain)
      (scaledClasses plugin base properties marked) := by
  unfold scaledClasses
  rw [differ.scaleOf_eq]
  exact mirrors_bind (mirrors_ofExcept _) fun scale =>
    mirrors_registerUtilities differ plugin (classObject_scaleClasses safe properties scale)

/-- And one that has seven of them for each key. -/
theorem mirrors_spacedClasses (differ : Config.DifferByPrefix classPrefix plain marked)
    (plugin : String) {base : String} (safe : startsSafe base = true) (property : String) :
    Mirrors classPrefix (spacedClasses plugin base property plain)
      (spacedClasses plugin base property marked) := by
  unfold spacedClasses
  rw [differ.scaleOf_eq]
  exact mirrors_bind (mirrors_ofExcept _) fun scale =>
    mirrors_registerUtilities differ plugin (classObject_spacingClasses safe property scale)

/-- And one that has a class for each color. -/
theorem mirrors_coloredClasses (differ : Config.DifferByPrefix classPrefix plain marked)
    (plugin : String) {base : String} (safe : startsSafe base = true) (property : String) :
    Mirrors classPrefix (coloredClasses plugin base property plain)
      (coloredClasses plugin base property marked) := by
  unfold coloredClasses
  rw [differ.scaleOf_eq]
  exact mirrors_bind (mirrors_ofExcept _) fun colors =>
    mirrors_registerUtilities differ plugin
      (classObject_scaleClasses safe [property] (flattenColors colors))

/-- The animations mirror themselves: their keyframes are not marked. -/
theorem mirrors_animation (differ : Config.DifferByPrefix classPrefix plain marked) :
    Mirrors classPrefix (animation plain) (animation marked) := by
  unfold animation
  rw [differ.scaleOf_eq, differ.scaleOf_eq]
  refine mirrors_bind (mirrors_ofExcept _) fun keyframes => ?_
  refine mirrors_bind (mirrors_ofExcept _) fun animations => ?_
  exact mirrors_registerUtilities differ "animation"
    (classObject_merge_keyframes (by decide) ["animation"] keyframes animations)

/-- Every core plugin does the same with a prefix and without one. -/
theorem mirrors_core (differ : Config.DifferByPrefix classPrefix plain marked) :
    ∀ entry ∈ corePrograms, Mirrors classPrefix (entry.2 plain) (entry.2 marked) := by
  simp only [corePrograms, List.forall_mem_cons]
  -- One plugin after the other, in the order of the framework.
  refine ⟨mirrors_container differ, mirrors_fixedClasses differ _ _ (by decide),
    mirrors_fixedClasses differ _ _ (by decide), mirrors_fixedClasses differ _ _ (by decide),
    mirrors_fixedClasses differ _ _ (by decide), mirrors_spacedClasses differ _ (by decide) _,
    mirrors_spacedClasses differ _ (by decide) _, mirrors_scaledClasses differ _ (by decide) _,
    mirrors_scaledClasses differ _ (by decide) _, mirrors_scaledClasses differ _ (by decide) _,
    mirrors_fixedClasses differ _ _ (by decide), mirrors_coloredClasses differ _ (by decide) _,
    mirrors_coloredClasses differ _ (by decide) _, mirrors_scaledClasses differ _ (by decide) _,
    mirrors_scaledClasses differ _ (by decide) _, mirrors_scaledClasses differ _ (by decide) _,
    mirrors_scaledClasses differ _ (by decide) _, mirrors_animation differ, by simp⟩

/-- Plugins that are mirrored one by one are mirrored in turn. -/
theorem mirrors_runAll {plugins : List Plugin}
    (each : ∀ plugin ∈ plugins, Mirrors classPrefix (plugin.run plain) (plugin.run marked)) :
    Mirrors classPrefix (runAll plugins plain) (runAll plugins marked) := by
  induction plugins with
  | nil => exact mirrors_pure ()
  | cons plugin rest inductionHypothesis =>
    obtain ⟨here, behind⟩ := List.forall_mem_cons.mp each
    exact mirrors_bind here fun _ => inductionHypothesis behind

/-- The styles of mirrored plugins differ by the prefix. -/
theorem process_of_mirrors {plugins : List Plugin}
    (mirrored : Mirrors classPrefix (runAll plugins plain) (runAll plugins marked)) :
    process plugins marked = (process plugins plain).map (Styles.renamed classPrefix) ∧
      ∀ styles, process plugins plain = .ok styles → styles.NamesClasses := by
  obtain ⟨named, same⟩ := mirrored {} ⟨trivial, trivial⟩
  have empty : Styles.renamed classPrefix {} = {} := rfl
  rw [empty] at same
  unfold process
  rw [same]
  cases ran : (runAll plugins plain).run {} with
  | mk outcome styles =>
    rw [ran] at named
    cases outcome with
    | error fault => exact ⟨rfl, fun _ failed => nomatch failed⟩
    | ok done =>
      refine ⟨rfl, fun _ registered => ?_⟩
      cases registered
      exact named

end Plugin

end ClassOrder
