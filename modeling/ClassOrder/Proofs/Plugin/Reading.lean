import ClassOrder.Config.Default
import ClassOrder.Proofs.Plugin.Prefix

/-!
# What the core plugins read

A core plugin reads its scales from the theme and, apart from the page container, the
variants that its utilities come in. It needs a mapping for every scale, and texts for the
variants. Whatever else a configuration holds, the plugin registers its styles when it
finds these, and when it does not, it fails by using a value as one of another kind.
-/
namespace ClassOrder

open Fallible

/-- A value was used as one of another kind. -/
def Fault.IsMisuse : Fault → Prop
  | misused _ _ => True
  | lacks _ _ => True
  | _ => False

namespace Config

variable {entries : Entries Setting} {config object : Setting}

/-- The theme has a mapping for a scale, or nothing. -/
def ReadsScale (config : Setting) (name : String) : Prop :=
  ∃ scale, themeAt config name (.mapping []) = .ok (.mapping scale)

/-- The variants of a plugin can be listed, and all of them are texts. -/
def ReadsVariants (config : Setting) (plugin : String) : Prop :=
  ∃ variants, variantsOf config (.text plugin) (.list []) = .ok variants ∧
    ∀ variant ∈ variants, ∃ text, variant = .text text

/-- A scale is read, or a value is used as a mapping that is none. -/
theorem scaleOf_cases (config : Setting) (name : String) :
    (ReadsScale config name ∧ ∃ scale, Plugin.scaleOf config name = .ok scale) ∨
      ¬ ReadsScale config name ∧
        ∃ fault, Plugin.scaleOf config name = .error fault ∧ fault.IsMisuse := by
  unfold ReadsScale Plugin.scaleOf
  cases found : themeAt config name (.mapping []) with
  | error fault =>
    refine .inr ⟨by simp, fault, rfl, ?_⟩
    cases config <;> cases found <;> trivial
  | ok value =>
    cases value with
    | mapping scale => exact .inl ⟨⟨scale, rfl⟩, scale, rfl⟩
    | _ => exact .inr ⟨by simp, _, rfl, trivial⟩

/-- The variants of a plugin are listed, or a value is used as a list or a mapping that is
none. -/
theorem variantsOf_cases (entries : Entries Setting) (plugin : String) :
    (∃ variants, variantsOf (.mapping entries) (.text plugin) (.list []) = .ok variants) ∨
      ∃ fault, variantsOf (.mapping entries) (.text plugin) (.list []) = .error fault ∧
        fault.IsMisuse := by
  have taken : variantsOf (.mapping entries) (.text plugin) (.list []) = (do
      ((← entryAt ((Entries.get? entries "variants").getD (.mapping [])) (.text plugin)).getD
        (.list [])).items) := rfl
  rw [taken]
  cases (Entries.get? entries "variants").getD (.mapping []) with
  | mapping variants =>
    have named : entryAt (.mapping variants) (.text plugin) = .ok (Entries.get? variants plugin) :=
      rfl
    rw [named]
    change (∃ listed, ((Entries.get? variants plugin).getD (.list [])).items = .ok listed) ∨
      ∃ fault, ((Entries.get? variants plugin).getD (.list [])).items = .error fault ∧ _
    cases (Entries.get? variants plugin).getD (.list []) with
    | list items => exact .inl ⟨_, rfl⟩
    | text text => exact .inl ⟨_, rfl⟩
    | mapping inner => exact .inl ⟨_, rfl⟩
    | _ => exact .inr ⟨_, rfl, trivial⟩
  | _ => exact .inr ⟨_, rfl, trivial⟩

/-- Texts are joined, or a value is used as a text that is none. -/
theorem textsOf_list_cases (variants : List Setting) :
    ((∀ variant ∈ variants, ∃ text, variant = .text text) ∧
        ∃ texts, textsOf (.list variants) = .ok texts) ∨
      (¬ ∀ variant ∈ variants, ∃ text, variant = .text text) ∧
        ∃ fault, textsOf (.list variants) = .error fault ∧ fault.IsMisuse := by
  change (_ ∧ ∃ texts, variants.mapM (fun item => item.asText (.misused .joined)) = .ok texts) ∨
    _ ∧ ∃ fault, variants.mapM (fun item => item.asText (.misused .joined)) = .error fault ∧ _
  induction variants with
  | nil => exact .inl ⟨by simp, [], rfl⟩
  | cons variant rest inductionHypothesis =>
    rw [List.mapM_cons]
    cases variant with
    | text text =>
      rcases inductionHypothesis with ⟨texts, joined, same⟩ | ⟨different, fault, failed, misuse⟩
      · refine .inl ⟨by simpa using texts, text :: joined, ?_⟩
        rw [same]
        rfl
      · refine .inr ⟨by simpa using different, fault, ?_, misuse⟩
        rw [failed]
        rfl
    | _ => exact .inr ⟨by simp, _, rfl, trivial⟩

/-- Trees are wrapped in variants that are texts. -/
theorem withVariants_cases (variants : List Setting) (trees : List StyleTree) :
    ((∀ variant ∈ variants, ∃ text, variant = .text text) ∧
        ∃ wrapped, withVariants (.list variants) trees = .ok wrapped) ∨
      (¬ ∀ variant ∈ variants, ∃ text, variant = .text text) ∧
        ∃ fault, withVariants (.list variants) trees = .error fault ∧ fault.IsMisuse := by
  cases variants with
  | nil => exact .inl ⟨by simp, trees, rfl⟩
  | cons variant rest =>
    have wraps : withVariants (.list (variant :: rest)) trees = (do
        return [.atRule "variants" (", ".intercalate (← textsOf (.list (variant :: rest))))
          trees]) := rfl
    rw [wraps]
    rcases textsOf_list_cases (variant :: rest) with
      ⟨texts, joined, same⟩ | ⟨different, fault, failed, misuse⟩
    · exact .inl ⟨texts, _, by rw [same]; rfl⟩
    · exact .inr ⟨different, fault, by rw [failed]; rfl, misuse⟩

/-- An object that defines classes has styles, with a prefix and without one. -/
theorem stylesOf_returns (entries : Entries Setting) (defines : StyleObject.ClassObject object) :
    ∃ trees, stylesOf (.mapping entries) object = .ok trees := by
  have marked : ∃ classPrefix, classPrefix? (.mapping entries) = .ok classPrefix := by
    cases given : Entries.get? entries "prefix" with
    | none =>
      exact ⟨none, by simp [classPrefix?, entry, given, bind, Except.bind, pure, Except.pure]⟩
    | some value =>
      exact ⟨if value.isGiven then some value.display else none,
        by simp [classPrefix?, entry, given, bind, Except.bind, pure, Except.pure]⟩
  obtain ⟨classPrefix, read⟩ := marked
  unfold stylesOf
  rw [read]
  cases classPrefix with
  | none =>
    obtain ⟨trees, converted, _⟩ := StyleObject.parse_prefixed "" object defines.takesPrefix
    exact ⟨trees, converted⟩
  | some classPrefix =>
    obtain ⟨trees, _, converted⟩ :=
      StyleObject.parse_prefixed classPrefix object defines.takesPrefix
    exact ⟨_, converted⟩

end Config

/-! ## The steps of a plugin -/

namespace Registering

variable {α β : Type} {condition : Prop} {outcome : Except Fault α} {value : α} {fault : Fault}
  {next : α → Registering β}

/-- A step returns under a condition, and otherwise it misuses a value. -/
def Needs (condition : Prop) (step : Registering α) : Prop :=
  ∀ styles : Styles,
    (condition ∧ ∃ value after, step.run styles = (.ok value, after)) ∨
      ¬ condition ∧ ∃ fault after, step.run styles = (.error fault, after) ∧ fault.IsMisuse

/-- A condition may be said in other words. -/
theorem Needs.congr {other : Prop} {step : Registering α} (needs : Needs condition step)
    (same : condition ↔ other) : Needs other step := by
  rw [← propext same]
  exact needs

/-- Behind an outcome that is a success everything is up to the next step. -/
theorem needs_of_ok (here : outcome = .ok value) (behind : Needs condition (next value)) :
    Needs condition (ofExcept outcome >>= next) := by
  intro styles
  rw [run_bind, run_ofExcept, here]
  exact behind styles

/-- A misuse ends the chain. -/
theorem needs_of_error (here : outcome = .error fault) (misuse : fault.IsMisuse)
    (unmet : ¬ condition) : Needs condition (ofExcept outcome >>= next) := by
  intro styles
  rw [run_bind, run_ofExcept, here]
  exact .inr ⟨unmet, fault, styles, rfl, misuse⟩

end Registering

namespace Plugin

open Registering Selector

variable {entries : Entries Setting}

/-- Reading a scale needs it to be a mapping, and then what the next step needs. -/
theorem needs_scaleOf {config : Setting} {name : String} {condition : Prop} {α : Type}
    {next : Entries Setting → Registering α} (behind : ∀ scale, Needs condition (next scale)) :
    Needs (Config.ReadsScale config name ∧ condition)
      (Registering.ofExcept (scaleOf config name) >>= next) := by
  rcases Config.scaleOf_cases config name with
    ⟨reads, scale, found⟩ | ⟨unread, fault, failed, misuse⟩
  · exact needs_of_ok found ((behind scale).congr (by simp [reads]))
  · exact needs_of_error failed misuse (by simp [unread])

/-- Registering utilities needs variants that are texts. -/
theorem needs_registerUtilities (plugin : String) {classes : Entries Setting}
    (defines : StyleObject.ClassObject (.mapping classes)) :
    Needs (Config.ReadsVariants (.mapping entries) plugin)
      (registerUtilities plugin (.mapping entries) classes) := by
  unfold registerUtilities
  rcases Config.variantsOf_cases entries plugin with ⟨variants, listed⟩ | ⟨fault, failed, misuse⟩
  · obtain ⟨trees, converted⟩ := Config.stylesOf_returns entries defines
    have reads : (∀ variant ∈ variants, ∃ text, variant = .text text) ↔
        Config.ReadsVariants (.mapping entries) plugin := by
      simp [Config.ReadsVariants, listed]
    refine needs_of_ok listed (.congr (fun styles => ?_) reads)
    rw [run_addUtilities converted]
    rcases Config.withVariants_cases variants trees with
      ⟨texts, wrapped, wraps⟩ | ⟨different, fault, failed, misuse⟩
    · exact .inl ⟨texts, (), _, by rw [wraps]⟩
    · exact .inr ⟨different, fault, styles, by rw [failed], misuse⟩
  · exact needs_of_error failed misuse (by simp [Config.ReadsVariants, failed])

/-- The scales that a core plugin reads: the page container the breakpoints, the animations
their keyframes as well, and any other plugin the scale of its name, if there is one. -/
def scalesRead (plugin : String) : List String :=
  if plugin = "container" then ["screens"]
  else if plugin = "animation" then ["keyframes", "animation"]
  else [plugin].filter Config.scaleNames.contains

/-- A configuration serves a core plugin when the plugin can read what it reads. -/
def Serves (config : Setting) (plugin : String) : Prop :=
  (∀ scale ∈ scalesRead plugin, Config.ReadsScale config scale) ∧
    (plugin ≠ "container" → Config.ReadsVariants config plugin)

/-- The container needs the screens. -/
theorem needs_container :
    Needs (Config.ReadsScale (.mapping entries) "screens") (container (.mapping entries)) := by
  have found : ∃ screens, Config.themeAt (.mapping entries) "screens" (.mapping []) = .ok screens :=
    ⟨_, rfl⟩
  obtain ⟨screens, found⟩ := found
  refine needs_of_ok found ?_
  unfold Config.ReadsScale
  rw [found]
  intro styles
  cases screens with
  | mapping widths =>
    obtain ⟨trees, converted⟩ :=
      Config.stylesOf_returns entries (classObject_container (Entries.values widths))
    exact .inl ⟨⟨widths, rfl⟩, (), _, run_addComponents converted styles⟩
  | _ => exact .inr ⟨by simp, _, styles, rfl, trivial⟩

/-- A plugin of fixed classes needs its variants and nothing else. -/
theorem needs_fixedClasses (plugin property : String) {classes : List (String × String)}
    (safe : ∀ entry ∈ classes, startsSafe entry.1 = true) :
    Needs (Config.ReadsVariants (.mapping entries) plugin)
      (fixedClasses plugin property classes (.mapping entries)) := by
  refine needs_registerUtilities plugin (classObject_ofPairs ?_)
  intro pair member
  obtain ⟨⟨name, value⟩, listed, rfl⟩ := List.mem_map.mp member
  exact classEntry_classSelector (safe _ listed) _ _

/-- A plugin of classes for a scale needs the scale and its variants. -/
theorem needs_scaledClasses (plugin : String) {base : String} (safe : startsSafe base = true)
    (properties : List String) :
    Needs (Config.ReadsScale (.mapping entries) plugin ∧
        Config.ReadsVariants (.mapping entries) plugin)
      (scaledClasses plugin base properties (.mapping entries)) :=
  needs_scaleOf fun scale =>
    needs_registerUtilities plugin (classObject_scaleClasses safe properties scale)

/-- So does one of spacing classes. -/
theorem needs_spacedClasses (plugin : String) {base : String} (safe : startsSafe base = true)
    (property : String) :
    Needs (Config.ReadsScale (.mapping entries) plugin ∧
        Config.ReadsVariants (.mapping entries) plugin)
      (spacedClasses plugin base property (.mapping entries)) :=
  needs_scaleOf fun scale =>
    needs_registerUtilities plugin (classObject_spacingClasses safe property scale)

/-- And one of color classes. -/
theorem needs_coloredClasses (plugin : String) {base : String} (safe : startsSafe base = true)
    (property : String) :
    Needs (Config.ReadsScale (.mapping entries) plugin ∧
        Config.ReadsVariants (.mapping entries) plugin)
      (coloredClasses plugin base property (.mapping entries)) :=
  needs_scaleOf fun colors =>
    needs_registerUtilities plugin (classObject_scaleClasses safe [property] (flattenColors colors))

/-- The animations need the keyframes, their scale and their variants. -/
theorem needs_animation :
    Needs (Config.ReadsScale (.mapping entries) "keyframes" ∧
        Config.ReadsScale (.mapping entries) "animation" ∧
        Config.ReadsVariants (.mapping entries) "animation")
      (animation (.mapping entries)) :=
  needs_scaleOf fun keyframes => needs_scaleOf fun animations =>
    needs_registerUtilities "animation"
      (classObject_merge_keyframes (by decide) ["animation"] keyframes animations)

/-- A core plugin returns when the configuration serves it, and misuses a value otherwise. -/
theorem needs_core (entries : Entries Setting) :
    ∀ entry ∈ corePrograms, Needs (Serves (.mapping entries) entry.1)
      (entry.2 (.mapping entries)) := by
  have fixed {plugin : String} (none : scalesRead plugin = []) (listed : plugin ≠ "container") :
      Config.ReadsVariants (.mapping entries) plugin ↔ Serves (.mapping entries) plugin := by
    simp [Serves, none, listed]
  have own {plugin : String} (one : scalesRead plugin = [plugin]) (listed : plugin ≠ "container") :
      Config.ReadsScale (.mapping entries) plugin ∧
        Config.ReadsVariants (.mapping entries) plugin ↔ Serves (.mapping entries) plugin := by
    simp [Serves, one, listed]
  have container : Config.ReadsScale (.mapping entries) "screens" ↔
      Serves (.mapping entries) "container" := by
    simp [Serves, scalesRead]
  have animation : Config.ReadsScale (.mapping entries) "keyframes" ∧
      Config.ReadsScale (.mapping entries) "animation" ∧
        Config.ReadsVariants (.mapping entries) "animation" ↔
      Serves (.mapping entries) "animation" := by
    simp [Serves, scalesRead, and_assoc]
  simp only [corePrograms, List.forall_mem_cons]
  -- One plugin after the other, in the order of the framework.
  refine ⟨needs_container.congr container,
    (needs_fixedClasses _ _ (by decide)).congr (fixed (by decide) (by decide)),
    (needs_fixedClasses _ _ (by decide)).congr (fixed (by decide) (by decide)),
    (needs_fixedClasses _ _ (by decide)).congr (fixed (by decide) (by decide)),
    (needs_fixedClasses _ _ (by decide)).congr (fixed (by decide) (by decide)),
    (needs_spacedClasses _ (by decide) _).congr (own (by decide) (by decide)),
    (needs_spacedClasses _ (by decide) _).congr (own (by decide) (by decide)),
    (needs_scaledClasses _ (by decide) _).congr (own (by decide) (by decide)),
    (needs_scaledClasses _ (by decide) _).congr (own (by decide) (by decide)),
    (needs_scaledClasses _ (by decide) _).congr (own (by decide) (by decide)),
    (needs_fixedClasses _ _ (by decide)).congr (fixed (by decide) (by decide)),
    (needs_coloredClasses _ (by decide) _).congr (own (by decide) (by decide)),
    (needs_coloredClasses _ (by decide) _).congr (own (by decide) (by decide)),
    (needs_scaledClasses _ (by decide) _).congr (own (by decide) (by decide)),
    (needs_scaledClasses _ (by decide) _).congr (own (by decide) (by decide)),
    (needs_scaledClasses _ (by decide) _).congr (own (by decide) (by decide)),
    (needs_scaledClasses _ (by decide) _).congr (own (by decide) (by decide)),
    needs_animation.congr animation, by simp⟩

/-- A core plugin has styles when the configuration serves it, and misuses a value otherwise. -/
theorem process_core_cases {entry : String × (Setting → Registering Unit)}
    (listed : entry ∈ corePrograms) (entries : Entries Setting) :
    (Serves (.mapping entries) entry.1 ∧
        ∃ styles, process [.program entry.1 entry.2] (.mapping entries) = .ok styles) ∨
      ¬ Serves (.mapping entries) entry.1 ∧ ∃ fault,
        process [.program entry.1 entry.2] (.mapping entries) = .error fault ∧ fault.IsMisuse := by
  have single : (runAll [.program entry.1 entry.2] (.mapping entries)).run {} =
      (entry.2 (.mapping entries) >>= pure).run {} := rfl
  rw [bind_pure] at single
  unfold process
  rw [single]
  rcases needs_core entries entry listed {} with
    ⟨serves, value, styles, ran⟩ | ⟨lacking, fault, styles, ran, misuse⟩
  · exact .inl ⟨serves, styles, by rw [ran]⟩
  · exact .inr ⟨lacking, fault, by rw [ran], misuse⟩

end Plugin

end ClassOrder
