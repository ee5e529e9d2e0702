import ClassOrder.Plugin.Core
import ClassOrder.Proofs.Fallible

/-!
# What plugins add to the registered styles

A plugin that is written with the operations of the registry reads the configuration, registers
style objects, may fail, and may go on after a failure. It then does the same whatever was
registered before, and adds the same to it, so that plugins in turn add one after the other what
each of them adds alone.

The registry also holds its two lists open, to all the plugins that share it. A plugin that reads
or alters them is not written with the operations, and what it registers may depend on the plugins
before it. Plugins of this kind are left out here.
-/
namespace ClassOrder

open Fallible

/-- Styles with further styles behind them, group by group. -/
def Styles.followedBy (styles later : Styles) : Styles where
  components := styles.components ++ later.components
  utilities := styles.utilities ++ later.utilities

/-- Nothing is added behind styles. -/
@[simp]
theorem Styles.followedBy_nothing (styles : Styles) : styles.followedBy {} = styles := by
  simp [followedBy]

/-- Styles behind nothing are these styles. -/
@[simp]
theorem Styles.nothing_followedBy (styles : Styles) : Styles.followedBy {} styles = styles := by
  simp [followedBy]

/-- It does not matter which of three are put together first. -/
theorem Styles.followedBy_assoc (styles later last : Styles) :
    (styles.followedBy later).followedBy last = styles.followedBy (later.followedBy last) := by
  simp [followedBy]

/-- The styles of several plugins in turn. -/
def Styles.gathered : List Styles → Styles
  | [] => {}
  | styles :: rest => styles.followedBy (gathered rest)

/-- Each group is the concatenation of the groups of the plugins. -/
theorem Styles.gathered_eq (added : List Styles) :
    gathered added =
      { components := added.flatMap Styles.components
        utilities := added.flatMap Styles.utilities } := by
  induction added with
  | nil => rfl
  | cons styles rest inductionHypothesis =>
    rw [gathered, inductionHypothesis, List.flatMap_cons, List.flatMap_cons]
    rfl

namespace Registering

variable {α β : Type}

/-! ## The steps of a plugin -/

/-- The second of two steps starts from the styles that the first leaves, unless the first
fails. -/
theorem run_bind (step : Registering α) (next : α → Registering β) (styles : Styles) :
    (step >>= next).run styles =
      match step.run styles with
      | (.ok value, after) => (next value).run after
      | (.error fault, after) => (.error fault, after) := by
  simp only [ExceptT.run, bind, ExceptT.bind, ExceptT.mk, StateT.bind, ExceptT.bindCont]
  cases step styles with
  | mk outcome after => cases outcome <;> rfl

/-- What goes on after a failure starts from the styles that were registered until then. -/
theorem run_tryCatch (step : Registering α) (handler : Fault → Registering α) (styles : Styles) :
    (tryCatch step handler).run styles =
      match step.run styles with
      | (.ok value, after) => (.ok value, after)
      | (.error fault, after) => (handler fault).run after := by
  simp only [tryCatch, tryCatchThe, MonadExceptOf.tryCatch, ExceptT.tryCatch, ExceptT.run,
    ExceptT.mk, bind, StateT.bind]
  cases step styles with
  | mk outcome after => cases outcome <;> rfl

/-- A step that registers nothing leaves the styles. -/
theorem run_ofExcept (outcome : Except Fault α) (styles : Styles) :
    (ofExcept outcome).run styles = (outcome, styles) :=
  rfl

/-- Registering components adds the trees of the object. -/
theorem run_addComponents {config object : Setting} {trees : List StyleTree}
    (converted : Config.stylesOf config object = .ok trees) (styles : Styles) :
    (addComponents config object).run styles =
      (.ok (), { styles with components := styles.components ++ trees }) := by
  unfold addComponents
  rw [converted]
  rfl

/-- Registering utilities adds the trees of the object in their variants, or fails on these. -/
theorem run_addUtilities {config object : Setting} {trees : List StyleTree}
    (converted : Config.stylesOf config object = .ok trees) (variants : Setting)
    (styles : Styles) :
    (addUtilities config object variants).run styles =
      match Config.withVariants variants trees with
      | .ok wrapped => (.ok (), { styles with utilities := styles.utilities ++ wrapped })
      | .error fault => (.error fault, styles) := by
  unfold addUtilities
  simp only [converted, run_bind, run_ofExcept]
  cases Config.withVariants variants trees <;> rfl

/-- A step that is written with the operations of the registry: it asks what depends on the
configuration alone, registers objects, and goes on after these, whether they return or fail. It
neither reads nor alters the lists of what is registered. -/
inductive Written : {α : Type} → Registering α → Prop where
  | reading {α : Type} (outcome : Except Fault α) : Written (ofExcept outcome)
  | components (config object : Setting) : Written (addComponents config object)
  | utilities (config object variants : Setting) : Written (addUtilities config object variants)
  | next {α β : Type} {step : Registering α} {rest : α → Registering β} :
      Written step → (∀ value, Written (rest value)) → Written (step >>= rest)
  | rescue {α : Type} {step : Registering α} {handler : Fault → Registering α} :
      Written step → (∀ fault, Written (handler fault)) → Written (tryCatch step handler)

/-- A step that reads the configuration and then registers one object, with nothing behind it. -/
inductive RegistersLast : Registering Unit → Prop where
  | components (config object : Setting) : RegistersLast (addComponents config object)
  | utilities (config object variants : Setting) :
      RegistersLast (addUtilities config object variants)
  | reading {α : Type} (outcome : Except Fault α) {rest : α → Registering Unit} :
      (∀ value, RegistersLast (rest value)) → RegistersLast (ofExcept outcome >>= rest)

/-- Such a step is written with the operations of the registry. -/
theorem RegistersLast.written {step : Registering Unit} (last : RegistersLast step) :
    Written step := by
  induction last with
  | components config object => exact .components config object
  | utilities config object variants => exact .utilities config object variants
  | reading outcome _ behind => exact .next (.reading outcome) behind

/-- A step does the same whatever was registered before, and adds the same to it. -/
def Adds (step : Registering α) : Prop :=
  ∀ styles : Styles, step.run styles = ((step.run {}).1, styles.followedBy (step.run {}).2)

/-- Reading adds nothing. -/
theorem adds_ofExcept (outcome : Except Fault α) : Adds (ofExcept outcome) := by
  intro styles
  simp only [run_ofExcept, Styles.followedBy_nothing]

/-- Registering components adds the trees of the object, or nothing when it cannot be converted. -/
theorem adds_addComponents (config object : Setting) : Adds (addComponents config object) := by
  intro styles
  cases converted : Config.stylesOf config object with
  | ok trees => simp [run_addComponents converted, Styles.followedBy]
  | error fault =>
    unfold addComponents
    simp only [converted, run_bind, run_ofExcept, Styles.followedBy_nothing]

/-- Registering utilities adds the trees in their variants, or nothing when either fails. -/
theorem adds_addUtilities (config object variants : Setting) :
    Adds (addUtilities config object variants) := by
  intro styles
  cases converted : Config.stylesOf config object with
  | ok trees =>
    simp only [run_addUtilities converted]
    cases Config.withVariants variants trees <;> simp [Styles.followedBy]
  | error fault =>
    unfold addUtilities
    simp only [converted, run_bind, run_ofExcept, Styles.followedBy_nothing]

/-- Steps in turn add what the first adds and then what the second adds. -/
theorem adds_bind {step : Registering α} {rest : α → Registering β} (here : Adds step)
    (behind : ∀ value, Adds (rest value)) : Adds (step >>= rest) := by
  intro styles
  rw [run_bind, run_bind, here styles]
  cases step.run {} with
  | mk outcome added =>
    cases outcome with
    | error fault => rfl
    | ok value =>
      simp only
      rw [behind value (styles.followedBy added), behind value added, Styles.followedBy_assoc]

/-- After a failure, what goes on adds to what was added until then. -/
theorem adds_tryCatch {step : Registering α} {handler : Fault → Registering α} (here : Adds step)
    (behind : ∀ fault, Adds (handler fault)) : Adds (tryCatch step handler) := by
  intro styles
  rw [run_tryCatch, run_tryCatch, here styles]
  cases step.run {} with
  | mk outcome added =>
    cases outcome with
    | ok value => rfl
    | error fault =>
      simp only
      rw [behind fault (styles.followedBy added), behind fault added, Styles.followedBy_assoc]

/-- Whatever is written with the operations only adds. -/
theorem Written.adds {step : Registering α} (written : Written step) : Adds step := by
  induction written with
  | reading outcome => exact adds_ofExcept outcome
  | components config object => exact adds_addComponents config object
  | utilities config object variants => exact adds_addUtilities config object variants
  | next _ _ here behind => exact adds_bind here behind
  | rescue _ _ here behind => exact adds_tryCatch here behind

end Registering

/-! ## Plugins in turn -/

namespace Plugin

open Registering

variable {plugin : Plugin} {plugins : List Plugin} {config : Setting} {styles : Styles}

/-- Under every configuration a program is written with the operations of the registry, which
excludes that it reads or alters what other plugins have registered. A name alone is no program. -/
def IsWritten : Plugin → Prop
  | .program _ run => ∀ config, Written (run config)
  | .named _ => True

/-- What a plugin adds to the registered styles. -/
def added (config : Setting) (plugin : Plugin) : Styles :=
  ((plugin.run config).run {}).2

/-- A plugin only adds. -/
theorem IsWritten.adds (written : plugin.IsWritten) (config : Setting) :
    Adds (plugin.run config) := by
  cases plugin with
  | program name run => exact (written config).adds
  | named name => exact adds_ofExcept _

/-- A plugin that is processed alone and returns registers what it adds. -/
theorem process_alone_eq_ok :
    process [plugin] config = .ok styles ↔
      ((plugin.run config).run {}).1 = .ok () ∧ styles = plugin.added config := by
  have single : (runAll [plugin] config).run {} = (plugin.run config).run {} := by
    change (plugin.run config >>= fun _ => pure PUnit.unit).run {} = _
    rw [run_bind]
    cases (plugin.run config).run {} with
    | mk outcome after => cases outcome <;> rfl
  unfold process added
  rw [single]
  cases (plugin.run config).run {} with
  | mk outcome after => cases outcome <;> simp [eq_comm]

/-- Plugins that only add, and that return when they are processed alone, return in turn, and they
register one after the other what each of them adds. The induction is on the plugins, over
whatever was registered before. -/
theorem process_eq_gathered (adds : ∀ plugin ∈ plugins, Adds (plugin.run config))
    (returns : ∀ plugin ∈ plugins, ((plugin.run config).run {}).1 = .ok ()) :
    process plugins config = .ok (.gathered (plugins.map (added config))) := by
  have inTurn : ∀ styles : Styles, (runAll plugins config).run styles =
      (.ok (), styles.followedBy (.gathered (plugins.map (added config)))) := by
    induction plugins with
    | nil =>
      intro styles
      exact Prod.ext rfl (Styles.followedBy_nothing styles).symm
    | cons plugin rest inductionHypothesis =>
      obtain ⟨addsHere, addsBehind⟩ := List.forall_mem_cons.mp adds
      obtain ⟨returnsHere, returnsBehind⟩ := List.forall_mem_cons.mp returns
      intro styles
      change (plugin.run config >>= fun _ => runAll rest config).run styles = _
      rw [run_bind, addsHere styles, returnsHere]
      simp only [inductionHypothesis addsBehind returnsBehind, List.map_cons, Styles.gathered,
        Styles.followedBy_assoc]
      rfl
  unfold process
  rw [inTurn, Styles.nothing_followedBy]

/-! ## The core plugins -/

/-- The classes of a core plugin are registered with the variants that are read for it. -/
theorem registersLast_registerUtilities (name : String) (config : Setting)
    (classes : Entries Setting) : RegistersLast (registerUtilities name config classes) :=
  .reading _ fun _ => .utilities _ _ _

/-- The container reads the screens and registers one object with the widths among them. -/
theorem registersLast_container (config : Setting) : RegistersLast (container config) := by
  apply RegistersLast.reading
  intro screens
  have registers (object : List Setting → Setting) (widths : Except Fault (List Setting)) :
      RegistersLast (Registering.ofExcept widths >>= fun widths =>
        addComponents config (object widths)) :=
    .reading _ fun _ => .components _ _
  cases screens with
  | mapping entries => exact registers _ (.ok (Entries.values entries))
  | _ => exact registers _ (.error _)

/-- The animations read the keyframes and the scale and then register their classes. -/
theorem registersLast_animation (config : Setting) : RegistersLast (animation config) :=
  .reading _ fun _ => .reading _ fun _ => registersLast_registerUtilities _ _ _

/-- A core plugin reads what it needs and then registers everything at once. -/
theorem registersLast_core : ∀ entry ∈ corePrograms, ∀ config, RegistersLast (entry.2 config) := by
  have scaled (name base : String) (properties : List String) (config : Setting) :
      RegistersLast (scaledClasses name base properties config) :=
    .reading _ fun _ => registersLast_registerUtilities _ _ _
  have spaced (name base property : String) (config : Setting) :
      RegistersLast (spacedClasses name base property config) :=
    .reading _ fun _ => registersLast_registerUtilities _ _ _
  have colored (name base property : String) (config : Setting) :
      RegistersLast (coloredClasses name base property config) :=
    .reading _ fun _ => registersLast_registerUtilities _ _ _
  have fixed (name property : String) (classes : List (String × String)) (config : Setting) :
      RegistersLast (fixedClasses name property classes config) :=
    registersLast_registerUtilities _ _ _
  simp only [corePrograms, List.forall_mem_cons]
  exact ⟨registersLast_container, fixed _ _ _, fixed _ _ _, fixed _ _ _, fixed _ _ _,
    spaced _ _ _, spaced _ _ _, scaled _ _ _, scaled _ _ _, scaled _ _ _, fixed _ _ _,
    colored _ _ _, colored _ _ _, scaled _ _ _, scaled _ _ _, scaled _ _ _, scaled _ _ _,
    registersLast_animation, by simp⟩

/-- The core plugins are written with the operations of the registry. -/
theorem isWritten_core : ∀ entry ∈ core, entry.2.IsWritten := by
  intro entry member
  obtain ⟨program, listed, rfl⟩ := List.mem_map.mp member
  exact fun config => (registersLast_core program listed config).written

end Plugin

end ClassOrder
