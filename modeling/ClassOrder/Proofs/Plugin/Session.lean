import ClassOrder.Proofs.Plugin.Adding

/-!
# Calls on one registry

Calls are made on one registry, one after the other: objects are registered as components or as
utilities, and core plugins are run. Some calls may fail, and the next one is made all the same. A
registration converts its object, and all that goes with it, before it adds anything, and a core
plugin registers once, after all that it reads. So a call that fails leaves the registry as it
was, and one that returns adds what it would add to a registry without any styles. Nothing that
happened before a call shows in what the call does.
-/
namespace ClassOrder

namespace Registering

variable {α : Type}

/-! ## Calls that leave no trace when they fail -/

/-- A step that fails leaves the styles as it found them. -/
def Atomic (step : Registering α) : Prop :=
  ∀ (styles after : Styles) (fault : Fault),
    step.run styles = (.error fault, after) → after = styles

/-- What is read before a step changes nothing. -/
theorem atomic_reading {β : Type} (outcome : Except Fault α) {rest : α → Registering β}
    (behind : ∀ value, Atomic (rest value)) : Atomic (ofExcept outcome >>= rest) := by
  intro styles after fault failed
  rw [run_bind, run_ofExcept] at failed
  cases outcome with
  | ok value => exact behind value styles after fault failed
  | error other =>
    cases failed
    rfl

/-- Adding to the styles does not fail. -/
theorem atomic_modify (change : Styles → Styles) :
    Atomic (modify change : Registering PUnit) := by
  intro styles after fault failed
  cases failed

/-- Components are converted before any of them is added. -/
theorem atomic_addComponents (config object : Setting) : Atomic (addComponents config object) :=
  atomic_reading _ fun _ => atomic_modify _

/-- So are utilities, and their variants are joined before as well. -/
theorem atomic_addUtilities (config object variants : Setting) :
    Atomic (addUtilities config object variants) :=
  atomic_reading _ fun _ => atomic_reading _ fun _ => atomic_modify _

/-- A step that registers last leaves no trace when it fails: whatever can fail comes before. -/
theorem RegistersLast.atomic {step : Registering Unit} (last : RegistersLast step) :
    Atomic step := by
  induction last with
  | components config object => exact atomic_addComponents config object
  | utilities config object variants => exact atomic_addUtilities config object variants
  | reading outcome _ behind => exact atomic_reading outcome behind

/-! ## Calls in turn -/

/-- A call on a registry. -/
inductive Call where
  /-- Registers an object's styles as components. -/
  | components (object : Setting)
  /-- Registers an object's styles as utilities, in the given variants. -/
  | utilities (object variants : Setting)
  /-- Runs a core plugin. -/
  | core (entry : String × Plugin) (listed : entry ∈ Plugin.core)

namespace Call

/-- Makes a call. -/
def run (config : Setting) : Call → Registering Unit
  | components object => addComponents config object
  | utilities object variants => addUtilities config object variants
  | core entry _ => entry.2.run config

/-- What a call registers on a registry of its own, or the fault that it ends with. -/
def alone (config : Setting) (call : Call) : Except Fault Styles :=
  match (call.run config).run {} with
  | (.ok (), styles) => .ok styles
  | (.error fault, _) => .error fault

/-- A call reads and then registers one object, whichever call it is. -/
theorem registersLast (config : Setting) (call : Call) : RegistersLast (call.run config) := by
  cases call with
  | components object => exact .components config object
  | utilities object variants => exact .utilities config object variants
  | core entry listed =>
    obtain ⟨program, member, rfl⟩ := List.mem_map.mp listed
    exact Plugin.registersLast_core program member config

/-- Whatever was registered before, a call adds what it registers alone, or fails as it does alone
and adds nothing. -/
theorem run_eq (config : Setting) (call : Call) (styles : Styles) :
    (call.run config).run styles =
      match call.alone config with
      | .ok added => (.ok (), styles.followedBy added)
      | .error fault => (.error fault, styles) := by
  have last := call.registersLast config
  rw [last.written.adds styles, alone]
  cases ran : (call.run config).run {} with
  | mk outcome added =>
    cases outcome with
    | ok done => rfl
    | error fault =>
      have nothing : added = {} := last.atomic {} added fault ran
      simp only [nothing, Styles.followedBy_nothing]

end Call

/-- Takes a step and gives its outcome. When the step fails, what it did until then stays. -/
def attempt (step : Registering α) : Registering (Except Fault α) :=
  tryCatch (Except.ok <$> step) fun fault => pure (.error fault)

/-- Makes calls in turn on one registry, whether or not they fail, and gives their outcomes. -/
def session (config : Setting) (calls : List Call) : Registering (List (Except Fault Unit)) :=
  calls.mapM fun call => attempt (call.run config)

/-- An attempt returns, and leaves the styles that the step leaves. -/
theorem run_attempt (step : Registering α) (styles : Styles) :
    (attempt step).run styles = (.ok (step.run styles).1, (step.run styles).2) := by
  rw [attempt, run_tryCatch, map_eq_pure_bind, run_bind]
  cases step.run styles with
  | mk outcome after => cases outcome <;> rfl

/-- The calls of a session have the outcomes that they have alone, and the session adds what each of
them that returns registers alone, one after the other. -/
theorem run_session (config : Setting) (calls : List Call) (styles : Styles) :
    (session config calls).run styles =
      (.ok (calls.map fun call => (call.alone config).map fun _ => ()),
        styles.followedBy
          (.gathered (calls.filterMap fun call => (call.alone config).toOption))) := by
  induction calls generalizing styles with
  | nil => exact Prod.ext rfl (Styles.followedBy_nothing styles).symm
  | cons call rest inductionHypothesis =>
    have first : session config (call :: rest) = (attempt (call.run config) >>= fun outcome =>
        session config rest >>= fun outcomes => pure (outcome :: outcomes)) :=
      List.mapM_cons
    rw [first, run_bind, run_attempt, call.run_eq config styles]
    cases made : call.alone config with
    | ok added =>
      simp only [run_bind, inductionHypothesis, List.map_cons, made, List.filterMap_cons,
        Except.toOption, Styles.gathered, Styles.followedBy_assoc]
      rfl
    | error fault =>
      simp only [run_bind, inductionHypothesis, List.map_cons, made, List.filterMap_cons,
        Except.toOption]
      rfl

end Registering

/-! ## Plugins in two runs -/

namespace Plugin

open Registering

variable {plugins later : List Plugin}

/-- Plugins in turn only add, as each of them does. -/
theorem adds_runAll (written : ∀ plugin ∈ plugins, plugin.IsWritten) (config : Setting) :
    Adds (runAll plugins config) := by
  induction plugins with
  | nil => exact adds_ofExcept (.ok ())
  | cons plugin rest inductionHypothesis =>
    obtain ⟨writtenHere, writtenBehind⟩ := List.forall_mem_cons.mp written
    exact adds_bind (writtenHere.adds config) fun _ => inductionHypothesis writtenBehind

/-- Plugins in one run register what they register in two runs, one after the other. When one of
them fails, so does the one run, as the first of the two that fails. -/
theorem process_append (writtenLater : ∀ plugin ∈ later, plugin.IsWritten) (config : Setting) :
    process (plugins ++ later) config = (do
      let front ← process plugins config
      let back ← process later config
      return front.followedBy back) := by
  have inTurn : runAll (plugins ++ later) config =
      (runAll plugins config >>= fun _ => runAll later config) :=
    List.forM_append
  unfold process
  rw [inTurn, run_bind]
  cases (runAll plugins config).run {} with
  | mk outcome front =>
    cases outcome with
    | error fault => rfl
    | ok done =>
      simp only
      rw [adds_runAll writtenLater config front]
      cases (runAll later config).run {} with
      | mk outcome back => cases outcome <;> rfl

end Plugin

/-! ## One registry, many calls -/

namespace Registering

/-- Registration only adds, does not look back, and takes a call as a whole. However many calls
are made on a registry, and whichever of them fail, each has the outcome that it has on a registry
of its own. The registry then holds what it held, and behind it, in the order of the calls, what
those that return register alone. So plugins that are processed in one run register what they
register in two.

Proof: every call registers as the last thing it does, so it fails before that or not at all, and
it is written with the operations of the registry, so it adds the same to whatever is there. The
rest is an induction over the calls. -/
theorem session_registers_as_alone (config : Setting) :
    (∀ (calls : List Call) (styles : Styles),
        let returned := calls.filterMap fun call => (call.alone config).toOption
        (session config calls).run styles =
          (.ok (calls.map fun call => (call.alone config).map fun _ => ()),
            { components := styles.components ++ returned.flatMap Styles.components
              utilities := styles.utilities ++ returned.flatMap Styles.utilities })) ∧
      ∀ plugins later : List Plugin, (∀ plugin ∈ later, plugin.IsWritten) →
        Plugin.process (plugins ++ later) config = do
          let front ← Plugin.process plugins config
          let back ← Plugin.process later config
          return { components := front.components ++ back.components
                   utilities := front.utilities ++ back.utilities } := by
  constructor
  · intro calls styles returned
    rw [run_session, Styles.gathered_eq]
    rfl
  · intro plugins later writtenLater
    exact Plugin.process_append writtenLater config

/-- A configuration with a scale that is a text and with a variant that is a number. -/
def unevenConfig : Setting :=
  .mapping [
    ("theme", .mapping [("margin", .text "wide"), ("width", .mapping [("0", .text "0")]),
      ("zIndex", .mapping [("0", .text "0")])]),
    ("variants", .mapping [("zIndex", .list [.integer 1])])]

/-- The core plugin for widths. -/
def widths : Plugin :=
  .program "width" (Plugin.scaledClasses "width" "w" ["width"])

/-- An object with one rule. -/
def cards : Setting :=
  .mapping [(".card", .mapping [])]

/-- Calls of which some fail: on the scale that is a text, on a text that follows a rule in one
object, and on the variant that is a number, which comes after the conversion of the classes. -/
def unevenCalls : List Call :=
  [.components cards,
    .core ("margin", .program "margin" (Plugin.spacedClasses "margin" "m" "margin"))
      (by simp [Plugin.core, Plugin.corePrograms]),
    .components (.list [cards, .text "loose"]),
    .core ("width", widths) (by simp [Plugin.core, Plugin.corePrograms, widths]),
    .core ("zIndex", .program "zIndex" (Plugin.scaledClasses "zIndex" "z" ["z-index"]))
      (by simp [Plugin.core, Plugin.corePrograms]),
    .utilities cards (.list [.text "hover"])]

/-- The calls that fail leave nothing, and the widths come behind the components of a program that
was processed before them. -/
theorem session_registers_as_alone_uneven :
    (session unevenConfig unevenCalls).run {} =
        (.ok [.ok (), .error (.lacks .entries "str"), .error (.styleIsText "loose"), .ok (),
            .error (.misused .joined "int"), .ok ()],
          { components := [.rule ".card" []]
            utilities := [.rule ".w-0" [.declaration "width" "0"],
              .atRule "variants" "hover" [.rule ".card" []]] }) ∧
      (∀ plugin ∈ [widths], plugin.IsWritten) ∧
      Plugin.process ([.program "cards" fun config => addComponents config cards] ++ [widths])
          unevenConfig =
        .ok { components := [.rule ".card" []]
              utilities := [.rule ".w-0" [.declaration "width" "0"]] } := by
  have written : ∀ plugin ∈ [widths], plugin.IsWritten := by
    intro plugin member
    rw [List.mem_singleton.mp member]
    apply Plugin.isWritten_core ("width", widths)
    simp [Plugin.core, Plugin.corePrograms, widths]
  obtain ⟨inTurn, inTwo⟩ := session_registers_as_alone unevenConfig
  constructor
  · rw [inTurn]
    with_unfolding_all rfl
  · refine ⟨written, ?_⟩
    rw [inTwo _ _ written]
    with_unfolding_all rfl

end Registering

end ClassOrder
