import ClassOrder.Index.Build
import ClassOrder.Proofs.Blocks
import ClassOrder.Proofs.Fallible

/-!
# What the building of an index gathers

The building judges one plugin after the other. When none of them ends it, what it gathers
is a matter of the plugins that are enabled and can be resolved: the selectors that each of
them emits, group by group. The index is the list that the policy makes of these, without
repetitions.
-/
namespace ClassOrder

open Fallible

/-- The two groups of styles. -/
inductive StyleGroup where
  | component
  | utility
  deriving DecidableEq

namespace StyleGroup

/-- The group that is not this one. -/
def other : StyleGroup → StyleGroup
  | component => utility
  | utility => component

/-- The styles of a group. -/
def forest (styles : StyleForests) : StyleGroup → StyleForest
  | component => styles.components
  | utility => styles.utilities

end StyleGroup

/-- Extracting selectors succeeds unless the walk meets a fault. -/
theorem StyleForest.extract_eq_ok {forest : StyleForest} {sorted : Bool} {selectors : List String} :
    forest.extract sorted = .ok selectors ↔
      forest.fault? = none ∧ selectors = forest.selectors sorted := by
  unfold extract
  cases forest.fault? with
  | some fault => simp
  | none => simp [eq_comm]

namespace IndexSettings

variable {settings : IndexSettings} {order : List PluginId} {id : PluginId} {verdict : Verdict}

/-- The selectors that a plugin emits in a group. One that is disabled, or that cannot be
resolved, emits none. -/
def emitted (settings : IndexSettings) (group : StyleGroup) (id : PluginId) : List String :=
  match Config.enables settings.config id, settings.styles id with
  | .ok true, .ok styles => (group.forest styles).selectors settings.sorted
  | _, _ => []

/-- The selectors that a plugin emits as they stand without grouping: components first, each
group in alphabetical order. -/
def interleaved (settings : IndexSettings) (id : PluginId) : List String :=
  alphabetical (settings.emitted .component id) ++ alphabetical (settings.emitted .utility id)

/-! ## One plugin -/

/-- A plugin emits the styles that it has, when it is enabled and can be resolved. -/
theorem mem_emitted_iff {group : StyleGroup} {selector : String} :
    selector ∈ settings.emitted group id ↔
    Config.enables settings.config id = .ok true ∧
      ∃ styles, settings.styles id = .ok styles ∧
        selector ∈ (group.forest styles).selectors settings.sorted := by
  unfold emitted
  cases Config.enables settings.config id with
  | error fault => simp
  | ok enabled =>
    cases enabled with
    | false => simp
    | true => cases settings.styles id <;> simp

/-- What styles contribute are the selectors of both groups, when no walk meets a fault. -/
theorem contributionOf_eq_ok {styles : StyleForests} {contribution : Contribution} :
    settings.contributionOf styles = .ok contribution ↔
      styles.components.fault? = none ∧ styles.utilities.fault? = none ∧
        contribution = ⟨styles.components.selectors settings.sorted,
          styles.utilities.selectors settings.sorted⟩ := by
  constructor
  · intro contributed
    obtain ⟨components, extracted, contributed⟩ := bind_eq_ok.mp contributed
    obtain ⟨utilities, extractedToo, ⟨⟩⟩ := bind_eq_ok.mp contributed
    obtain ⟨faultless, rfl⟩ := StyleForest.extract_eq_ok.mp extracted
    obtain ⟨faultlessToo, rfl⟩ := StyleForest.extract_eq_ok.mp extractedToo
    exact ⟨faultless, faultlessToo, rfl⟩
  · rintro ⟨faultless, faultlessToo, rfl⟩
    exact bind_eq_ok.mpr ⟨_, StyleForest.extract_eq_ok.mpr ⟨faultless, rfl⟩,
      bind_eq_ok.mpr ⟨_, StyleForest.extract_eq_ok.mpr ⟨faultlessToo, rfl⟩, rfl⟩⟩

/-- A plugin is disabled, or it cannot be resolved, or it contributes; anything else ends the
building. -/
theorem judge_eq_ok : settings.judge id = .ok verdict ↔
    (Config.enables settings.config id = .ok false ∧ verdict = .disabled) ∨
    (Config.enables settings.config id = .ok true ∧ ∃ plugin reason,
      settings.styles id = .error (.unresolvable plugin reason) ∧
        verdict = .unresolvable plugin reason) ∨
    (Config.enables settings.config id = .ok true ∧ ∃ styles contribution,
      settings.styles id = .ok styles ∧ settings.contributionOf styles = .ok contribution ∧
        verdict = .contributed contribution) := by
  cases switched : Config.enables settings.config id with
  | error fault => simp [judge, switched, bind, Except.bind]
  | ok enabled =>
    cases enabled with
    | false => simp [judge, switched, bind, Except.bind, pure, Except.pure, eq_comm]
    | true =>
      cases resolved : settings.styles id with
      | ok styles =>
        have judged : settings.judge id =
            settings.contributionOf styles >>= fun made => .ok (.contributed made) := by
          simp only [judge, switched, resolved, bind, Except.bind, if_true, pure, Except.pure]
        rw [judged, bind_eq_ok]
        simp [eq_comm]
      | error fault =>
        cases fault with
        | unresolvable plugin reason =>
          have judged : settings.judge id = .ok (.unresolvable plugin reason) := by
            simp only [judge, switched, resolved, bind, Except.bind, if_true, pure, Except.pure]
          rw [judged]
          constructor
          · rintro ⟨⟩
            exact .inr (.inl ⟨rfl, plugin, reason, rfl, rfl⟩)
          · rintro (⟨⟨⟩, _⟩ | ⟨_, _, _, ⟨⟩, rfl⟩ | ⟨_, _, _, ⟨⟩, _⟩)
            rfl
        | _ => simp [judge, switched, resolved, bind, Except.bind, throw, throwThe,
            MonadExceptOf.throw]

/-- A plugin ends the building when it cannot be said whether it is enabled, when processing it
fails for another reason than that it cannot be resolved, or when a walk meets a fault. -/
theorem judge_eq_error {fault : Fault} : settings.judge id = .error fault ↔
    Config.enables settings.config id = .error fault ∨
    (Config.enables settings.config id = .ok true ∧ settings.styles id = .error fault ∧
      ∀ plugin reason, fault ≠ .unresolvable plugin reason) ∨
    (Config.enables settings.config id = .ok true ∧ ∃ styles,
      settings.styles id = .ok styles ∧ settings.contributionOf styles = .error fault) := by
  cases switched : Config.enables settings.config id with
  | error other => simp [judge, switched, bind, Except.bind]
  | ok enabled =>
    cases enabled with
    | false => simp [judge, switched, bind, Except.bind, pure, Except.pure]
    | true =>
      cases resolved : settings.styles id with
      | ok styles =>
        cases contributed : settings.contributionOf styles <;>
          simp [judge, switched, resolved, contributed, bind, Except.bind, pure, Except.pure]
      | error other =>
        cases other with
        | unresolvable plugin reason =>
          simp only [judge, switched, resolved, bind, Except.bind, if_true, pure, Except.pure]
          constructor
          · rintro ⟨⟩
          · rintro (⟨⟨⟩⟩ | ⟨_, ⟨⟨⟩⟩, known⟩ | ⟨_, _, ⟨⟩, _⟩)
            exact absurd rfl (known plugin reason)
        | _ =>
          simp only [judge, switched, resolved, bind, Except.bind, if_true, throw, throwThe,
            MonadExceptOf.throw]
          constructor
          · rintro ⟨⟩
            exact .inr (.inl ⟨trivial, rfl, by simp⟩)
          · rintro (⟨⟨⟩⟩ | ⟨_, ⟨⟨⟩⟩, _⟩ | ⟨_, _, ⟨⟩, _⟩)
            rfl

/-- What a plugin contributes, if it does. -/
def contribution (settings : IndexSettings) (id : PluginId) : Contribution :=
  ⟨settings.emitted .component id, settings.emitted .utility id⟩

/-- A verdict contributes what the plugin emits. -/
theorem judge_contribution (judged : settings.judge id = .ok verdict) :
    verdict.contribution?.getD ⟨[], []⟩ = settings.contribution id := by
  rcases judge_eq_ok.mp judged with ⟨disabled, rfl⟩ | ⟨enabled, _, _, unresolved, rfl⟩ |
    ⟨enabled, styles, _, resolved, contributed, rfl⟩
  · simp [contribution, emitted, disabled, Verdict.contribution?]
  · simp [contribution, emitted, enabled, unresolved, Verdict.contribution?]
  · obtain ⟨_, _, rfl⟩ := contributionOf_eq_ok.mp contributed
    simp [contribution, emitted, enabled, resolved, Verdict.contribution?, StyleGroup.forest]

/-! ## All plugins in turn -/

/-- The verdicts of a building that no fault ended contribute what the plugins of the order
emit, one after the other. -/
theorem judgeAll_contributions {verdicts : List (PluginId × Verdict)}
    (judged : settings.judgeAll order = (verdicts, none)) (part : Contribution → List String)
    (nothing : part ⟨[], []⟩ = []) :
    (verdicts.filterMap fun (_, verdict) => verdict.contribution?).flatMap part =
      order.flatMap fun id => part (settings.contribution id) := by
  induction order generalizing verdicts with
  | nil =>
    cases judged
    rfl
  | cons id rest inductionHypothesis =>
    rw [judgeAll] at judged
    cases first : settings.judge id with
    | error fault =>
      simp only [first] at judged
      cases judged
    | ok verdict =>
      simp only [first, Prod.mk.injEq] at judged
      obtain ⟨rfl, faultless⟩ := judged
      have later := inductionHypothesis (Prod.ext rfl faultless)
      have contributed := judge_contribution first
      cases made : verdict.contribution? with
      | some contribution =>
        rw [made] at contributed
        simp only [List.filterMap_cons, made, List.flatMap_cons, later, ← contributed]
        rfl
      | none =>
        rw [made] at contributed
        simp only [List.filterMap_cons, made, List.flatMap_cons, later, ← contributed]
        simp [nothing]

/-- The selectors that the building puts together, in their order, with repetitions. -/
def assembled (settings : IndexSettings) (order : List PluginId) : List String :=
  match settings.policy with
  | .componentsFirst =>
    order.flatMap (settings.emitted .component) ++ order.flatMap (settings.emitted .utility)
  | .componentsLast =>
    order.flatMap (settings.emitted .utility) ++ order.flatMap (settings.emitted .component)
  | .asIs => order.flatMap settings.interleaved

/-- The fault with which a plugin ends the building, if it does. -/
def faultOf? (settings : IndexSettings) (id : PluginId) : Option Fault :=
  match settings.judge id with
  | .ok _ => none
  | .error fault => some fault

/-- A plugin ends the building with the fault of its judging. -/
theorem faultOf?_eq_some {fault : Fault} :
    settings.faultOf? id = some fault ↔ settings.judge id = .error fault := by
  unfold faultOf?
  cases settings.judge id <;> simp

/-- A plugin does not end the building when it can be judged. -/
theorem faultOf?_eq_none :
    settings.faultOf? id = none ↔ ∃ verdict, settings.judge id = .ok verdict := by
  unfold faultOf?
  cases settings.judge id <;> simp

/-- The first plugin that ends the building says with which fault. -/
theorem judgeAll_fault : (settings.judgeAll order).2 = order.findSome? settings.faultOf? := by
  induction order with
  | nil => rfl
  | cons id rest inductionHypothesis =>
    rw [judgeAll, List.findSome?_cons, faultOf?]
    cases settings.judge id with
    | error fault => rfl
    | ok verdict => exact inductionHypothesis

/-- Judging plugins in turn meets no fault exactly when none of them is one. -/
theorem judgeAll_faultless_iff :
    (settings.judgeAll order).2 = none ↔
      ∀ id ∈ order, ∃ verdict, settings.judge id = .ok verdict := by
  simp only [judgeAll_fault, List.findSome?_eq_none_iff, faultOf?_eq_none]

/-- The building fails with the fault of the first plugin that ends it. -/
theorem build_eq_error {fault : Fault} :
    (settings.build order).outcome = .error fault ↔
      order.findSome? settings.faultOf? = some fault := by
  rw [← judgeAll_fault]
  unfold build
  cases settings.judgeAll order with
  | mk verdicts ended => cases ended <;> simp

/-- The index is built when no plugin ends the building, and it keeps the first occurrences of
what the building puts together. -/
theorem build_eq_ok {index : SelectorIndex String} :
    (settings.build order).outcome = .ok index ↔
      (∀ id ∈ order, ∃ verdict, settings.judge id = .ok verdict) ∧
        index.selectors = (settings.assembled order).eraseDups := by
  rw [← judgeAll_faultless_iff, build]
  cases judged : settings.judgeAll order with
  | mk verdicts fault =>
    cases fault with
    | some fault => simp
    | none =>
      have gathered := judgeAll_contributions judged
      have assembles : settings.policy.assemble
          (verdicts.filterMap fun (_, verdict) => verdict.contribution?) =
            settings.assembled order := by
        have components := gathered Contribution.components rfl
        have utilities := gathered Contribution.utilities rfl
        have both := gathered (fun contribution =>
          alphabetical contribution.components ++ alphabetical contribution.utilities)
            (by simp [alphabetical])
        simp only [GroupPolicy.assemble, assembled, components, utilities, both]
        rfl
      constructor
      · rintro ⟨⟩
        exact ⟨rfl, congrArg List.eraseDups assembles⟩
      · rintro ⟨_, same⟩
        rw [← assembles] at same
        exact congrArg (Except.ok ∘ SelectorIndex.mk) same.symm

/-- The building has the fault of the first plugin that ends it, or else the index of what it puts
together. -/
theorem build_outcome (settings : IndexSettings) (order : List PluginId) :
    (settings.build order).outcome =
      match order.findSome? settings.faultOf? with
      | some fault => .error fault
      | none => .ok (.ofList (settings.assembled order)) := by
  cases ended : order.findSome? settings.faultOf? with
  | some fault => exact build_eq_error.mpr ended
  | none =>
    rw [← judgeAll_fault, judgeAll_faultless_iff] at ended
    exact build_eq_ok.mpr ⟨ended, rfl⟩

/-- A selector is put together with the others exactly when some plugin emits it. -/
theorem mem_assembled_iff {selector : String} :
    selector ∈ settings.assembled order ↔
      ∃ id ∈ order, ∃ group, selector ∈ settings.emitted group id := by
  have either : ∀ id, (∃ group, selector ∈ settings.emitted group id) ↔
      selector ∈ settings.emitted .component id ∨ selector ∈ settings.emitted .utility id := by
    intro id
    constructor
    · rintro ⟨_ | _, emitted⟩
      · exact .inl emitted
      · exact .inr emitted
    · rintro (emitted | emitted)
      · exact ⟨.component, emitted⟩
      · exact ⟨.utility, emitted⟩
  simp only [either]
  cases policy : settings.policy with
  | componentsFirst => simp [assembled, policy, and_or_left, exists_or]
  | componentsLast => simp [assembled, policy, and_or_left, exists_or, or_comm]
  | asIs => simp [assembled, interleaved, policy, mem_alphabetical_iff]

/-! ## Sorting inside the groups -/

/-- Sorted selectors are the same, whether they had been sorted before or not. -/
theorem alphabetical_emitted (sorted : Bool) (group : StyleGroup) (id : PluginId) :
    alphabetical ({ settings with sorted }.emitted group id) =
      alphabetical (settings.emitted group id) := by
  have selectors : ∀ (forest : StyleForest) (sorted : Bool),
      alphabetical (forest.selectors sorted) = alphabetical forest.classNames.eraseDups := by
    intro forest sorted
    cases sorted with
    | false => rfl
    | true => exact alphabetical_alphabetical _
  have sameStyles : { settings with sorted }.styles id = settings.styles id := rfl
  unfold emitted
  rw [sameStyles]
  cases Config.enables settings.config id with
  | error fault => rfl
  | ok enabled =>
    cases enabled with
    | false => rfl
    | true =>
      cases settings.styles id with
      | error fault => rfl
      | ok styles => exact (selectors _ _).trans (selectors _ _).symm

/-- Whether a plugin ends the building does not depend on sorting. -/
theorem judge_returns_sorted (sorted : Bool) (judged : settings.judge id = .ok verdict) :
    ∃ verdict, { settings with sorted }.judge id = .ok verdict := by
  rcases judge_eq_ok.mp judged with ⟨disabled, _⟩ | ⟨enabled, plugin, reason, unresolved, _⟩ |
    ⟨enabled, styles, _, resolved, contributed, _⟩
  · exact ⟨_, judge_eq_ok.mpr (.inl ⟨disabled, rfl⟩)⟩
  · exact ⟨_, judge_eq_ok.mpr (.inr (.inl ⟨enabled, plugin, reason, unresolved, rfl⟩))⟩
  · obtain ⟨faultless, faultlessToo, _⟩ := contributionOf_eq_ok.mp contributed
    exact ⟨_, judge_eq_ok.mpr (.inr (.inr ⟨enabled, styles, _, resolved,
      contributionOf_eq_ok.mpr ⟨faultless, faultlessToo, rfl⟩, rfl⟩))⟩

/-- Without grouping, the index does not depend on sorting inside the groups. -/
theorem build_sorted {index : SelectorIndex String} (sorted : Bool)
    (ungrouped : settings.policy = .asIs) (built : (settings.build order).outcome = .ok index) :
    ({ settings with sorted }.build order).outcome = .ok index := by
  obtain ⟨judged, selectors⟩ := build_eq_ok.mp built
  refine build_eq_ok.mpr ⟨?_, ?_⟩
  · intro id ordered
    obtain ⟨verdict, judged⟩ := judged id ordered
    exact judge_returns_sorted sorted judged
  · have same : { settings with sorted }.interleaved = settings.interleaved := by
      funext id
      simp only [interleaved, alphabetical_emitted]
    have assembledAlike : { settings with sorted }.assembled order = settings.assembled order := by
      simp only [assembled, ungrouped]
      exact congrArg order.flatMap same
    rw [selectors, assembledAlike]

end IndexSettings

end ClassOrder
