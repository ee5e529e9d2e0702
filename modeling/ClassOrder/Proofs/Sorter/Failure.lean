import ClassOrder.Proofs.ClassList.Arrangement
import ClassOrder.Proofs.Sorter.Changes

/-!
# What a failed call leaves behind

A call fails in one of two stages. When its argument cannot be taken in, nothing has
happened. When the index cannot be rebuilt, the argument is in force already and only the
index is the old one. So a failed call leaves the sorter alone exactly when it was given
nothing new, and whatever fails, the index stays until some later call returns. Class lists
are then sorted by the old index, but at the separator of the new configuration.
-/
namespace ClassOrder.Sorter

open Fallible

/-- The sorter with the argument of a call in force and the index not rebuilt yet. -/
def takenIn (sorter : Sorter) : Call → Except Fault Sorter
  | .setPluginOrder order =>
    (order.resolve sorter.catalog.defaultOrder).map fun ids => { sorter with pluginOrder := ids }
  | .reconfigure config =>
    (resolveOver sorter.engine config).map fun resolved => { sorter with config := resolved }

/-- None of the calls returns. -/
def NoneReturns (sorter : Sorter) : List Call → Prop
  | [] => True
  | call :: rest => (∃ fault, (sorter.perform call).outcome = .error fault) ∧
      NoneReturns (sorter.perform call).sorter rest

variable {sorter other next : Sorter} {call : Call} {fault : Fault}

/-! ## One call -/

/-- A call rebuilds the index once its argument is in force, and does nothing when the argument
cannot be taken in. -/
theorem perform_eq (sorter : Sorter) (call : Call) :
    sorter.perform call =
      match sorter.takenIn call with
      | .ok next => next.rebuild
      | .error fault => { sorter, outcome := .error fault, remarks := [] } := by
  cases call with
  | setPluginOrder order =>
    simp only [perform, setPluginOrder, takenIn]
    cases order.resolve sorter.catalog.defaultOrder <;> rfl
  | reconfigure config =>
    simp only [perform, reconfigure, takenIn]
    cases resolveOver sorter.engine config <;> rfl

/-- Taking an argument in leaves the index and everything it is built with, apart from what
the argument replaces. -/
theorem takenIn_fixed (taken : sorter.takenIn call = .ok next) :
    next.index = sorter.index ∧ next.options = sorter.options ∧
      ((∃ order, call = .setPluginOrder order) → next.config = sorter.config) ∧
      ((∃ config, call = .reconfigure config) → next.pluginOrder = sorter.pluginOrder) := by
  cases call with
  | setPluginOrder order =>
    obtain ⟨ids, _, rfl⟩ := map_eq_ok.mp taken
    exact ⟨rfl, rfl, fun _ => rfl, by rintro ⟨_, ⟨⟩⟩⟩
  | reconfigure config =>
    obtain ⟨resolved, _, rfl⟩ := map_eq_ok.mp taken
    exact ⟨rfl, rfl, by rintro ⟨_, ⟨⟩⟩, fun _ => rfl⟩

/-- A call that fails was refused and left the sorter alone, or it left its argument in force
when the index could not be rebuilt. -/
theorem failed_cases (failed : (sorter.perform call).outcome = .error fault) :
    (sorter.takenIn call = .error fault ∧ (sorter.perform call).sorter = sorter) ∨
      ∃ next, sorter.takenIn call = .ok next ∧ next.rebuilt = .error fault ∧
        (sorter.perform call).sorter = next := by
  rw [perform_eq] at failed ⊢
  cases taken : sorter.takenIn call with
  | error cause =>
    simp only [taken] at failed ⊢
    cases failed
    exact .inl ⟨rfl, trivial⟩
  | ok next =>
    simp only [taken] at failed ⊢
    rcases rebuild_cases next with ⟨index, _, returned, _⟩ | ⟨cause, broken, stopped, left⟩
    · rw [returned] at failed
      cases failed
    · rw [stopped] at failed
      cases failed
      exact .inr ⟨next, rfl, broken, left⟩

/-- A call that fails leaves the old index. -/
theorem failed_index (failed : (sorter.perform call).outcome = .error fault) :
    (sorter.perform call).sorter.index = sorter.index := by
  rcases failed_cases failed with ⟨_, left⟩ | ⟨next, taken, _, left⟩
  · rw [left]
  · rw [left]
    exact (takenIn_fixed taken).1

/-- How class lists are sorted depends on the options, the index and the separator alone. -/
theorem sort_congr (options : other.options = sorter.options) (index : other.index = sorter.index)
    (separator : other.separator = sorter.separator) (classes : Plain) :
    other.sort classes = sorter.sort classes := by
  simp only [sort, rules, options, index, separator]

/-! ## Calls in turn -/

/-- The index stays as long as no call returns. -/
theorem performAll_index_of_noneReturns (calls : List Call) (none : sorter.NoneReturns calls) :
    (sorter.performAll calls).index = sorter.index := by
  induction calls generalizing sorter with
  | nil => rfl
  | cons call rest inductionHypothesis =>
    obtain ⟨⟨fault, failed⟩, noneLater⟩ := none
    exact (inductionHypothesis noneLater).trans (failed_index failed)

/-- A failed call leaves the sorter as it was exactly when the argument was refused or what it
stands for was in force already. Otherwise the argument is in force with the old index, and the
index stays the old one until a call returns. A failed order changes neither the configuration nor
how any class list is sorted, and a failed configuration changes this only through its separator.

Proof: a call that fails was refused, which leaves the sorter, or what it asks for was taken in
and the rebuild failed, which leaves everything else. The later calls follow by induction. -/
theorem failed_call_atomic_iff (sorter : Sorter) (call : Call) (fault : Fault)
    (failed : (sorter.perform call).outcome = .error fault) :
    ((sorter.perform call).sorter = sorter ↔
        ∀ next, sorter.takenIn call = .ok next → next = sorter) ∧
      (∀ later, (sorter.perform call).sorter.NoneReturns later →
        ((sorter.perform call).sorter.performAll later).index = sorter.index) ∧
      ((∃ order, call = .setPluginOrder order) →
        (sorter.perform call).sorter.config = sorter.config ∧
        ∀ classes, (sorter.perform call).sorter.sort classes = sorter.sort classes) ∧
      ((∃ config, call = .reconfigure config) →
        (sorter.perform call).sorter.pluginOrder = sorter.pluginOrder ∧
        ((sorter.perform call).sorter.separator = sorter.separator →
          ∀ classes, (sorter.perform call).sorter.sort classes = sorter.sort classes)) := by
  have stale : ∀ later, (sorter.perform call).sorter.NoneReturns later →
      ((sorter.perform call).sorter.performAll later).index = sorter.index := fun later none =>
    (performAll_index_of_noneReturns later none).trans (failed_index failed)
  rcases failed_cases failed with ⟨refused, left⟩ | ⟨next, taken, _, left⟩
  · have nothingNew : ∀ next, sorter.takenIn call = .ok next → next = sorter := by
      intro next taken
      rw [refused] at taken
      cases taken
    refine ⟨iff_of_true left nothingNew, stale, fun _ => ?_, fun _ => ?_⟩
    · rw [left]
      exact ⟨rfl, fun _ => rfl⟩
    · rw [left]
      exact ⟨rfl, fun _ _ => rfl⟩
  · obtain ⟨index, options, config, pluginOrder⟩ := takenIn_fixed taken
    refine ⟨?_, stale, fun ordered => ?_, fun configured => ?_⟩
    · rw [left]
      constructor
      · rintro same other takenToo
        cases taken.symm.trans takenToo
        exact same
      · intro nothingNew
        exact nothingNew next taken
    · have separator : next.separator = sorter.separator := by
        simp only [Sorter.separator, options, config ordered]
      rw [left]
      exact ⟨config ordered, sort_congr options index separator⟩
    · rw [left]
      exact ⟨pluginOrder configured, sort_congr options index⟩

/-- A configuration with another separator that names its plugins by a number. -/
def numbered : Setting :=
  .mapping [("separator", .text "_"), ("corePlugins", .integer 5)]

/-- After it has failed, orders that could be taken in before fail as well, and the index stays
the first one. -/
theorem failed_call_atomic_iff_stale_index :
    let sorter : Sorter := ⟨{}, twoPlugins, verbatim, .mapping [], [.text "card", .text "link"],
      ⟨["card", "link"]⟩⟩
    let later : List Call := [.setPluginOrder (.given (.list [.text "link"]))]
    (sorter.perform (.reconfigure numbered)).outcome = .error (.misused .searched "int") ∧
      (sorter.perform (.reconfigure numbered)).sorter.NoneReturns later ∧
      ((sorter.perform (.reconfigure numbered)).sorter.performAll later).pluginOrder =
        [.text "link"] ∧
      ((sorter.perform (.reconfigure numbered)).sorter.performAll later).index =
        ⟨["card", "link"]⟩ := by
  intro sorter later
  have failed : (sorter.perform (.reconfigure numbered)).outcome =
      .error (.misused .searched "int") := by
    with_unfolding_all rfl
  have noneReturns : (sorter.perform (.reconfigure numbered)).sorter.NoneReturns later := by
    refine ⟨⟨.misused .searched "int", ?_⟩, trivial⟩
    with_unfolding_all rfl
  obtain ⟨_, stale, _, _⟩ := failed_call_atomic_iff sorter (.reconfigure numbered) _ failed
  exact ⟨failed, noneReturns, rfl, stale later noneReturns⟩

/-- The order of the plugin for display classes alone. -/
def displayAlone : PluginOrder :=
  .given (.list [.text "display"])

/-- The separator of a sorter, when it is a text. -/
def mark? (sorter : Sorter) : Option String :=
  match sorter.separator with
  | .ok (.text mark) => some mark
  | _ => none

/-- A sorter with a text as its separator sorts by its rules at this separator. -/
theorem sort_given {mark : String} {rules : SortRules} {classes : Plain} {tokens : List String}
    (marked : sorter.mark? = some mark) (ruled : sorter.rules = .ok rules) (separated : mark ≠ "")
    (given : ClassToken.Given classes tokens) :
    sorter.sort classes = .ok ({ rules with separator := mark }.sorted tokens) := by
  have stands : sorter.separator = .ok (.text mark) := by
    unfold mark? at marked
    split at marked
    · rename_i other found
      cases marked
      exact found
    · cases marked
  have sorts : ClassToken.listOf classes >>=
      SortRules.sortValues { rules with separator := mark } (.text mark : Setting) =
        .ok ({ rules with separator := mark }.sorted tokens) :=
    SortRules.sortValues_given separated given
  rw [sort, stands, ruled]
  exact sorts

/-- A sorter with a text as its separator sorts by its index at this separator. -/
theorem sort_of_mark {mark : String} (marked : sorter.mark? = some mark) (separated : mark ≠ "")
    (usual : sorter.options = {}) (tokens : List String) :
    sorter.sort (.list (tokens.map .text)) =
      .ok (SortRules.sorted { index := sorter.index, separator := mark } tokens) := by
  have ruled : sorter.rules = .ok { index := sorter.index } := by
    rw [rules, usual]
    rfl
  exact sort_given marked ruled separated (.listed tokens)

/-- The classes of the display plugin, as an index. -/
def displayIndex : SelectorIndex String :=
  ⟨["block", "inline-block", "inline", "flex", "inline-flex", "grid", "hidden"]⟩

/-- At a colon the first token is one unknown class, and at an underscore it is a known class at
a breakpoint. -/
theorem sorted_displayIndex :
    SortRules.sorted { index := displayIndex, separator := ":" } ["md_flex", "flex"] =
        ["md_flex", "flex"] ∧
      SortRules.sorted { index := displayIndex, separator := "_" } ["md_flex", "flex"] =
        ["flex", "md_flex"] := by
  let rules (separator : String) : SortRules := { index := displayIndex, separator }
  have unknown : (rules ":").key "md_flex" = ⟨0, 0, -1, -1⟩ := by cbv
  have known : (rules ":").key "flex" = ⟨1, 0, -1, 3⟩ := by cbv
  have marked : (rules "_").key "md_flex" = ⟨1, 1, 1, 3⟩ := by cbv
  have unmarked : (rules "_").key "flex" = ⟨1, 0, -1, 3⟩ := by cbv
  simp only [rules] at unknown known marked unmarked
  simp [SortRules.sorted, List.mergeSort, List.MergeSort.Internal.splitInTwo, unknown, known,
    marked, unmarked, SortKey.atMost]

/-- The configuration fails, and yet class lists are sorted at its separator from then on. -/
theorem failed_call_changes_sorting :
    ∃ sorter fault,
      (create (.mapping []) {} .builtin .builtin (some displayAlone)).outcome = .ok sorter ∧
      (sorter.perform (.reconfigure numbered)).outcome = .error fault ∧
      sorter.sort (.list [.text "md_flex", .text "flex"]) = .ok ["md_flex", "flex"] ∧
      (sorter.perform (.reconfigure numbered)).sorter.sort
        (.list [.text "md_flex", .text "flex"]) = .ok ["flex", "md_flex"] := by
  have evaluated :
      (create (.mapping []) {} .builtin .builtin (some displayAlone)).outcome.toOption.map
        (fun sorter => (sorter.index, sorter.mark?,
          (sorter.perform (.reconfigure numbered)).outcome.toOption,
          (sorter.perform (.reconfigure numbered)).sorter.mark?)) =
      some (displayIndex, some ":", none, some "_") := by
    decide +kernel
  obtain ⟨sorter, made, found⟩ := Option.map_eq_some_iff.mp evaluated
  simp only [Prod.mk.injEq] at found
  obtain ⟨index, colon, fails, underscore⟩ := found
  have created := toOption_eq_some.mp made
  obtain ⟨usual, _⟩ := (create_eq_ok rfl).mp created
  cases performed : (sorter.perform (.reconfigure numbered)).outcome with
  | ok value =>
    rw [performed] at fails
    cases fails
  | error fault =>
    have stale := (failed_index performed).trans index
    have stillUsual := ((perform_fixed sorter (.reconfigure numbered)).1).trans usual
    have before := sort_of_mark colon (by decide) usual ["md_flex", "flex"]
    have after := sort_of_mark underscore (by decide) stillUsual ["md_flex", "flex"]
    rw [index, sorted_displayIndex.1] at before
    rw [stale, sorted_displayIndex.2] at after
    exact ⟨sorter, fault, created, performed, before, after⟩

end ClassOrder.Sorter
