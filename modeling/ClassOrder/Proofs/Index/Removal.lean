import ClassOrder.Proofs.ClassList.Arrangement
import ClassOrder.Proofs.ClassList.Ranking
import ClassOrder.Proofs.Index.Naming
import ClassOrder.Proofs.Index.Ranks

/-!
# Removing a plugin

An order may be used without one of its plugins. The selectors that this plugin emits can
move, because another plugin's emission of them counts now, and what stands behind them
changes its rank. The selectors that it does not emit are put together as before once all
others are left out, so the two indexes agree on them, and class lists made of them are
sorted alike.
-/
namespace ClassOrder

open Fallible

/-- The order without the plugin of a name. -/
def PluginId.removedFrom (id : PluginId) (order : List PluginId) : List PluginId :=
  order.filter fun other => !other.same id

namespace IndexSettings

variable {settings : IndexSettings} {order : List PluginId} {id other : PluginId}
  {index rest : SelectorIndex String} {selector : String}

/-- Whether a plugin does not emit a selector, in either group. -/
def spares (settings : IndexSettings) (id : PluginId) (selector : String) : Bool :=
  !(settings.emittedAtAll id).contains selector

/-- Removing a plugin leaves everything that it does not emit, in its order. -/
theorem filter_assembled_removedFrom :
    (settings.assembled (id.removedFrom order)).filter (settings.spares id) =
      (settings.assembled order).filter (settings.spares id) := by
  have spared : ∀ group other, (!other.same id) = false →
      ∀ selector ∈ settings.emitted group other, settings.spares id selector = false := by
    intro group other alike selector emitted
    have emittedToo := mem_emitted_of_same (by simpa using alike) emitted
    cases group <;> simp [spares, emittedAtAll, emittedToo]
  have interleaved : ∀ other, (!other.same id) = false →
      ∀ selector ∈ settings.interleaved other, settings.spares id selector = false := by
    intro other alike selector emitted
    rw [IndexSettings.interleaved, List.mem_append, mem_alphabetical_iff,
      mem_alphabetical_iff] at emitted
    rcases emitted with emitted | emitted
    · exact spared .component other alike selector emitted
    · exact spared .utility other alike selector emitted
  have grouped : ∀ group,
      ((id.removedFrom order).flatMap (settings.emitted group)).filter (settings.spares id) =
        (order.flatMap (settings.emitted group)).filter (settings.spares id) :=
    fun group => filter_flatMap_filter (spared group)
  unfold assembled
  cases settings.policy with
  | componentsFirst => simp only [List.filter_append, grouped]
  | componentsLast => simp only [List.filter_append, grouped]
  | asIs => exact filter_flatMap_filter interleaved

/-- The index without a plugin agrees with the full one on what the plugin does not emit. -/
theorem build_removedFrom_agreeOn (built : (settings.build order).outcome = .ok index)
    (rebuilt : (settings.build (id.removedFrom order)).outcome = .ok rest) :
    rest.AgreeOn (· ∉ settings.emittedAtAll id) index := by
  obtain ⟨_, full⟩ := build_eq_ok.mp built
  obtain ⟨_, reduced⟩ := build_eq_ok.mp rebuilt
  have same : (settings.assembled (id.removedFrom order)).filter (settings.spares id) =
      (settings.assembled order).filter (settings.spares id) :=
    filter_assembled_removedFrom
  have spared : ∀ selector, selector ∉ settings.emittedAtAll id →
      settings.spares id selector = true := by
    intro selector missing
    simp [spares, missing]
  have known : ∀ selector, selector ∉ settings.emittedAtAll id →
      (selector ∈ rest.selectors ↔ selector ∈ index.selectors) := by
    intro selector missing
    have kept : ∀ elements : List String,
        selector ∈ elements.filter (settings.spares id) ↔ selector ∈ elements := by
      simp [spared selector missing]
    rw [full, reduced, List.mem_eraseDups, List.mem_eraseDups, ← kept, same, kept]
  refine ⟨known, ?_⟩
  intro left right leftMissing rightMissing
  rw [SelectorIndex.position_lt_iff, SelectorIndex.position_lt_iff, known left leftMissing,
    known right rightMissing]
  have ordered : rest.selectors.idxOf left < rest.selectors.idxOf right ↔
      index.selectors.idxOf left < index.selectors.idxOf right := by
    rw [full, reduced, idxOf_eraseDups_lt_iff, idxOf_eraseDups_lt_iff,
      ← idxOf_filter_lt_iff _ (spared left leftMissing) (spared right rightMissing), same,
      idxOf_filter_lt_iff _ (spared left leftMissing) (spared right rightMissing)]
  rw [ordered]

/-- Whatever is built for an order is built without one of its plugins as well. An index and the
one without the plugin have the same ones of the selectors that the plugin emits in neither group,
in the same order. A class list of which no base class is emitted by the plugin is sorted alike by
both, with any breakpoints, any place for unknown classes and any separator.

Proof: each plugin is judged alone, so nothing that stays is judged otherwise. Among the selectors
that the plugin does not emit, the lists that are put together are the same, so the two indexes
agree there, and tokens compare alike. -/
theorem build_removed_plugin_keeps_order (settings : IndexSettings) (order : List PluginId)
    (id : PluginId) (index : SelectorIndex String)
    (built : (settings.build order).outcome = .ok index) :
    ∃ rest, (settings.build (id.removedFrom order)).outcome = .ok rest ∧
      (∀ selector, selector ∉ settings.emittedAtAll id →
        (selector ∈ rest.selectors ↔ selector ∈ index.selectors)) ∧
      (∀ left right, left ∉ settings.emittedAtAll id → right ∉ settings.emittedAtAll id →
        (rest.position left < rest.position right ↔ index.position left < index.position right)) ∧
      ∀ (rules : SortRules) (classes : Plain) (tokens : List String),
        ClassToken.Given classes tokens →
        (∀ token ∈ tokens,
          (ClassToken.split rules.separator token).base ∉ settings.emittedAtAll id) →
        ClassToken.listOf classes >>=
            { rules with index := rest }.sortValues (.text rules.separator : Plain) =
          ClassToken.listOf classes >>=
            { rules with index }.sortValues (.text rules.separator : Plain) := by
  obtain ⟨judged, _⟩ := build_eq_ok.mp built
  have judgedToo : ∀ other ∈ id.removedFrom order, ∃ verdict, settings.judge other = .ok verdict :=
    fun other kept => judged other (List.mem_filter.mp kept).1
  have rebuilt := build_eq_ok.mpr ⟨judgedToo, rfl⟩
  have agree := build_removedFrom_agreeOn built rebuilt
  refine ⟨_, rebuilt, agree.known, agree.before, ?_⟩
  intro rules classes tokens given spared
  rw [given.listOf_eq]
  exact SortRules.sortValues_agreeOn agree tokens spared

/-- An engine that knows two plugins by name. Both emit a link, one as a component and the other
as a utility. -/
def sharedLink : Engine where
  defaults := .mapping []
  resolve configs := .ok (configs.headD .null)
  process plugins _ :=
    match plugins with
    | [.named "badge"] => .ok (.ofStyles {
        components := [.rule ".link" [], .rule ".badge" []] })
    | _ => .ok (.ofStyles {
        components := [.rule ".panel" []]
        utilities := [.rule ".link" [], .rule ".wide" []] })

/-- Settings for the plugins that this engine knows. -/
def linking : IndexSettings where
  config := .mapping []
  catalog := {
    plugins := .ofPairs [(.text "badge", .named "badge"), (.text "panel", .named "panel")] }
  engine := sharedLink

/-- Without the badge plugin the link moves behind the panel, all other ranks change, and classes
for the panel and for the width are sorted as before. -/
theorem build_removed_plugin_keeps_order_shared_link :
    (linking.build [.text "badge", .text "panel"]).outcome =
        .ok ⟨["link", "badge", "panel", "wide"]⟩ ∧
      (linking.build [.text "panel"]).outcome = .ok ⟨["panel", "link", "wide"]⟩ ∧
      ∀ rules : SortRules, rules.separator = ":" →
        ClassToken.listOf (.text "md:wide wide panel") >>=
            { rules with index := ⟨["panel", "link", "wide"]⟩ }.sortValues
              (.text rules.separator : Plain) =
          ClassToken.listOf (.text "md:wide wide panel") >>=
            { rules with index := ⟨["link", "badge", "panel", "wide"]⟩ }.sortValues
              (.text rules.separator : Plain) := by
  have built : (linking.build [.text "badge", .text "panel"]).outcome =
      .ok ⟨["link", "badge", "panel", "wide"]⟩ := by
    with_unfolding_all rfl
  have reduced : (linking.build [.text "panel"]).outcome = .ok ⟨["panel", "link", "wide"]⟩ := by
    with_unfolding_all rfl
  have emitted : linking.emittedAtAll (.text "badge") = ["link", "badge"] := by
    with_unfolding_all rfl
  obtain ⟨rest, rebuilt, _, _, sorts⟩ :=
    build_removed_plugin_keeps_order linking _ (.text "badge") _ built
  cases rebuilt.symm.trans reduced
  refine ⟨built, reduced, ?_⟩
  intro rules separated
  have words : Text.words "md:wide wide panel" = ["md:wide", "wide", "panel"] := by cbv
  have marked : (ClassToken.split ":" "md:wide").base = "wide" := by cbv
  have bare : (ClassToken.split ":" "wide").base = "wide" := by cbv
  have panel : (ClassToken.split ":" "panel").base = "panel" := by cbv
  refine sorts rules _ _ (.written _) ?_
  rw [words, emitted, separated]
  simp [marked, bare, panel]

end IndexSettings

end ClassOrder
