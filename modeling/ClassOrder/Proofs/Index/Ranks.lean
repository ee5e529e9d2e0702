import ClassOrder.Proofs.Index.Gathering

/-!
# What decides a selector's rank

A selector may be emitted by several plugins, and by one plugin both as a component and as a
utility. It has one rank all the same, which is decided by one of its emissions. Which one
depends on the policy: grouping looks for the first plugin that emits it in the leading
group, and only then for one that emits it in the other; without grouping the first plugin
that emits it at all decides. First occurrences are kept twice on the way, for each plugin
and for the whole list, and neither changes which emission that is.
-/
namespace ClassOrder.IndexSettings

variable {settings : IndexSettings} {order : List PluginId}

/-- The selectors that a plugin emits in either group, components first. -/
def emittedAtAll (settings : IndexSettings) (id : PluginId) : List String :=
  settings.emitted .component id ++ settings.emitted .utility id

/-- What decides a rank under a policy that puts one group first: whether some plugin emits
the selector in the leading group, then the first plugin that emits it there, or else in
the other group, and then the place in what this plugin emits. -/
def groupedRank (settings : IndexSettings) (order : List PluginId) (leading : StyleGroup)
    (selector : String) : List Nat :=
  if ∃ id ∈ order, selector ∈ settings.emitted leading id then
    [0, firstOwner (settings.emitted leading) order selector,
      placeInBlock (settings.emitted leading) order selector]
  else
    [1, firstOwner (settings.emitted leading.other) order selector,
      placeInBlock (settings.emitted leading.other) order selector]

/-- What decides a rank without grouping, before the selectors themselves are compared: the
first plugin that emits the selector at all, and whether this plugin emits it as a
component. -/
def interleavedRank (settings : IndexSettings) (order : List PluginId) (selector : String) :
    List Nat :=
  [firstOwner settings.emittedAtAll order selector,
    match order.find? fun id => (settings.emittedAtAll id).contains selector with
    | some id => if selector ∈ settings.emitted .component id then 0 else 1
    | none => 1]

/-- Whether one selector has to stand before another one. -/
def Precedes (settings : IndexSettings) (order : List PluginId) (left right : String) : Prop :=
  match settings.policy with
  | .componentsFirst =>
    settings.groupedRank order .component left < settings.groupedRank order .component right
  | .componentsLast =>
    settings.groupedRank order .utility left < settings.groupedRank order .utility right
  | .asIs =>
    settings.interleavedRank order left < settings.interleavedRank order right ∨
      settings.interleavedRank order left = settings.interleavedRank order right ∧ left < right

/-! ## What decides -/

/-- With one group in front, the order of first occurrences is the one that the grouped ranks
describe. -/
theorem idxOf_grouped_lt_iff (leading : StyleGroup) (left right : String) :
    (order.flatMap (settings.emitted leading) ++
        order.flatMap (settings.emitted leading.other)).idxOf left <
      (order.flatMap (settings.emitted leading) ++
        order.flatMap (settings.emitted leading.other)).idxOf right ↔
      settings.groupedRank order leading left < settings.groupedRank order leading right := by
  rw [idxOf_append_lt_iff, idxOf_flatMap_lt_iff, idxOf_flatMap_lt_iff, List.mem_flatMap,
    List.mem_flatMap, groupedRank, groupedRank]
  by_cases leftLeads : ∃ id ∈ order, left ∈ settings.emitted leading id
  · by_cases rightLeads : ∃ id ∈ order, right ∈ settings.emitted leading id <;>
      simp [leftLeads, rightLeads, List.cons_lt_cons_iff]
  · by_cases rightLeads : ∃ id ∈ order, right ∈ settings.emitted leading id <;>
      simp [leftLeads, rightLeads, List.cons_lt_cons_iff]

/-- The first plugin that emits a selector at all, and what it says about the rank. -/
theorem interleavedRank_of_emitted {selector : String}
    (emitted : ∃ id ∈ order, selector ∈ settings.emittedAtAll id) :
    ∃ id, order[firstOwner settings.emittedAtAll order selector]? = some id ∧
      order.find? (fun id => (settings.emittedAtAll id).contains selector) = some id ∧
      selector ∈ settings.emittedAtAll id ∧
      settings.interleavedRank order selector =
        [firstOwner settings.emittedAtAll order selector,
          if selector ∈ settings.emitted .component id then 0 else 1] := by
  obtain ⟨other, ordered, member⟩ := emitted
  cases found : order.find? fun id => (settings.emittedAtAll id).contains selector with
  | none =>
    have missing := List.find?_eq_none.mp found other ordered
    simp [member] at missing
  | some id =>
    refine ⟨id, find?_eq_getElem?_firstOwner.symm.trans found, rfl, ?_, ?_⟩
    · simpa using List.find?_some found
    · simp only [interleavedRank, found]

/-- Without grouping, the order of first occurrences is the one that the interleaved ranks
describe, and where they are equal, that of the code points. -/
theorem idxOf_interleaved_lt_iff {left right : String}
    (leftEmitted : ∃ id ∈ order, left ∈ settings.emittedAtAll id)
    (rightEmitted : ∃ id ∈ order, right ∈ settings.emittedAtAll id) :
    (order.flatMap settings.interleaved).idxOf left <
        (order.flatMap settings.interleaved).idxOf right ↔
      settings.interleavedRank order left < settings.interleavedRank order right ∨
        settings.interleavedRank order left = settings.interleavedRank order right ∧
          left < right := by
  have contains : ∀ (selector : String) (id : PluginId),
      (settings.interleaved id).contains selector =
        (settings.emittedAtAll id).contains selector := by
    intro selector id
    simp [interleaved, emittedAtAll, mem_alphabetical_iff]
  have owners : ∀ selector : String, firstOwner settings.interleaved order selector =
      firstOwner settings.emittedAtAll order selector := by
    intro selector
    simp only [firstOwner, contains]
  obtain ⟨leftId, leftPlace, leftFound, leftMember, leftRank⟩ :=
    interleavedRank_of_emitted leftEmitted
  obtain ⟨rightId, rightPlace, rightFound, rightMember, rightRank⟩ :=
    interleavedRank_of_emitted rightEmitted
  have leftStands : placeInBlock settings.interleaved order left =
      (settings.interleaved leftId).idxOf left := by
    apply placeInBlock_of_find?
    simp only [contains, leftFound]
  have rightStands : placeInBlock settings.interleaved order right =
      (settings.interleaved rightId).idxOf right := by
    apply placeInBlock_of_find?
    simp only [contains, rightFound]
  rw [idxOf_flatMap_lt_iff, leftRank, rightRank, leftStands, rightStands, owners, owners]
  by_cases sameOwner : firstOwner settings.emittedAtAll order left =
      firstOwner settings.emittedAtAll order right
  · have samePlugin : leftId = rightId := by
      rw [sameOwner, rightPlace] at leftPlace
      cases leftPlace
      rfl
    subst samePlugin
    have inside := idxOf_alphabetical_append_lt_iff leftMember rightMember
    simp only [sameOwner, List.cons_lt_cons_iff, List.cons.injEq, Nat.lt_irrefl, true_and,
      false_or, List.not_lt_nil, and_false, or_false, and_true, interleaved, inside]
  · simp [List.cons_lt_cons_iff, sameOwner]

/-- What the building puts together stands in the order of what decides the ranks. -/
theorem idxOf_assembled_lt_iff {left right : String}
    (leftEmitted : left ∈ settings.assembled order)
    (rightEmitted : right ∈ settings.assembled order) :
    (settings.assembled order).idxOf left < (settings.assembled order).idxOf right ↔
      settings.Precedes order left right := by
  have atAll : ∀ selector ∈ settings.assembled order,
      ∃ id ∈ order, selector ∈ settings.emittedAtAll id := by
    intro selector member
    obtain ⟨id, ordered, _ | _, emitted⟩ := mem_assembled_iff.mp member
    · exact ⟨id, ordered, List.mem_append_left _ emitted⟩
    · exact ⟨id, ordered, List.mem_append_right _ emitted⟩
  cases policy : settings.policy with
  | componentsFirst =>
    simp only [assembled, Precedes, policy]
    exact idxOf_grouped_lt_iff .component left right
  | componentsLast =>
    simp only [assembled, Precedes, policy]
    exact idxOf_grouped_lt_iff .utility left right
  | asIs =>
    simp only [assembled, Precedes, policy]
    exact idxOf_interleaved_lt_iff (atAll left leftEmitted) (atAll right rightEmitted)

/-! ## The index -/

/-- An index that is built has exactly the selectors that the enabled, resolvable plugins of the
order emit, each once. Of two of them, the one whose rank is decided to be lower stands first: by
group, first plugin in the group, and place there when one group is in front, and otherwise by
first plugin at all, group in that plugin, and code points. In the latter case the index is the
same whether selectors are sorted inside the groups or not.

Proof: the index lists the first occurrences of what the groups put together, so two of its
positions compare as two first places in that list, and these compare first by the block that has
the place. -/
theorem build_only_first_emissions (settings : IndexSettings) (order : List PluginId)
    (index : SelectorIndex String) (built : (settings.build order).outcome = .ok index) :
    index.selectors.Nodup ∧
      (∀ selector, selector ∈ index.selectors ↔
        ∃ id ∈ order, ∃ group, selector ∈ settings.emitted group id) ∧
      (∀ left ∈ index.selectors, ∀ right ∈ index.selectors,
        (index.position left < index.position right ↔ settings.Precedes order left right)) ∧
      (settings.policy = .asIs →
        ∀ sorted, ({ settings with sorted }.build order).outcome = .ok index) := by
  obtain ⟨_, selectors⟩ := build_eq_ok.mp built
  refine ⟨?_, ?_, ?_, fun ungrouped sorted => build_sorted sorted ungrouped built⟩
  · rw [selectors]
    exact eraseDups_nodup _
  · intro selector
    rw [selectors, List.mem_eraseDups, mem_assembled_iff]
  · intro left leftMember right rightMember
    rw [SelectorIndex.position_of_mem leftMember, SelectorIndex.position_of_mem rightMember,
      Int.ofNat_lt]
    rw [selectors, List.mem_eraseDups] at leftMember rightMember
    rw [selectors, idxOf_eraseDups_lt_iff]
    exact idxOf_assembled_lt_iff leftMember rightMember

/-- An engine that knows two plugins by name. Both emit a link, one as a utility and the other
as a component. -/
def twoNames : Engine where
  defaults := .mapping []
  resolve configs := .ok (configs.headD .null)
  process plugins _ :=
    match plugins with
    | [.named "card"] => .ok (.ofStyles {
        components := [.rule ".card" []]
        utilities := [.rule ".link" []] })
    | _ => .ok (.ofStyles {
        components := [.rule ".link" []]
        utilities := [.rule ".card" [], .rule ".wide" []] })

/-- Settings for the plugins that this engine knows. -/
def overlapping : IndexSettings where
  config := .mapping []
  catalog := { plugins := .ofPairs [(.text "card", .named "card"), (.text "link", .named "link")] }
  engine := twoNames

/-- With components first, the link ranks by its emission as a component, which is not the
first one. -/
theorem build_only_first_emissions_overlapping :
    (overlapping.build [.text "card", .text "link"]).outcome = .ok ⟨["card", "link", "wide"]⟩ ∧
      overlapping.Precedes [.text "card", .text "link"] "link" "wide" := by
  have built : (overlapping.build [.text "card", .text "link"]).outcome =
      .ok ⟨["card", "link", "wide"]⟩ := by
    with_unfolding_all rfl
  obtain ⟨_, _, ranks, _⟩ := build_only_first_emissions _ _ _ built
  exact ⟨built, (ranks "link" (by simp) "wide" (by simp)).mp (by decide)⟩

end ClassOrder.IndexSettings
