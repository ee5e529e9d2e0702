import ClassOrder.Proofs.Config.Refusal
import ClassOrder.Proofs.Writing

/-!
# Which configuration decides

The layers of an entry of the theme are laid over each other from the bottom up, and at each
step a mapping is merged with a mapping while anything else replaces what is there. Seen
from the top, this comes to a plain rule. A layer that is not a mapping hides all that is
below it, and is itself hidden by whatever is above it. So the uppermost layer decides alone
unless it is a mapping, and otherwise the mappings that follow it from the top down are
merged, up to the first layer that is not one.
-/
namespace ClassOrder.Config

open Fallible Theme

variable {configs : List Setting} {stack : List Setting} {name : String}

/-! ## Stacks of layers -/

/-- Layers laid over each other, uppermost first. -/
def pile (stack : List Setting) : Setting :=
  stack.foldr (fun top below => overlay below top) .null

/-- The mappings from the top of a stack down to the first layer that is not a mapping. -/
def mappingsOnTop : List Setting → List (Entries Setting)
  | .mapping entries :: below => entries :: mappingsOnTop below
  | _ => []

/-- Mappings merged, the uppermost first. -/
def mergeDown (mappings : List (Entries Setting)) : Entries Setting :=
  mappings.foldr (fun top below => Entries.merge below top) []

/-- A layer that is not a mapping replaces what is below it. -/
theorem pile_of_not_mapping {top : Setting} (other : ∀ entries, top ≠ .mapping entries)
    (below : List Setting) : pile (top :: below) = top := by
  change overlay (pile below) top = top
  cases top with
  | mapping entries => exact absurd rfl (other entries)
  | _ => cases pile below <;> rfl

/-- Nothing is merged below a layer that is not a mapping. -/
theorem mappingsOnTop_of_not_mapping {top : Setting} (other : ∀ entries, top ≠ .mapping entries)
    (below : List Setting) : mappingsOnTop (top :: below) = [] := by
  cases top with
  | mapping entries => exact absurd rfl (other entries)
  | _ => rfl

/-- A mapping is written over the entries of what is below it, which has none unless it is a
mapping as well. -/
theorem overlay_mapping {top : Entries Setting} (once : (Entries.names top).Nodup)
    (below : Setting) :
    overlay below (.mapping top) = .mapping (Entries.merge (entriesIn (some below)) top) := by
  have alone : Entries.merge [] top = top := Entries.ofPairs_of_nodup once
  cases below with
  | mapping entries => rfl
  | _ => exact congrArg Value.mapping alone.symm

/-- The entries of piled layers are those of the mappings on top. -/
theorem entriesIn_pile (once : ∀ mapping ∈ mappingsOnTop stack, (Entries.names mapping).Nodup) :
    entriesIn (some (pile stack)) = mergeDown (mappingsOnTop stack) := by
  induction stack with
  | nil => rfl
  | cons top below inductionHypothesis =>
    by_cases isMapping : ∃ entries, top = .mapping entries
    · obtain ⟨entries, rfl⟩ := isMapping
      obtain ⟨onceTop, onceBelow⟩ := List.forall_mem_cons.mp once
      have laid : pile (.mapping entries :: below) = overlay (pile below) (.mapping entries) := rfl
      rw [laid, overlay_mapping onceTop, inductionHypothesis onceBelow]
      rfl
    · have other : ∀ entries, top ≠ .mapping entries := fun entries same =>
        isMapping ⟨entries, same⟩
      rw [pile_of_not_mapping other, mappingsOnTop_of_not_mapping other]
      cases top with
      | mapping entries => exact absurd rfl (other entries)
      | _ => rfl

/-- A stack whose uppermost layer is a mapping piles up to the merge of the mappings on top. -/
theorem pile_of_mapping {top : Entries Setting} {below : List Setting}
    (once : ∀ mapping ∈ mappingsOnTop (.mapping top :: below), (Entries.names mapping).Nodup) :
    pile (.mapping top :: below) =
      .mapping (mergeDown (mappingsOnTop (.mapping top :: below))) := by
  obtain ⟨onceTop, onceBelow⟩ := List.forall_mem_cons.mp once
  have laid : pile (.mapping top :: below) = overlay (pile below) (.mapping top) := rfl
  rw [laid, overlay_mapping onceTop, entriesIn_pile onceBelow]
  rfl

/-- In merged mappings the uppermost one that has a name decides. -/
theorem get?_mergeDown {mappings : List (Entries Setting)}
    (once : ∀ mapping ∈ mappings, (Entries.names mapping).Nodup) (name : String) :
    Entries.get? (mergeDown mappings) name =
      mappings.findSome? fun mapping => Entries.get? mapping name := by
  induction mappings with
  | nil => rfl
  | cons top below inductionHypothesis =>
    obtain ⟨onceTop, onceBelow⟩ := List.forall_mem_cons.mp once
    have merged : mergeDown (top :: below) = Entries.merge (mergeDown below) top := rfl
    rw [merged, Entries.get?_merge onceTop, inductionHypothesis onceBelow, List.findSome?_cons]
    cases Entries.get? top name <;> rfl

/-- Merged mappings have the names of the lowest one in front. -/
theorem names_mergeDown (mappings : List (Entries Setting)) :
    Entries.names (mergeDown mappings) =
      (mappings.reverse.flatMap Entries.names).eraseDups := by
  induction mappings with
  | nil => rfl
  | cons top below inductionHypothesis =>
    have merged : mergeDown (top :: below) = Entries.merge (mergeDown below) top := rfl
    have upwards : (top :: below).reverse.flatMap Entries.names =
        below.reverse.flatMap Entries.names ++ Entries.names top := by
      simp
    have once : (Entries.names (mergeDown below)).Nodup := by
      rw [inductionHypothesis]
      exact eraseDups_nodup _
    rw [merged, Entries.names_merge once, inductionHypothesis, upwards]
    exact eraseDups_append_congr (eraseDups_eraseDups _) rfl

/-! ## Precedence -/

/-- Configurations that state data extend a value by what they have for the entry, as it stands. -/
theorem foldlM_extendFrom {theme : Entries Setting} (data : ∀ config ∈ configs, StatesData config)
    (start : Setting) :
    configs.reverse.foldlM (extendFrom theme name) start = .ok
      ((configs.filterMap fun config => Entries.get? (extensionOf config) name).foldr
        (fun top below => overlay below top) start) := by
  rw [List.foldlM_reverse]
  induction configs with
  | nil => rfl
  | cons config rest inductionHypothesis =>
    obtain ⟨here, others⟩ := List.forall_mem_cons.mp data
    rw [List.foldrM_cons, inductionHypothesis others, List.filterMap_cons]
    change extendFrom theme name _ config = _
    rw [extendFrom]
    cases extension : Entries.get? (extensionOf config) name with
    | none => rfl
    | some layer =>
      have kept : evaluate (lookIn theme) layer = .ok layer :=
        evaluate_of_ne_rule fun rule same => here.extensions name rule (same ▸ extension)
      simp only [kept]
      rfl

/-- With data alone an entry has to be its stack of layers, piled up. -/
theorem lateBound_of_statesData {theme : Entries Setting}
    (data : ∀ config ∈ configs, StatesData config) :
    lateBound configs theme name = .ok (pile (stackOf configs name)) := by
  have start : evaluate (lookIn theme) ((configs.findSome? (definition name)).getD .null) =
      .ok (pile (configs.findSome? (definition name)).toList) := by
    cases found : configs.findSome? (definition name) with
    | none => rfl
    | some value =>
      obtain ⟨config, member, defined⟩ := List.exists_of_findSome?_eq_some found
      have kept : ∀ rule, value ≠ .rule rule := by
        rintro rule rfl
        exact (data config member).definitions name rule defined
      exact evaluate_of_ne_rule kept
  have upwards : pile (stackOf configs name) =
      (configs.filterMap fun config => Entries.get? (extensionOf config) name).foldr
        (fun top below => overlay below top) (pile (configs.findSome? (definition name)).toList) :=
    List.foldr_append
  rw [lateBound, start, upwards]
  exact foldlM_extendFrom data _

/-- The layers of an entry have no repeated names where the configurations have none. -/
theorem namesOnce_of_mem_stackOf (once : ∀ config ∈ configs, NamesOnce config) {layer : Setting}
    (member : layer ∈ stackOf configs name) : NamesOnce layer := by
  rcases List.mem_append.mp member with extending | defining
  · obtain ⟨config, configured, found⟩ := List.mem_filterMap.mp extending
    exact (once config configured).extensionOf.of_get? found
  · obtain ⟨config, configured, defined⟩ :=
      List.exists_of_findSome?_eq_some (Option.mem_toList.mp defining)
    exact (once config configured).definition defined

/-- The mappings on top are layers. -/
theorem mem_of_mem_mappingsOnTop {stack : List Setting} {mapping : Entries Setting}
    (member : mapping ∈ mappingsOnTop stack) : .mapping mapping ∈ stack := by
  induction stack with
  | nil => cases member
  | cons top below inductionHypothesis =>
    by_cases isMapping : ∃ entries, top = .mapping entries
    · obtain ⟨entries, rfl⟩ := isMapping
      rcases List.mem_cons.mp member with rfl | later
      · exact List.mem_cons_self
      · exact List.mem_cons_of_mem _ (inductionHypothesis later)
    · rw [mappingsOnTop_of_not_mapping fun entries same => isMapping ⟨entries, same⟩] at member
      cases member

/-- An entry has no layers exactly when no configuration defines or extends it. -/
theorem stackOf_eq_nil_iff : stackOf configs name = [] ↔ ∀ config ∈ configs,
    Entries.get? (extensionOf config) name = none ∧ definition name config = none := by
  rw [stackOf, List.append_eq_nil_iff, List.filterMap_eq_nil_iff, Option.toList_eq_nil_iff,
    List.findSome?_eq_none_iff]
  constructor
  · rintro ⟨extended, defined⟩ config member
    exact ⟨extended config member, defined config member⟩
  · intro absent
    exact ⟨fun config member => (absent config member).1,
      fun config member => (absent config member).2⟩

/-- A theme resolved from data has every entry that has layers, and no other. -/
theorem get?_eq_pile {gathered : Gathered} {theme : Entries Setting}
    (data : ∀ config ∈ configs, StatesData config) (read : gather configs = .ok gathered)
    (settled : gathered.layers.resolved scaleNames = .ok theme) (name : String) :
    Entries.get? theme name =
      if stackOf configs name = [] then none else some (pile (stackOf configs name)) := by
  obtain ⟨named, fold⟩ := Layers.resolved_settles settled
  have defined := mem_layers_names_iff read name
  rw [← named, ← Entries.get?_isSome_iff] at defined
  cases found : Entries.get? theme name with
  | none =>
    have absent : ∀ config ∈ configs,
        Entries.get? (extensionOf config) name = none ∧ definition name config = none := by
      simpa [found, not_or, and_comm] using defined
    rw [if_pos (stackOf_eq_nil_iff.mpr absent)]
  | some value =>
    have piled := fold name value found
    rw [settle_eq_lateBound read, lateBound_of_statesData data] at piled
    cases piled
    rw [if_neg]
    intro none
    obtain ⟨config, member, present⟩ := defined.mp (by simp [found])
    obtain ⟨notExtended, notDefined⟩ := stackOf_eq_nil_iff.mp none config member
    simp [notExtended, notDefined] at present

/-- Configurations of data, where nothing is computed, are resolved by precedence. Beside the
theme every entry has the value of the first configuration that sets it. An entry of the theme is
its uppermost layer if that is not a mapping. Otherwise it is a merge of the mappings from the top
of its stack down to the first other layer: it has all their names, those of the lowest mapping
first, and under each name the value of the uppermost mapping that has it.

Proof: for data no lookup is made, so an entry of the theme is the pile of its stack of layers,
and mappings on top of one another are merged name by name. -/
theorem resolve_precedence {configs : List Setting} (data : ∀ config ∈ configs, StatesData config)
    (once : ∀ config ∈ configs, NamesOnce config) {resolved : Setting}
    (returned : resolve configs = .ok resolved) :
    (∀ name, name ≠ "theme" → entry resolved name = .ok (configs.findSome? (settingOf name))) ∧
      ∃ theme, entry resolved "theme" = .ok (some (.mapping theme)) ∧
        (∀ name, stackOf configs name = [] → Entries.get? theme name = none) ∧
        (∀ name top below, stackOf configs name = top :: below →
          (∀ entries, top ≠ .mapping entries) → Entries.get? theme name = some top) ∧
        ∀ name top below, stackOf configs name = .mapping top :: below →
          ∃ merged, Entries.get? theme name = some (.mapping merged) ∧
            Entries.names merged =
              ((mappingsOnTop (.mapping top :: below)).reverse.flatMap Entries.names).eraseDups ∧
            ∀ key, Entries.get? merged key =
              (mappingsOnTop (.mapping top :: below)).findSome?
                fun mapping => Entries.get? mapping key := by
  obtain ⟨gathered, read, returned⟩ := bind_eq_ok.mp returned
  obtain ⟨theme, settled, ⟨⟩⟩ := bind_eq_ok.mp returned
  have piled := get?_eq_pile data read settled
  refine ⟨?_, theme, ?_, ?_, ?_, ?_⟩
  · intro name beside
    rw [entry, Entries.get?_append, gather_settings beside read, Entries.get?_cons]
    simp [beside, Entries.get?]
  · rw [entry, Entries.get?_append, (gather_eq_ok read).2.2]
    rfl
  · intro name none
    rw [piled, if_pos none]
  · intro name top below layers other
    rw [piled, layers, if_neg (List.cons_ne_nil _ _), pile_of_not_mapping other]
  · intro name top below layers
    have onceMapping : ∀ mapping ∈ mappingsOnTop (.mapping top :: below),
        (Entries.names mapping).Nodup := by
      intro mapping member
      have layer : .mapping mapping ∈ stackOf configs name :=
        layers ▸ mem_of_mem_mappingsOnTop member
      exact namesOnce_of_mem_stackOf once layer [] mapping rfl
    refine ⟨mergeDown (mappingsOnTop (.mapping top :: below)), ?_, names_mergeDown _, ?_⟩
    · rw [piled, layers, if_neg (List.cons_ne_nil _ _), pile_of_mapping onceMapping]
    · exact get?_mergeDown onceMapping

/-- Four configurations that have layers for a palette: two mappings, a text that hides what is
below it, and another mapping. -/
def layered : List Plain := [
  .mapping [("prefix", .text "a-"), ("theme", .mapping [
    ("extend", .mapping [("palette", .mapping [("main", .text "red")])])])],
  .mapping [("prefix", .text "b-"), ("theme", .mapping [
    ("gap", .null),
    ("extend", .mapping [
      ("palette", .mapping [("rest", .text "grey"), ("main", .text "blue")])])])],
  .mapping [("theme", .mapping [
    ("extend", .mapping [("palette", .text "none"), ("gap", .text "2px")])])],
  .mapping [("theme", .mapping [
    ("palette", .mapping [("other", .text "black")]), ("gap", .mapping [])])]]

/-- The same as configurations. -/
def layeredConfigs : List Setting :=
  layered.map .ofPlain

/-- What they resolve to. -/
def layeredResolved : Setting :=
  .mapping [("prefix", .text "a-"), ("theme", .mapping [
    ("gap", .text "2px"),
    ("palette", .mapping [("rest", .text "grey"), ("main", .text "red")])])]

/-- The mappings above the text are merged, and the one below it does not show. -/
theorem resolve_precedence_hidden_mapping :
    (∀ config ∈ layeredConfigs, StatesData config) ∧
      (∀ config ∈ layeredConfigs, NamesOnce config) ∧
      resolve layeredConfigs = .ok layeredResolved ∧
      ∃ merged : Entries Setting, Entries.names merged = ["rest", "main"] ∧
        Entries.get? merged "main" = some (.text "red") := by
  have data : ∀ config ∈ layeredConfigs, StatesData config := by
    simp [layeredConfigs, statesData_ofPlain]
  have once : ∀ config ∈ layeredConfigs, NamesOnce config := by
    simp [layeredConfigs, layered, Value.ofPlain, Value.mapRules, Value.mapRulesInEntries,
      namesOnce_mapping_iff, namesOnce_of_not_mapping, Entries.names]
  have returned : resolve layeredConfigs = .ok layeredResolved := by
    with_unfolding_all rfl
  obtain ⟨_, _, _, _, _, merges⟩ := resolve_precedence data once returned
  obtain ⟨merged, _, named, found⟩ := merges "palette" _ _ rfl
  exact ⟨data, once, returned, merged, named, found "main"⟩

end ClassOrder.Config
