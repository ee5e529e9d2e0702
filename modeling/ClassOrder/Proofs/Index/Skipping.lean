import ClassOrder.Proofs.Index.Naming

/-!
# Plugins that leave no trace

A plugin is passed over when it is disabled, when the catalog does not have it, and when it turns
out that it cannot be processed, whatever it had registered until then. A plugin that is named
again adds nothing to what it added before. So an order builds what is left of it builds once all
of these are taken out: the same index, or the same fault. Every other fault ends the building,
and it is the fault of the first plugin in the order that has one.
-/
namespace ClassOrder

open Fallible

namespace Config

/-- The setting for plugins is missing or null, or it lists plugins, or it maps them to
switches. -/
def SwitchesPlugins (config : Setting) : Prop :=
  ∃ setting, entry config "corePlugins" = .ok setting ∧
    match setting.getD .null with
    | .null => True
    | .mapping _ => True
    | .list _ => True
    | _ => False

/-- Such a setting says of every name that can be looked up whether the plugin is enabled. -/
theorem SwitchesPlugins.enables_returns {config : Setting} {id : PluginId}
    (switches : SwitchesPlugins config) (keyed : id.asKey = .ok id) :
    ∃ enabled, Config.enables config id = .ok enabled := by
  obtain ⟨setting, found, shaped⟩ := switches
  unfold Config.enables
  rw [found]
  simp only [bind, Except.bind]
  cases named : setting.getD .null with
  | null => exact ⟨true, rfl⟩
  | mapping entries =>
    have looked : ∃ switch, entryAt (.mapping entries) id = .ok switch := by
      rw [entryAt, keyed]
      cases id <;> exact ⟨_, rfl⟩
    obtain ⟨switch, looked⟩ := looked
    simp only [looked]
    exact ⟨_, rfl⟩
  | list items => exact ⟨_, rfl⟩
  | _ => simp [named] at shaped

end Config

namespace IndexSettings

variable {settings : IndexSettings} {order : List PluginId} {id other : PluginId} {fault : Fault}

/-- Whether a plugin is passed over: it is disabled, or not in the catalog, or it cannot be
processed. -/
def passesOver (settings : IndexSettings) (id : PluginId) : Bool :=
  match Config.enables settings.config id, settings.catalog.contains id, settings.styles id with
  | .ok false, _, _ => true
  | _, .ok false, _ => true
  | _, _, .error (.unresolvable _ _) => true
  | _, _, _ => false

/-- The plugins of an order that are not passed over, each at the place where it is named
first. -/
def needed (settings : IndexSettings) (order : List PluginId) : List PluginId :=
  (order.filter fun id => !settings.passesOver id).eraseDups

/-- An enabled plugin ends the building: processing it fails for another reason than that it cannot
be resolved, or the walk over its styles meets a fault. -/
def Raises (settings : IndexSettings) (id : PluginId) (fault : Fault) : Prop :=
  Config.enables settings.config id = .ok true ∧
    ∃ plugin, settings.catalog.load id = .ok plugin ∧
      (settings.engine.process [plugin] settings.config = .error fault ∧
          (∀ plugin reason, fault ≠ .unresolvable plugin reason) ∨
        ∃ styles, settings.engine.process [plugin] settings.config = .ok styles ∧
          settings.contributionOf styles = .error fault)

/-! ## One plugin -/

/-- A plugin that fails as unresolvable has a name that can be looked up. -/
theorem asKey_of_unresolvable {plugin reason : Plain}
    (failed : settings.styles id = .error (.unresolvable plugin reason)) : id.asKey = .ok id := by
  cases named : id.asKey with
  | ok key => rw [Value.eq_of_asKey named]
  | error fault =>
    cases (styles_of_asKey_error named).symm.trans failed
    cases id <;> cases named

/-- A plugin that the catalog does not have cannot be processed. -/
theorem styles_of_missing (missing : settings.catalog.contains id = .ok false) :
    ∃ plugin reason, settings.styles id = .error (.unresolvable plugin reason) := by
  obtain ⟨key, keyed, absent⟩ := bind_eq_ok.mp missing
  have unknown : Entries.get? settings.catalog.plugins.entries key = none := by
    cases found : Entries.get? settings.catalog.plugins.entries key with
    | none => rfl
    | some plugin =>
      rw [Entries.contains, found] at absent
      cases absent
  refine ⟨id, .text "not in catalog", ?_⟩
  rw [styles, Catalog.load, keyed]
  simp only [bind, Except.bind, unknown]
  rfl

/-- A plugin that is passed over is disabled, or it cannot be processed. -/
theorem passesOver_cases (passed : settings.passesOver id = true) :
    Config.enables settings.config id = .ok false ∨
      ∃ plugin reason, settings.styles id = .error (.unresolvable plugin reason) := by
  unfold passesOver at passed
  split at passed
  · exact .inl ‹_›
  · exact .inr (styles_of_missing ‹_›)
  · exact .inr ⟨_, _, ‹_›⟩
  · cases passed

/-- A plugin that is passed over does not end the building, and it emits nothing. -/
theorem quiet_of_passesOver (switches : Config.SwitchesPlugins settings.config)
    (passed : settings.passesOver id = true) :
    settings.faultOf? id = none ∧ ∀ group, settings.emitted group id = [] := by
  have disabled (off : Config.enables settings.config id = .ok false) :
      settings.faultOf? id = none ∧ ∀ group, settings.emitted group id = [] :=
    ⟨faultOf?_eq_none.mpr ⟨_, judge_eq_ok.mpr (.inl ⟨off, rfl⟩)⟩,
      fun group => by simp [emitted, off]⟩
  rcases passesOver_cases passed with off | ⟨plugin, reason, failed⟩
  · exact disabled off
  · obtain ⟨enabled, asked⟩ := switches.enables_returns (asKey_of_unresolvable failed)
    cases enabled with
    | false => exact disabled asked
    | true =>
      constructor
      · exact faultOf?_eq_none.mpr
          ⟨_, judge_eq_ok.mpr (.inr (.inl ⟨asked, plugin, reason, failed, rfl⟩))⟩
      · intro group
        simp [emitted, asked, failed]

/-- A plugin that is not passed over and does not end the building contributes. -/
theorem contributes_of_needed (needed : settings.passesOver id = false)
    (faultless : settings.faultOf? id = none) :
    Config.enables settings.config id = .ok true ∧ ∃ styles contribution,
      settings.styles id = .ok styles ∧ settings.contributionOf styles = .ok contribution := by
  obtain ⟨verdict, judged⟩ := faultOf?_eq_none.mp faultless
  rcases judge_eq_ok.mp judged with ⟨off, _⟩ | ⟨_, plugin, reason, failed, _⟩ |
    ⟨asked, styles, contribution, resolved, contributed, _⟩
  · simp [passesOver, off] at needed
  · unfold passesOver at needed
    split at needed <;> simp_all
  · exact ⟨asked, styles, contribution, resolved, contributed⟩

/-- A plugin that contributes under one name contributes under every name that is the same. -/
theorem faultOf?_of_same (alike : other.same id = true) (needed : settings.passesOver id = false)
    (faultless : settings.faultOf? id = none) : settings.faultOf? other = none := by
  obtain ⟨asked, styles, contribution, resolved, contributed⟩ :=
    contributes_of_needed needed faultless
  obtain ⟨askedToo, resolvedToo⟩ := styles_of_same alike asked resolved
  exact faultOf?_eq_none.mpr ⟨_, judge_eq_ok.mpr
    (.inr (.inr ⟨askedToo, styles, contribution, resolvedToo, contributed, rfl⟩))⟩

/-- A name that can be looked up has a plugin, which is processed alone, or it is missing. -/
theorem load_cases (settings : IndexSettings) (keyed : id.asKey = .ok id) :
    (∃ plugin, settings.catalog.load id = .ok plugin ∧
        settings.styles id = settings.engine.process [plugin] settings.config) ∨
      ∃ missing, settings.catalog.load id = .error missing ∧
        ∃ plugin reason, settings.styles id = .error (.unresolvable plugin reason) := by
  cases loaded : settings.catalog.load id with
  | ok plugin => exact .inl ⟨plugin, rfl, by rw [styles, loaded]; rfl⟩
  | error missing =>
    refine .inr ⟨missing, rfl, styles_of_missing ?_⟩
    unfold Catalog.load at loaded
    unfold Catalog.contains Entries.contains
    rw [keyed] at loaded ⊢
    cases found : Entries.get? settings.catalog.plugins.entries id with
    | none => simp only [found, bind, Except.bind]; rfl
    | some plugin =>
      simp only [found, bind, Except.bind] at loaded
      cases loaded

/-- A plugin raises a fault exactly when it ends the building with it. -/
theorem raises_iff (switches : Config.SwitchesPlugins settings.config) (keyed : id.asKey = .ok id) :
    settings.Raises id fault ↔ settings.faultOf? id = some fault := by
  obtain ⟨enabled, asked⟩ := switches.enables_returns keyed
  rw [faultOf?_eq_some, judge_eq_error, Raises, asked]
  rcases settings.load_cases keyed with
    ⟨plugin, loaded, processed⟩ | ⟨missing, lost, named, reason, failed⟩
  · simp only [loaded, processed, Except.ok.injEq, exists_eq_left', reduceCtorEq, false_or]
    exact and_or_left
  · simp only [lost, failed]
    constructor
    · rintro ⟨_, _, ⟨⟩, _⟩
    · rintro (⟨⟨⟩⟩ | ⟨_, ⟨⟨⟩⟩, known⟩ | ⟨_, _, ⟨⟩, _⟩)
      exact absurd rfl (known named reason)

/-! ## The order -/

/-- What is needed of an order has the same first fault. -/
theorem findSome?_needed (switches : Config.SwitchesPlugins settings.config)
    (order : List PluginId) :
    (settings.needed order).findSome? settings.faultOf? = order.findSome? settings.faultOf? := by
  have notPassed : ∀ id ∈ order.filter fun id => !settings.passesOver id,
      settings.passesOver id = false := by
    intro id member
    simpa using (List.mem_filter.mp member).2
  have quiet : ∀ id, (if (!settings.passesOver id) = true then settings.faultOf? id else none) =
      settings.faultOf? id := by
    intro id
    cases passed : settings.passesOver id with
    | false => rfl
    | true => exact (quiet_of_passesOver switches passed).1.symm
  rw [needed, findSome?_eraseDups]
  · rw [← List.head?_filterMap, List.filterMap_filter, ← List.head?_filterMap]
    simp only [quiet]
  · intro id _ other member alike faultless
    exact faultOf?_of_same alike (notPassed other member) faultless

/-- What is needed of an order emits the same selectors, in the order of their first emissions. -/
theorem eraseDups_flatMap_needed (switches : Config.SwitchesPlugins settings.config)
    {selectors : PluginId → List String}
    (nothing : ∀ id, (∀ group, settings.emitted group id = []) → selectors id = [])
    (covered : ∀ id other, other.same id = true → ∀ selector ∈ selectors other,
      selector ∈ selectors id)
    (order : List PluginId) :
    ((settings.needed order).flatMap selectors).eraseDups =
      (order.flatMap selectors).eraseDups := by
  have kept : (order.filter fun id => !settings.passesOver id).flatMap selectors =
      order.flatMap selectors := by
    apply flatMap_filter_of_nil
    intro id passed
    exact nothing id (quiet_of_passesOver switches (by simpa using passed)).2
  rw [needed, eraseDups_flatMap_eraseDups (fun id other => covered other id), kept]

/-- What is needed of an order is put together to the same index. -/
theorem eraseDups_assembled_needed (switches : Config.SwitchesPlugins settings.config)
    (order : List PluginId) :
    (settings.assembled (settings.needed order)).eraseDups =
      (settings.assembled order).eraseDups := by
  have grouped (group : StyleGroup) :
      ((settings.needed order).flatMap (settings.emitted group)).eraseDups =
        (order.flatMap (settings.emitted group)).eraseDups := by
    apply eraseDups_flatMap_needed switches
    · exact fun id nothing => nothing group
    · exact fun id other alike selector emitted => mem_emitted_of_same alike emitted
  cases policy : settings.policy with
  | componentsFirst =>
    simp only [assembled, policy]
    exact eraseDups_append_congr (grouped .component) (grouped .utility)
  | componentsLast =>
    simp only [assembled, policy]
    exact eraseDups_append_congr (grouped .utility) (grouped .component)
  | asIs =>
    simp only [assembled, policy]
    apply eraseDups_flatMap_needed switches
    · intro id nothing
      simp [interleaved, nothing, alphabetical]
    · intro id other alike selector emitted
      simp only [interleaved, List.mem_append, mem_alphabetical_iff] at emitted ⊢
      exact emitted.imp (mem_emitted_of_same alike) (mem_emitted_of_same alike)

/-- Disabled plugins, plugins that are missing or cannot be processed, and plugins that are named
again leave no trace: without them the building has the same outcome, be it an index or a fault.
When the names can be looked up, the building fails exactly with the fault of the first plugin
that raises one.

Proof: the fault of a building is the first that a plugin of the order raises, and the index is
made of first occurrences. Names that are passed over add nothing to either, nor do names that
came before. -/
theorem build_only_needed_plugins (settings : IndexSettings) (order : List PluginId)
    (switches : Config.SwitchesPlugins settings.config) :
    (settings.build order).outcome = (settings.build (settings.needed order)).outcome ∧
      ((∀ id ∈ order, id.asKey = .ok id) → ∀ fault,
        (settings.build order).outcome = .error fault ↔
          ∃ before id after, order = before ++ id :: after ∧ settings.Raises id fault ∧
            ∀ earlier ∈ before, ∀ other, ¬ settings.Raises earlier other) := by
  constructor
  · rw [build_outcome, build_outcome, findSome?_needed switches, SelectorIndex.ofList,
      SelectorIndex.ofList, eraseDups_assembled_needed switches]
  · intro named fault
    rw [build_eq_error, List.findSome?_eq_some_iff]
    have raises : ∀ id ∈ order, ∀ fault,
        settings.Raises id fault ↔ settings.faultOf? id = some fault := by
      intro id ordered fault
      exact raises_iff switches (named id ordered)
    constructor
    · rintro ⟨before, id, after, rfl, ends, passed⟩
      refine ⟨before, id, after, rfl, (raises id (by simp) fault).mpr ends, ?_⟩
      intro earlier member other raised
      have ended := (raises earlier (by simp [member]) other).mp raised
      rw [passed earlier member] at ended
      cases ended
    · rintro ⟨before, id, after, rfl, raised, passed⟩
      refine ⟨before, id, after, rfl, (raises id (by simp) fault).mp raised, ?_⟩
      intro earlier member
      apply Option.eq_none_iff_forall_ne_some.mpr
      intro other ended
      exact passed earlier member other ((raises earlier (by simp [member]) other).mpr ended)

/-- A plugin that registers a class as a component, and may then fail. -/
def oneClass (name selector : String) (failure : Except Fault Unit := .ok ()) :
    PluginId × Plugin :=
  (.text name, .program name fun config => do
    Registering.addComponents config (.mapping [(selector, .mapping [])])
    Registering.ofExcept failure)

/-- Plugins of one class each. The half one is given up after it has registered its class, and
the broken ones fail for reasons of their own. -/
def unevenPlugins : IndexSettings where
  config := .mapping [("corePlugins", .mapping [("off", .flag false)])]
  catalog := { plugins := .ofPairs [
    oneClass "card" ".card",
    oneClass "off" ".off",
    oneClass "half" ".half" (.error (.unresolvable (.text "half") (.text "no colors"))),
    oneClass "link" ".link",
    oneClass "broken" ".broken" (.error (.raised "out of colors")),
    oneClass "worse" ".worse" (.error (.raised "out of names"))] }
  engine := .builtin

/-- One order leaves only two plugins to build from. In another the first of two broken plugins
ends the building, whatever is passed over before it. -/
theorem build_only_needed_plugins_uneven :
    (unevenPlugins.build [.text "off", .text "card", .text "half", .text "gone", .text "link",
        .text "card"]).outcome =
      (unevenPlugins.build [.text "card", .text "link"]).outcome ∧
    (unevenPlugins.build [.text "card", .text "link"]).outcome = .ok ⟨["card", "link"]⟩ ∧
    (unevenPlugins.build [.text "half", .text "gone", .text "broken", .text "card",
        .text "worse"]).outcome = .error (.raised "out of colors") := by
  have switches : Config.SwitchesPlugins unevenPlugins.config :=
    ⟨_, rfl, trivial⟩
  have remaining : unevenPlugins.needed [.text "off", .text "card", .text "half", .text "gone",
      .text "link", .text "card"] = [.text "card", .text "link"] := by
    with_unfolding_all rfl
  have alone : (unevenPlugins.build [.text "card", .text "link"]).outcome =
      .ok ⟨["card", "link"]⟩ := by
    with_unfolding_all rfl
  have same := (build_only_needed_plugins unevenPlugins [.text "off", .text "card", .text "half",
    .text "gone", .text "link", .text "card"] switches).1
  rw [remaining] at same
  have breaks : unevenPlugins.Raises (.text "broken") (.raised "out of colors") :=
    (raises_iff switches rfl).mpr (by with_unfolding_all rfl)
  have quiet : ∀ earlier ∈ ([.text "half", .text "gone"] : List PluginId), ∀ other,
      ¬ unevenPlugins.Raises earlier other := by
    have halfQuiet : unevenPlugins.faultOf? (.text "half") = none := by with_unfolding_all rfl
    have goneQuiet : unevenPlugins.faultOf? (.text "gone") = none := by with_unfolding_all rfl
    intro earlier member other raised
    simp only [List.mem_cons, List.not_mem_nil, or_false] at member
    rcases member with rfl | rfl
    · exact absurd ((raises_iff switches rfl).mp raised) (by simp [halfQuiet])
    · exact absurd ((raises_iff switches rfl).mp raised) (by simp [goneQuiet])
  have named : ∀ id ∈ ([.text "half", .text "gone", .text "broken", .text "card",
      .text "worse"] : List PluginId), id.asKey = .ok id := by
    simp [Value.asKey]
  have fails := (build_only_needed_plugins unevenPlugins [.text "half", .text "gone",
    .text "broken", .text "card", .text "worse"] switches).2 named (.raised "out of colors")
  exact ⟨same, alone, fails.mpr ⟨_, _, _, rfl, breaks, quiet⟩⟩

end IndexSettings

end ClassOrder
