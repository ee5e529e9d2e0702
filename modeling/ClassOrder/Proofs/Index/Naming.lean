import ClassOrder.Proofs.Index.Gathering
import ClassOrder.Proofs.Plugin.Order

/-!
# Plugins by another name

A plugin is looked up by a value, and values that have one key name one plugin, whether they are
written alike or not. Under each of its names a plugin is enabled alike, it is the same plugin of
the catalog, and it emits the same selectors.
-/
namespace ClassOrder

open Fallible

namespace Value

variable {left right value : Plain}

/-- Values that can be looked up are those that have a key. -/
theorem asKey_iff_key? : value.asKey = .ok value ↔ ∃ key, value.key? = some key := by
  cases value with
  | rule rule => exact rule.elim
  | _ => simp [asKey, key?]

/-- A value is the same as one that has a key exactly when it has that key. -/
theorem same_of_key? {Rule : Type} {other : Value Rule} {key : Key}
    (keyed : value.key? = some key) :
    other.same value = (other.key? == some key) := by
  have scalar : other.same value = other.sameScalar value := by
    cases other <;> cases value <;> first | rfl | cases keyed
  rw [scalar, sameScalar, keyed]
  cases other.key? <;> simp

/-- The key of a number is not that of a text. -/
theorem ofDecimal_ne_text (number : Float) (text : String) : Key.ofDecimal number ≠ .text text := by
  unfold Key.ofDecimal
  grind

/-- Values that have one key are the same text, or neither of them is a text. -/
theorem text_or_not_of_key? (keys : left.key? = right.key?) :
    left = right ∨ (∀ text, left ≠ .text text) ∧ ∀ text, right ≠ .text text := by
  cases left <;> cases right <;> simp_all [key?, ofDecimal_ne_text, eq_comm]

end Value

/-! ## Plugins of the same name -/

section

variable {left right : PluginId} {key : Key}

/-- A plugin is found under every name that has its key. -/
theorem Catalog.load_of_key? {catalog : Catalog} {plugin : Plugin}
    (leftKeyed : left.key? = some key) (rightKeyed : right.key? = some key)
    (loaded : catalog.load left = .ok plugin) :
    catalog.load right = .ok plugin := by
  have leftKey := Value.asKey_iff_key?.mpr ⟨key, leftKeyed⟩
  have rightKey := Value.asKey_iff_key?.mpr ⟨key, rightKeyed⟩
  have compared : ∀ name : PluginId, (left == name) = (right == name) := by
    intro name
    change left.same name = right.same name
    rw [Value.same_comm_of_asKey leftKey, Value.same_comm_of_asKey rightKey,
      Value.same_of_key? leftKeyed, Value.same_of_key? rightKeyed]
  have found : ∀ plugins : List (PluginId × Plugin),
      Entries.get? plugins left = Entries.get? plugins right := by
    intro plugins
    induction plugins with
    | nil => rfl
    | cons first rest inductionHypothesis =>
      unfold Entries.get? at *
      rw [List.lookup_cons, List.lookup_cons, compared, inductionHypothesis]
  obtain ⟨name, named, loaded⟩ := bind_eq_ok.mp loaded
  cases leftKey.symm.trans named
  refine bind_eq_ok.mpr ⟨right, rightKey, ?_⟩
  rw [← found]
  cases known : Entries.get? catalog.plugins.entries left with
  | none =>
    rw [known] at loaded
    cases loaded
  | some plugin =>
    rw [known] at loaded
    exact loaded

/-- A plugin is enabled under every name that has its key. -/
theorem Config.enables_of_key? {config : Setting} (leftKeyed : left.key? = some key)
    (rightKeyed : right.key? = some key) (enabled : Config.enables config left = .ok true) :
    Config.enables config right = .ok true := by
  rcases Value.text_or_not_of_key? (leftKeyed.trans rightKeyed.symm) with
    rfl | ⟨leftNotText, notText⟩
  · exact enabled
  obtain ⟨entry, configured, enabled⟩ := bind_eq_ok.mp enabled
  refine bind_eq_ok.mpr ⟨entry, configured, ?_⟩
  cases setting : entry.getD .null with
  | null => rfl
  | mapping switches =>
    have unnamed : Config.entryAt (.mapping switches) right = .ok none := by
      refine bind_eq_ok.mpr ⟨right, Value.asKey_iff_key?.mpr ⟨key, rightKeyed⟩, ?_⟩
      split
      · exact absurd rfl (notText _)
      · rfl
    simp [unnamed, bind, Except.bind, pure, Except.pure]
  | list items =>
    simp only [setting, Value.holds] at enabled
    simpa only [setting, Value.holds, Value.same_of_key? leftKeyed,
      Value.same_of_key? rightKeyed] using enabled
  | text whole =>
    obtain ⟨part, named, _⟩ := bind_eq_ok.mp (setting ▸ enabled)
    cases left with
    | text name => exact absurd rfl (leftNotText name)
    | _ => cases named
  | _ => simp [setting, Value.holds] at enabled

end

namespace IndexSettings

variable {settings : IndexSettings} {id other : PluginId} {selector : String}

/-- A name that cannot be looked up has no styles. -/
theorem styles_of_asKey_error {fault : Fault} (named : id.asKey = .error fault) :
    settings.styles id = .error fault := by
  rw [styles, Catalog.load, named]
  rfl

/-- A plugin that is processed has a name that can be looked up. -/
theorem asKey_of_styles {styles : StyleForests} (resolved : settings.styles id = .ok styles) :
    id.asKey = .ok id := by
  cases named : id.asKey with
  | ok key => rw [Value.eq_of_asKey named]
  | error fault => cases (styles_of_asKey_error named).symm.trans resolved

/-- A plugin that is enabled and processed under one name is so under every name that is the
same. -/
theorem styles_of_same {styles : StyleForests} (alike : other.same id = true)
    (enabled : Config.enables settings.config id = .ok true)
    (resolved : settings.styles id = .ok styles) :
    Config.enables settings.config other = .ok true ∧ settings.styles other = .ok styles := by
  obtain ⟨key, keyed⟩ := Value.asKey_iff_key?.mp (asKey_of_styles resolved)
  obtain ⟨plugin, loaded, processed⟩ := bind_eq_ok.mp resolved
  rw [Value.same_of_key? keyed, beq_iff_eq] at alike
  exact ⟨Config.enables_of_key? keyed alike enabled,
    bind_eq_ok.mpr ⟨plugin, Catalog.load_of_key? keyed alike loaded, processed⟩⟩

/-- Under a name that is the same a plugin emits the same selectors. -/
theorem mem_emitted_of_same {group : StyleGroup} (alike : other.same id = true)
    (emitted : selector ∈ settings.emitted group other) :
    selector ∈ settings.emitted group id := by
  obtain ⟨enabled, styles, resolved, member⟩ := mem_emitted_iff.mp emitted
  rw [Value.same_comm_of_asKey (asKey_of_styles resolved)] at alike
  obtain ⟨enabledToo, resolvedToo⟩ := styles_of_same alike enabled resolved
  exact mem_emitted_iff.mpr ⟨enabledToo, styles, resolvedToo, member⟩

end IndexSettings

end ClassOrder
