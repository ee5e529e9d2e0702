import ClassOrder.Proofs.Config.Resolved
import ClassOrder.Proofs.Sorter.Failure
import ClassOrder.Proofs.Sorter.Provenance

/-!
# Reconfiguring a sorter with its own configuration

A sorter keeps the configuration that the user's one resolved to. Given back to it, this
configuration resolves to itself, so the index is built from what it was built from before,
and nothing about the sorter changes.
-/
namespace ClassOrder.Sorter

open Fallible

variable {sorter : Sorter}

/-- A sorter whose configuration resolves to itself, and whose index is the one that is built from
it, is left as it is when it is reconfigured with its own configuration. -/
theorem reconfigure_self (resolves : resolveOver sorter.engine sorter.config = .ok sorter.config)
    (current : sorter.rebuilt = .ok sorter.index) :
    (sorter.reconfigure sorter.config).outcome = .ok () ∧
      (sorter.reconfigure sorter.config).sorter = sorter := by
  have step : sorter.reconfigure sorter.config = sorter.rebuild := by
    simp only [reconfigure, resolves]
  rw [step]
  rcases rebuild_cases sorter with ⟨index, built, returned, left⟩ | ⟨fault, failed, _⟩
  · cases current.symm.trans built
    exact ⟨returned, left⟩
  · cases current.symm.trans failed

/-- A resolved configuration is a fixed point of resolving. Whatever data a user configures the
built-in engine with, short of an extension of the theme by an entry of its own name, resolving it
over the defaults gives a configuration that resolves over them to itself. So a sorter that is
made from it can be reconfigured with its own configuration, and is the same sorter afterwards.

Proof: a resolved configuration is data, extends nothing and has an entry for all that the
defaults have, so laid over them it hides them. The rebuild starts from the same configuration and
makes the same index. -/
theorem reconfigure_own_config {user : Plain} (once : Config.NamesOnce (.ofPlain user))
    (unextended : Entries.get? (Config.extensionOf (.ofPlain user)) "extend" = none) :
    (∀ resolved, resolveOver .builtin (.ofPlain user) = .ok resolved →
        resolveOver .builtin resolved = .ok resolved) ∧
      ∀ options catalog order sorter,
        (create (.ofPlain user) options catalog .builtin order).outcome = .ok sorter →
          (sorter.reconfigure sorter.config).outcome = .ok () ∧
            (sorter.reconfigure sorter.config).sorter = sorter := by
  have fixed : ∀ resolved, resolveOver .builtin (.ofPlain user) = .ok resolved →
      resolveOver .builtin resolved = .ok resolved := fun resolved returned =>
    Config.resolve_resolved (Config.statesData_ofPlain user) once unextended returned
  refine ⟨fixed, ?_⟩
  intro options catalog order sorter created
  rw [← create_orBuiltin] at created
  obtain ⟨_, _, sameEngine, resolves, _, current⟩ :=
    (create_eq_ok catalog.orBuiltin_nonempty).mp created
  refine reconfigure_self ?_ current
  rw [sameEngine]
  exact fixed _ resolves

/-- A user's configuration that sets a separator, drops one scale, replaces another, and extends a
third one and an entry that the defaults do not know. -/
def overriding : Plain :=
  .mapping [
    ("separator", .text "_"),
    ("theme", .mapping [
      ("opacity", .null),
      ("spacing", .mapping [("4", .text "4px"), ("1", .text "1px")]),
      ("extend", .mapping [
        ("accent", .text "red"),
        ("colors", .mapping [("brand", .text "#123")])])])]

/-- With this configuration a sorter for the display classes is made, and reconfiguring it with its
own configuration changes nothing. -/
theorem reconfigure_own_config_overriding :
    Config.NamesOnce (.ofPlain overriding) ∧
      Entries.get? (Config.extensionOf (.ofPlain overriding)) "extend" = none ∧
      ∃ sorter, (create (.ofPlain overriding) {} .builtin .builtin (some displayAlone)).outcome =
          .ok sorter ∧
        (sorter.reconfigure sorter.config).outcome = .ok () ∧
        (sorter.reconfigure sorter.config).sorter = sorter := by
  have once : Config.NamesOnce (.ofPlain overriding) := by
    simp [overriding, Value.ofPlain, Value.mapRules, Value.mapRulesInEntries,
      Config.namesOnce_mapping_iff, Config.namesOnce_of_not_mapping, Entries.names]
  have unextended : Entries.get? (Config.extensionOf (.ofPlain overriding)) "extend" = none := by
    with_unfolding_all rfl
  have evaluated :
      (create (.ofPlain overriding) {} .builtin .builtin (some displayAlone)).outcome.toOption.map
        (fun sorter => sorter.index) = some displayIndex := by
    decide +kernel
  obtain ⟨sorter, made, _⟩ := Option.map_eq_some_iff.mp evaluated
  have created := toOption_eq_some.mp made
  have unchanged := (reconfigure_own_config once unextended).2 _ _ _ sorter created
  exact ⟨once, unextended, sorter, created, unchanged⟩

end ClassOrder.Sorter
