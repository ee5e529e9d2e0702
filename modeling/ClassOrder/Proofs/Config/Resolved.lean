import ClassOrder.Proofs.Config.Refusal
import ClassOrder.Proofs.Config.Reordering

/-!
# Resolving what is resolved

A resolved configuration states data, extends nothing, and has an entry for everything that the
defaults have. Laid over the defaults once more, it hides them altogether, and its theme is
already what it has to be. So resolving it again gives it back, with all entries in their places.
-/
namespace ClassOrder.Config

open Fallible Theme

variable {config : Setting} {settings theme : Entries Setting}

/-! ## What is read from a resolved configuration -/

section

variable (beside : "theme" ∉ Entries.names settings) (unextended : "extend" ∉ Entries.names theme)

include beside

/-- The theme that stands behind the settings is found. -/
theorem get?_theme_behind :
    Entries.get? (settings ++ [("theme", .mapping theme)]) "theme" = some (.mapping theme) := by
  rw [Entries.get?_append, (Entries.get?_eq_none_iff settings "theme").mpr beside]
  rfl

/-- The settings are the entries before the theme. -/
theorem settingsOf_resolved :
    settingsOf (.mapping (settings ++ [("theme", .mapping theme)])) = settings := by
  rw [settingsOf, List.filter_append, List.filter_eq_self.mpr]
  · exact List.append_nil settings
  · intro entry member
    simpa using fun same : entry.1 = "theme" => beside (same ▸ List.mem_map_of_mem member)

/-- The theme of a resolved configuration is the entry behind its settings. -/
theorem themeOf_resolved :
    themeOf (.mapping (settings ++ [("theme", .mapping theme)])) = theme := by
  rw [themeOf, get?_theme_behind beside]
  rfl

include unextended

/-- All entries of the theme are definitions. -/
theorem definitionsOf_resolved :
    definitionsOf (.mapping (settings ++ [("theme", .mapping theme)])) = theme := by
  rw [definitionsOf, themeOf_resolved beside, List.filter_eq_self]
  intro entry member
  simpa using fun same : entry.1 = "extend" => unextended (same ▸ List.mem_map_of_mem member)

/-- Nothing is extended. -/
theorem extensionOf_resolved :
    extensionOf (.mapping (settings ++ [("theme", .mapping theme)])) = [] := by
  have missing := (Entries.get?_eq_none_iff theme "extend").mpr unextended
  rw [extensionOf, themeOf_resolved beside, missing]
  rfl

/-- A resolved configuration can be read. -/
theorem readable_resolved : Readable (.mapping (settings ++ [("theme", .mapping theme)])) := by
  refine (readable_iff_of_theme (get?_theme_behind beside)).mpr ⟨[], ?_⟩
  rw [(Entries.get?_eq_none_iff theme "extend").mpr unextended]
  rfl

end

/-! ## What a theme over the defaults consists of -/

/-- A value that is laid over another one brings no rule with it. -/
theorem overlay_ne_rule {below above : Setting} (data : ∀ rule, above ≠ .rule rule)
    (rule : ThemeRule) : overlay below above ≠ .rule rule := by
  cases above with
  | rule other => exact absurd rfl (data other)
  | _ => cases below <;> simp [overlay]

/-- An entry that is no scale has to be what the configuration says about it, which is data. -/
theorem lateBound_ne_rule {name : String} {value : Setting} (data : StatesData config)
    (other : name ∉ scaleNames) (bound : lateBound [config, defaults] theme name = .ok value)
    (rule : ThemeRule) : value ≠ .rule rule := by
  have undefined : definition name defaults = none := by
    rw [definition, themeOf_defaults.1, (Entries.get?_eq_none_iff defaultTheme name).mpr other,
      ite_self]
  have stated : ∀ rule, (definition name config).getD .null ≠ .rule rule := by
    intro rule same
    cases found : definition name config with
    | none => simp [found] at same
    | some layer => exact data.definitions name rule (by simpa [found] using same)
  rw [lateBound_over_defaults, undefined, Option.or_none, evaluate_of_ne_rule stated] at bound
  change extendFrom theme name _ config = _ at bound
  rw [extendFrom] at bound
  cases found : Entries.get? (extensionOf config) name with
  | none =>
    rw [found] at bound
    cases bound
    exact stated rule
  | some layer =>
    have layered : ∀ rule, layer ≠ .rule rule :=
      fun rule same => data.extensions name rule (same ▸ found)
    rw [found] at bound
    obtain ⟨above, evaluated, laid⟩ := bind_eq_ok.mp bound
    rw [evaluate_of_ne_rule layered] at evaluated
    cases evaluated
    cases laid
    exact overlay_ne_rule layered rule

/-- A theme that data resolves to over the defaults is data, and it passes the check. -/
theorem resolved_over_defaults (data : StatesData config)
    (readable : ∀ each ∈ [config, defaults], Readable each)
    (once : (Entries.names theme).Nodup)
    (settled : (layersOf [config, defaults]).resolved scaleNames = .ok theme) :
    (∀ entry ∈ theme, ∀ rule, entry.2 ≠ .rule rule) ∧
      ∀ entry ∈ theme, checkScale scaleNames entry.1 entry.2 = .ok () := by
  obtain ⟨gathered, read, sameLayers⟩ := exists_gather readable
  obtain ⟨_, unfolded⟩ := Layers.resolved_eq_ok_iff.mp settled
  have passes : ∀ entry ∈ theme, checkScale scaleNames entry.1 entry.2 = .ok () := by
    intro entry member
    obtain ⟨depth, value⟩ := unfolded entry member
    exact checkScale_of_unfold value
  refine ⟨?_, passes⟩
  intro entry member
  by_cases scale : entry.1 ∈ scaleNames
  · rcases checkScale_cases scaleNames entry.1 entry.2 with ⟨cause, refused⟩ | ⟨_, inShape⟩
    · cases refused.symm.trans (passes entry member)
    · exact (inShape scale).ne_rule
  · have found : Entries.get? theme entry.1 = some entry.2 :=
      (Entries.get?_eq_some_iff once).mpr member
    have fold := (Layers.resolved_settles settled).2 entry.1 entry.2 found
    rw [← sameLayers, settle_eq_lateBound read] at fold
    exact lateBound_ne_rule data scale fold

/-! ## Resolving again -/

/-- Entries of different names stand as they are over entries that have no other names. -/
theorem fillIn_over {known added : Entries Setting} (once : (Entries.names known).Nodup)
    (present : ∀ name ∈ Entries.names added, name ∈ Entries.names known) :
    [known, added].foldl fillIn [] = known := by
  have alone : fillIn [] known = known := fillIn_of_nodup (by simpa using once)
  change fillIn (fillIn [] known) added = known
  rw [alone]
  exact fillIn_of_known present

/-- A configuration of settings and a theme that repeat no name, where the theme is data, passes the
check and extends nothing, stands as it is over a configuration that extends nothing and has no
other names. -/
theorem resolve_over {weaker : Setting} (beside : "theme" ∉ Entries.names settings)
    (unextended : "extend" ∉ Entries.names theme) (onceSettings : (Entries.names settings).Nodup)
    (onceTheme : (Entries.names theme).Nodup)
    (data : ∀ entry ∈ theme, ∀ rule, entry.2 ≠ .rule rule)
    (passes : ∀ entry ∈ theme, checkScale scaleNames entry.1 entry.2 = .ok ())
    (readable : Readable weaker) (extendsNothing : extensionOf weaker = [])
    (knownSettings : ∀ name ∈ Entries.names (settingsOf weaker), name ∈ Entries.names settings)
    (knownDefinitions : ∀ name ∈ Entries.names (definitionsOf weaker),
      name ∈ Entries.names theme) :
    resolve [.mapping (settings ++ [("theme", .mapping theme)]), weaker] =
      .ok (.mapping (settings ++ [("theme", .mapping theme)])) := by
  have base : (layersOf [.mapping (settings ++ [("theme", .mapping theme)]), weaker]).base =
      theme := by
    simp only [layersOf, List.map_cons, List.map_nil, definitionsOf_resolved beside unextended]
    exact fillIn_over onceTheme knownDefinitions
  have empty : ∀ extension ∈
      (layersOf [.mapping (settings ++ [("theme", .mapping theme)]), weaker]).extensions,
      extension = [] := by
    simp [layersOf, extensionOf_resolved beside unextended, extendsNothing]
  refine resolve_eq_ok_iff.mpr ⟨?_, theme, ?_, ?_⟩
  · simpa using ⟨readable_resolved beside unextended, readable⟩
  · exact Layers.resolved_of_data base empty onceTheme data passes
  · simp only [List.map_cons, List.map_nil, settingsOf_resolved beside]
    rw [fillIn_over onceSettings knownSettings]

/-- What data resolves to over the defaults resolves to itself over them, unless the extension holds
an entry of its own name. -/
theorem resolve_resolved (data : StatesData config) (once : NamesOnce config)
    (unextended : Entries.get? (extensionOf config) "extend" = none) {resolved : Setting}
    (returned : resolve [config, defaults] = .ok resolved) :
    resolve [resolved, defaults] = .ok resolved := by
  obtain ⟨readable, theme, settled, rfl⟩ := resolve_eq_ok_iff.mp returned
  obtain ⟨gathered, read, sameLayers⟩ := exists_gather readable
  have named := (Layers.resolved_eq_ok_iff.mp settled).1
  have beside := theme_not_mem_settings [config, defaults]
  have onceSettings : (Entries.names (([config, defaults].map settingsOf).foldl fillIn [])).Nodup :=
    nodup_names_foldl_fillIn _ Entries.nodup_names_nil
  have onceTheme : (Entries.names theme).Nodup := by
    rw [named]
    apply nodup_names_layersOf
    simp only [List.forall_mem_cons]
    exact ⟨once.extensionOf [] _ rfl, themeOf_defaults.2 ▸ Entries.nodup_names_nil, by simp⟩
  have notExtended : "extend" ∉ Entries.names theme := by
    rw [named, ← sameLayers, mem_layers_names_iff read]
    rintro ⟨each, listed, defined | extended⟩
    · simp [definition] at defined
    · rcases List.mem_pair.mp listed with rfl | rfl
      · simp [unextended] at extended
      · simp [themeOf_defaults.2, Entries.get?] at extended
  obtain ⟨dataTheme, passes⟩ := resolved_over_defaults data readable onceTheme settled
  have weakest : defaults ∈ [config, defaults] := List.mem_cons_of_mem _ List.mem_cons_self
  apply resolve_over beside notExtended onceSettings onceTheme dataTheme passes
  · exact readable defaults weakest
  · exact themeOf_defaults.2
  · intro name member
    exact mem_names_foldl_fillIn weakest member
  · intro name member
    rw [named, Layers.mem_names_iff, Entries.get?_isSome_iff]
    left
    simp only [layersOf]
    exact mem_names_foldl_fillIn weakest member

end ClassOrder.Config
