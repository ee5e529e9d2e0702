import ClassOrder.Proofs.Config.LateBinding
import ClassOrder.Proofs.Theme.Refusal

/-!
# How a configuration of plain data is refused

A user's configuration holds data and no rules, so all rules come from the defaults, and
these only build on scales. Laid over the defaults, the configuration is either refused, or
resolved to scales that are mappings, save those for which the user's last word is null. The
other entries are handed on as they are.
-/
namespace ClassOrder

open Fallible Theme

namespace Value

variable {Rule Other : Type} {change : Rule → Other}

/-- Replacing rules keeps what is found where. -/
theorem get?_mapRulesInEntries (entries : Entries (Value Rule)) (name : String) :
    Entries.get? (mapRulesInEntries change entries) name =
      (Entries.get? entries name).map (mapRules change) := by
  induction entries with
  | nil => simp [mapRulesInEntries, Entries.get?]
  | cons entry rest inductionHypothesis =>
    obtain ⟨first, value⟩ := entry
    rw [mapRulesInEntries, Entries.get?_cons, Entries.get?_cons, inductionHypothesis]
    split <;> rfl

/-- Plain data is no rule. -/
theorem ofPlain_ne_rule (value : Plain) (rule : Rule) : ofPlain value ≠ .rule rule := by
  cases value with
  | rule none => exact none.elim
  | _ => simp [ofPlain, mapRules]

end Value

namespace Config

/-- A configuration's theme and its extension state data, and no rules. -/
structure StatesData (config : Setting) : Prop where
  definitions : ∀ name rule, definition name config ≠ some (.rule rule)
  extensions : ∀ name rule, Entries.get? (extensionOf config) name ≠ some (.rule rule)

/-- The value that a configuration has for an entry of the theme in the end: the extension
counts more than the definition. -/
def lastWord (name : String) (config : Setting) : Option Setting :=
  (Entries.get? (extensionOf config) name).or (definition name config)

variable {configs : List Setting} {config : Setting} {gathered further : Gathered}

/-- The entries of plain data are plain data. -/
theorem exists_entriesIn_ofPlain (value : Option Plain) : ∃ entries : Entries Plain,
    entriesIn (value.map Value.ofPlain) = Value.mapRulesInEntries Empty.elim entries := by
  cases value with
  | none => exact ⟨[], rfl⟩
  | some value =>
    cases value with
    | mapping entries => exact ⟨entries, rfl⟩
    | _ => exact ⟨[], rfl⟩

/-- So is their theme. -/
theorem exists_themeOf_ofPlain (value : Plain) : ∃ theme : Entries Plain,
    themeOf (.ofPlain value) = Value.mapRulesInEntries Empty.elim theme := by
  cases value with
  | mapping entries =>
    obtain ⟨theme, same⟩ := exists_entriesIn_ofPlain (Entries.get? entries "theme")
    refine ⟨theme, same ▸ ?_⟩
    exact congrArg entriesIn (Value.get?_mapRulesInEntries entries "theme")
  | _ => exact ⟨[], rfl⟩

/-- Plain data states data. -/
theorem statesData_ofPlain (value : Plain) : StatesData (.ofPlain value) := by
  have found : ∀ (entries : Entries Plain) name rule,
      Entries.get? (Value.mapRulesInEntries Empty.elim entries) name ≠
        some (.rule rule : Setting) := by
    intro entries name rule stands
    rw [Value.get?_mapRulesInEntries] at stands
    obtain ⟨value, _, same⟩ := Option.map_eq_some_iff.mp stands
    exact Value.ofPlain_ne_rule value rule same
  obtain ⟨theme, sameTheme⟩ := exists_themeOf_ofPlain value
  obtain ⟨extension, sameExtension⟩ := exists_entriesIn_ofPlain (Entries.get? theme "extend")
  refine ⟨?_, ?_⟩
  · intro name rule
    rw [definition, sameTheme]
    split
    · simp
    · exact found theme name rule
  · intro name rule
    have same : extensionOf (.ofPlain value) =
        Value.mapRulesInEntries Empty.elim extension := by
      rw [extensionOf, sameTheme, Value.get?_mapRulesInEntries]
      exact sameExtension
    rw [same]
    exact found extension name rule

/-! ## The defaults -/

/-- The scales that the default rules build on. -/
def foundations : List String :=
  ["spacing", "colors"]

/-- What the default rules build on are scales. -/
theorem scale_of_foundation : ∀ name ∈ foundations, name ∈ scaleNames := by
  decide

/-- Every default is a mapping or a rule that builds on the spacing and the colours. -/
theorem defaultTheme_builds : ∀ entry ∈ defaultTheme,
    (∃ entries, entry.2 = .mapping entries) ∨
      ∃ rule, entry.2 = .rule rule ∧ YieldsMapping foundations rule := by
  have spacing : YieldsMapping foundations (entryOf "spacing") :=
    .lookup [] (by decide) (by decide)
  have colors : YieldsMapping foundations (entryOf "colors") :=
    .lookup [] (by decide) (by decide)
  have widths : YieldsMapping foundations widths := .merge (by
    simp only [List.forall_mem_cons]
    exact ⟨.constant _, spacing, .constant _, by simp⟩)
  have heights : YieldsMapping foundations heights := .merge (by
    simp only [List.forall_mem_cons]
    exact ⟨.constant _, spacing, .constant _, by simp⟩)
  have margins : YieldsMapping foundations margins := .merge (by
    simp only [List.forall_mem_cons]
    exact ⟨.constant _, spacing, .negative spacing, by simp⟩)
  simp only [defaultTheme, List.forall_mem_cons]
  exact ⟨.inl ⟨_, rfl⟩, .inl ⟨_, rfl⟩, .inl ⟨_, rfl⟩, .inl ⟨_, rfl⟩, .inl ⟨_, rfl⟩, .inl ⟨_, rfl⟩,
    .inl ⟨_, rfl⟩, .inl ⟨_, rfl⟩, .inr ⟨_, rfl, widths⟩, .inr ⟨_, rfl, heights⟩,
    .inr ⟨_, rfl, margins⟩, .inr ⟨_, rfl, spacing⟩, .inr ⟨_, rfl, colors⟩, .inr ⟨_, rfl, colors⟩,
    .inl ⟨_, rfl⟩, .inl ⟨_, rfl⟩, by simp⟩

/-- Every default is a mapping or a rule that builds on scales. -/
theorem defaultTheme_yields : ∀ entry ∈ defaultTheme,
    (∃ entries, entry.2 = .mapping entries) ∨
      ∃ rule, entry.2 = .rule rule ∧ YieldsMapping scaleNames rule := by
  intro entry member
  rcases defaultTheme_builds entry member with stands | ⟨rule, same, yields⟩
  · exact .inl stands
  · exact .inr ⟨rule, same, yields.mono scale_of_foundation⟩

/-- The defaults define every scale, and extend nothing. -/
theorem themeOf_defaults : themeOf defaults = defaultTheme ∧ extensionOf defaults = [] := by
  refine ⟨?_, ?_⟩ <;> with_unfolding_all rfl

/-- What the defaults define is an entry of the default theme. -/
theorem mem_defaultTheme {name : String} {value : Setting}
    (defined : definition name defaults = some value) : (name, value) ∈ defaultTheme := by
  rw [definition, themeOf_defaults.1] at defined
  by_cases reserved : name = "extend"
  · rw [if_pos reserved] at defined
    cases defined
  · rw [if_neg reserved] at defined
    exact Entries.mem_of_get? defined

/-- Merging rules yields a mapping in a resolved theme. -/
theorem mergeFrom_yields {theme : Entries Setting} {value : Setting} (rules : List ThemeRule)
    (below : Entries Setting) (ran : ThemeRule.mergeFrom (lookIn theme) rules below = .ok value) :
    ∃ entries, value = .mapping entries := by
  induction rules generalizing below with
  | nil =>
    cases ran
    exact ⟨below, rfl⟩
  | cons rule rest inductionHypothesis =>
    obtain ⟨_, _, ran⟩ := bind_eq_ok.mp ran
    obtain ⟨above, _, ran⟩ := bind_eq_ok.mp ran
    exact inductionHypothesis _ ran

/-- A rule that builds on scales yields something in a resolved theme. -/
theorem run_ne_null {theme : Entries Setting} {rule : ThemeRule} {value : Setting}
    (yields : YieldsMapping scaleNames rule) (ran : rule.run (lookIn theme) = .ok value) :
    value ≠ .null := by
  rintro rfl
  cases yields with
  | constant entries => cases ran
  | lookup entries whole scale =>
    have found := Except.ok.inj ran
    split at found
    · cases found
    · cases found
    · rename_i different _
      exact different found
  | merge each =>
    obtain ⟨entries, same⟩ := mergeFrom_yields _ _ ran
    cases same
  | negative inner =>
    obtain ⟨found, _, ran⟩ := bind_eq_ok.mp ran
    cases found <;> cases ran

/-- What a configuration says counts more than what the defaults say. -/
theorem findSome?_over_defaults {α : Type} (reading : Setting → Option α) (config : Setting) :
    [config, defaults].findSome? reading = (reading config).or (reading defaults) := by
  rw [List.findSome?_cons, List.findSome?_singleton]
  cases reading config <;> rfl

/-- Over the defaults an entry has to be the configuration's own definition, or else the default,
extended by the configuration. -/
theorem lateBound_over_defaults (config : Setting) (theme : Entries Setting) (name : String) :
    lateBound [config, defaults] theme name = (do
      let start ← evaluate (lookIn theme)
        (((definition name config).or (definition name defaults)).getD .null)
      extendFrom theme name start config) := by
  have nothing : ∀ start, extendFrom theme name start defaults = .ok start := by
    intro start
    rw [extendFrom, themeOf_defaults.2]
    rfl
  rw [lateBound, findSome?_over_defaults]
  refine bind_congr fun start => ?_
  change extendFrom theme name start defaults >>= (fun next =>
    extendFrom theme name next config >>= pure) = _
  simp only [nothing, bind_pure]
  rfl

/-- The defaults define every scale. -/
theorem definition_defaults {name : String} (scale : name ∈ scaleNames) :
    ∃ value, definition name defaults = some value ∧ (name, value) ∈ defaultTheme := by
  obtain ⟨value, found⟩ := Option.isSome_iff_exists.mp
    ((Entries.get?_isSome_iff defaultTheme name).mpr scale)
  have notExtension : name ≠ "extend" := by
    rintro rfl
    revert scale
    decide
  refine ⟨value, ?_, Entries.mem_of_get? found⟩
  rw [definition, if_neg notExtension, themeOf_defaults.1, found]

/-- What a scale has to be by default is not null. -/
theorem evaluate_default_ne_null {theme : Entries Setting} {name : String} {start : Setting}
    (scale : name ∈ scaleNames)
    (evaluated : evaluate (lookIn theme) ((definition name defaults).getD .null) = .ok start) :
    start ≠ .null := by
  obtain ⟨value, defined, listed⟩ := definition_defaults scale
  rw [defined] at evaluated
  rcases defaultTheme_yields _ listed with
    ⟨entries, same⟩ | ⟨rule, same, yields⟩
  · cases same
    cases evaluated
    simp
  · cases same
    exact run_ne_null yields evaluated

/-- What a scale has to be over the defaults is null exactly when this is the last word on it. -/
theorem lateBound_null_iff {theme : Entries Setting} {name : String} {value : Setting}
    (data : StatesData config) (scale : name ∈ scaleNames)
    (bound : lateBound [config, defaults] theme name = .ok value) :
    value = .null ↔ lastWord name config = some .null := by
  rw [lateBound_over_defaults] at bound
  obtain ⟨start, evaluated, extended⟩ := bind_eq_ok.mp bound
  unfold lastWord
  cases extension : Entries.get? (extensionOf config) name with
  | some layer =>
    have kept : evaluate (lookIn theme) layer = .ok layer :=
      evaluate_of_ne_rule fun rule same => data.extensions name rule (same ▸ extension)
    rw [extendFrom, extension] at extended
    simp only [kept, bind, Except.bind, pure, Except.pure, Except.ok.injEq] at extended
    subst extended
    unfold overlay
    cases start <;> cases layer <;> simp
  | none =>
    rw [extendFrom, extension] at extended
    cases extended
    rw [Option.none_or]
    cases defined : definition name config with
    | some layer =>
      rw [defined, Option.some_or, Option.getD_some,
        evaluate_of_ne_rule fun rule same => data.definitions name rule (same ▸ defined)]
        at evaluated
      cases evaluated
      simp
    | none =>
      rw [defined, Option.none_or] at evaluated
      simp [evaluate_default_ne_null scale evaluated]

/-! ## The configuration over the defaults -/

/-- A part of a configuration is refused or read. -/
theorem part_cases (name : String) (value : Option Setting) :
    (∃ cause, part name value = .error (.config cause)) ∨
      ∃ entries, part name value = .ok entries := by
  unfold part
  split <;> simp

/-- A configuration is refused, or added to what was gathered. -/
theorem Gathered.add_cases (gathered : Gathered) (config : Setting) :
    (∃ cause, gathered.add config = .error (.config cause)) ∨
      ∃ further, gathered.add config = .ok further := by
  cases config with
  | mapping entries =>
    rcases part_cases "theme" (Entries.get? entries "theme") with ⟨cause, refused⟩ | ⟨theme, read⟩
    · exact .inl ⟨cause, by simp [Gathered.add, refused, bind, Except.bind]⟩
    · rcases part_cases "theme.extend" (Entries.get? theme "extend") with
        ⟨cause, refused⟩ | ⟨extension, readToo⟩
      · exact .inl ⟨cause, by simp [Gathered.add, read, refused, bind, Except.bind]⟩
      · exact .inr ⟨_, by simp only [Gathered.add, read, readToo, bind, Except.bind]; rfl⟩
  | _ => exact .inl ⟨_, rfl⟩

/-- Gathering configurations fails only by refusing one of them. -/
theorem gather_cases (configs : List Setting) :
    (∃ cause, gather configs = .error (.config cause)) ∨
      ∃ gathered, gather configs = .ok gathered := by
  suffices further : ∀ start : Gathered,
      (∃ cause, configs.foldlM Gathered.add start = .error (.config cause)) ∨
        ∃ gathered, configs.foldlM Gathered.add start = .ok gathered from further ⟨[], [], []⟩
  induction configs with
  | nil => exact fun start => .inr ⟨start, rfl⟩
  | cons config rest inductionHypothesis =>
    intro start
    rw [List.foldlM_cons]
    rcases start.add_cases config with ⟨cause, refused⟩ | ⟨next, added⟩
    · exact .inl ⟨cause, by simp [refused, bind, Except.bind]⟩
    · rw [added]
      exact inductionHypothesis next

/-- A configuration resolved over the defaults: the entries beside the theme are those that were
given first, and a scale of the theme is a mapping unless the last word on it is null. -/
structure SettledFor (config resolved : Setting) : Prop where
  settings : ∀ name, name ≠ "theme" →
    entry resolved name = .ok ((settingOf name config).or (settingOf name defaults))
  scales : ∀ name ∈ scaleNames, ∀ fallback,
    lastWord name config = some .null ∧ themeAt resolved name fallback = .ok .null ∨
      lastWord name config ≠ some .null ∧
        ∃ scale, themeAt resolved name fallback = .ok (.mapping scale)

/-- The rules among the definitions are the defaults' own. -/
theorem base_yields (data : StatesData config)
    (base : ∀ name, Entries.get? gathered.base name =
      [config, defaults].findSome? (definition name)) :
    LayerYields scaleNames gathered.layers.base := by
  intro name rule found
  rw [Gathered.layers, base, List.findSome?_cons] at found
  cases defined : definition name config with
  | some value =>
    rw [defined] at found
    exact absurd (defined.trans found) (data.definitions name rule)
  | none =>
    rw [defined, List.findSome?_singleton] at found
    rcases defaultTheme_yields _ (mem_defaultTheme found) with
      ⟨entries, same⟩ | ⟨other, same, yields⟩
    · cases same
    · cases same
      exact yields

/-- There are no rules among the extensions. -/
theorem extensions_yield (data : StatesData config)
    (extensions : gathered.extensions = [config, defaults].map extensionOf) :
    ∀ extension ∈ gathered.layers.extensions, LayerYields scaleNames extension := by
  intro extension member name rule found
  rw [Gathered.layers, extensions, List.mem_reverse, List.map_cons, List.map_singleton,
    themeOf_defaults.2, List.mem_cons, List.mem_singleton] at member
  rcases member with rfl | rfl
  · exact absurd found (data.extensions name rule)
  · cases found

/-- A scale is read from the theme that stands behind the settings. -/
theorem themeAt_of_get? {settings theme : Entries Setting} {name : String} {value : Setting}
    (beside : Entries.get? settings "theme" = none) (scale : name ∈ scaleNames)
    (found : Entries.get? theme name = some value) (fallback : Setting) :
    themeAt (.mapping (settings ++ [("theme", .mapping theme)])) name fallback = .ok value := by
  have whole : ∀ name ∈ scaleNames, Text.splitAtEach '.' name = [name] := by decide
  rw [themeAt, entry_theme beside]
  simp [whole name scale, walk, found, bind, Except.bind, pure, Except.pure]

/-- Every scale is in a theme resolved over the defaults, has the value that its layers come to in
this theme, and is read from it. -/
theorem scale_of_resolved {theme : Entries Setting}
    (read : gather [config, defaults] = .ok gathered)
    (settled : gathered.layers.resolved scaleNames = .ok theme) {name : String}
    (scale : name ∈ scaleNames) :
    ∃ value, Entries.get? theme name = some value ∧
      lateBound [config, defaults] theme name = .ok value ∧
        ∀ fallback, themeAt (.mapping (gathered.settings ++ [("theme", .mapping theme)])) name
          fallback = .ok value := by
  obtain ⟨named, fold⟩ := Layers.resolved_settles settled
  obtain ⟨_, _, settings⟩ := gather_eq_ok read
  obtain ⟨byDefault, defined, _⟩ := definition_defaults scale
  have listed : name ∈ Entries.names theme := by
    rw [named, mem_layers_names_iff read]
    exact ⟨defaults, by simp, .inl (by simp [defined])⟩
  obtain ⟨value, found⟩ := Option.isSome_iff_exists.mp
    ((Entries.get?_isSome_iff theme name).mpr listed)
  refine ⟨value, found, ?_, themeAt_of_get? settings scale found⟩
  rw [← settle_eq_lateBound read]
  exact fold name value found

/-- Resolving data over the defaults refuses it, or settles every scale. -/
theorem resolve_data_cases (data : StatesData config) :
    (∃ cause, resolve [config, defaults] = .error (.config cause)) ∨
      ∃ resolved, resolve [config, defaults] = .ok resolved ∧ SettledFor config resolved := by
  rcases gather_cases [config, defaults] with ⟨cause, refused⟩ | ⟨gathered, read⟩
  · exact .inl ⟨cause, by simp [resolve, refused, bind, Except.bind]⟩
  obtain ⟨base, extensions, _⟩ := gather_eq_ok read
  rcases Layers.resolved_reports (base_yields data base) (extensions_yield data extensions) with
    ⟨cause, refused⟩ | ⟨theme, settled, inShape⟩
  · exact .inl ⟨cause, by simp [resolve, read, refused, bind, Except.bind]⟩
  have returned : resolve [config, defaults] =
      .ok (.mapping (gathered.settings ++ [("theme", .mapping theme)])) :=
    bind_eq_ok.mpr ⟨gathered, read, bind_eq_ok.mpr ⟨theme, settled, rfl⟩⟩
  refine .inr ⟨_, returned, ?_, ?_⟩
  · intro name beside
    rw [entry, Entries.get?_append, gather_settings beside read, findSome?_over_defaults,
      Entries.get?_cons]
    simp [beside, Entries.get?]
  · intro name scale fallback
    obtain ⟨value, found, bound, answered⟩ := scale_of_resolved read settled scale
    have null := lateBound_null_iff data scale bound
    cases value with
    | null => exact .inl ⟨null.mp rfl, answered fallback⟩
    | mapping entries =>
      refine .inr ⟨fun last => ?_, entries, answered fallback⟩
      cases null.mpr last
    | _ => exact (inShape name scale _ found).elim

end Config

end ClassOrder
