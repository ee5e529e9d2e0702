import ClassOrder.Proofs.Config.Refusal
import ClassOrder.Proofs.Index.Gathering
import ClassOrder.Proofs.Index.Prefix
import ClassOrder.Proofs.Plugin.Reading
import ClassOrder.Proofs.Sorter.Changes

/-!
# Which configurations are reported

A user who misshapes the theme, or one of its scales, is told so. The resolver checks these
and nothing else: the switches for plugins, the variants and a scale that is null are found
to be of the wrong kind by the plugins that use them, and only if these are enabled. So a
sorter is made, or the configuration is refused, exactly when the resolver refuses it or
every core plugin is either disabled or can read what it reads.
-/
namespace ClassOrder

open Fallible

namespace Config

variable {config resolved : Setting} {entries : Entries Setting} {plugin : String}

/-- A user's configuration suits a core plugin when it does not end in a null for a scale that
the plugin reads and lists texts as its variants, if anything. -/
def Suits (config : Setting) (plugin : String) : Prop :=
  (∀ scale ∈ Plugin.scalesRead plugin, lastWord scale config ≠ some .null) ∧
    (plugin ≠ "container" → ReadsVariants config plugin)

/-- Plugins read scales of the default theme only. -/
theorem mem_scaleNames_of_read {scale : String} (read : scale ∈ Plugin.scalesRead plugin) :
    scale ∈ scaleNames := by
  unfold Plugin.scalesRead at read
  split at read
  · cases List.mem_singleton.mp read
    decide
  · split at read
    · rcases List.mem_cons.mp read with rfl | read
      · decide
      · cases List.mem_singleton.mp read
        decide
    · exact List.contains_iff_mem.mp (List.mem_filter.mp read).2

/-- The default variants are texts. -/
theorem defaultVariants_texts : ∀ entry ∈ defaultVariants, ∃ texts, entry.2 = textList texts := by
  simp only [defaultVariants, List.forall_mem_cons]
  exact ⟨⟨_, rfl⟩, ⟨_, rfl⟩, ⟨_, rfl⟩, ⟨_, rfl⟩, ⟨_, rfl⟩, ⟨_, rfl⟩, ⟨_, rfl⟩, ⟨_, rfl⟩, ⟨_, rfl⟩,
    ⟨_, rfl⟩, ⟨_, rfl⟩, ⟨_, rfl⟩, ⟨_, rfl⟩, ⟨_, rfl⟩, ⟨_, rfl⟩, ⟨_, rfl⟩, ⟨_, rfl⟩, by simp⟩

/-- Whether a plugin is enabled can be said, or a value is searched that cannot be. -/
theorem enables_cases (entries : Entries Setting) (plugin : String) :
    (∃ enabled, Config.enables (.mapping entries) (.text plugin) = .ok enabled) ∨
      ∃ fault, Config.enables (.mapping entries) (.text plugin) = .error fault ∧
        fault.IsMisuse := by
  unfold Config.enables
  simp only [entry, bind, Except.bind]
  cases (Entries.get? entries "corePlugins").getD .null with
  | null => exact .inl ⟨_, rfl⟩
  | mapping switches => exact .inl ⟨_, rfl⟩
  | list items => exact .inl ⟨_, rfl⟩
  | text whole => exact .inl ⟨_, rfl⟩
  | _ => exact .inr ⟨_, rfl, trivial⟩

namespace SettledFor

/-- What a configuration is resolved to is a mapping. -/
theorem exists_mapping (settled : SettledFor config resolved) :
    ∃ entries, resolved = .mapping entries := by
  have read := settled.settings "prefix" (by decide)
  cases resolved with
  | mapping entries => exact ⟨entries, rfl⟩
  | _ => cases read

variable (settled : SettledFor (.mapping entries) resolved)

include settled

/-- The same plugins are enabled as in the configuration alone. -/
theorem enables_eq (plugin : String) :
    Config.enables resolved (.text plugin) = Config.enables (.mapping entries) (.text plugin) := by
  have byDefault : settingOf "corePlugins" defaults = some (.mapping []) := by
    with_unfolding_all rfl
  unfold Config.enables
  rw [settled.settings "corePlugins" (by decide), byDefault]
  cases given : Entries.get? entries "corePlugins" with
  | none =>
    simp only [settingOf, entry, given]
    rfl
  | some value =>
    simp only [settingOf, entry, given]
    rfl

/-- Variants are read as from the configuration alone, since the default ones are texts. -/
theorem readsVariants_iff (plugin : String) :
    ReadsVariants resolved plugin ↔ ReadsVariants (.mapping entries) plugin := by
  have byDefault : settingOf "variants" defaults = some (.mapping defaultVariants) := by
    with_unfolding_all rfl
  unfold ReadsVariants variantsOf
  rw [settled.settings "variants" (by decide), byDefault]
  cases given : Entries.get? entries "variants" with
  | some value =>
    simp only [settingOf, entry, given]
    rfl
  | none =>
    simp only [settingOf, entry, given]
    refine iff_of_true ?_ ⟨[], rfl, by simp⟩
    cases found : Entries.get? defaultVariants plugin with
    | none =>
      exact ⟨[], by simp [entryAt, Value.asKey, Value.items, found, bind, Except.bind, pure,
        Except.pure], by simp⟩
    | some variants =>
      obtain ⟨texts, same⟩ := defaultVariants_texts _ (Entries.mem_of_get? found)
      cases same
      exact ⟨texts.map .text, by simp [entryAt, Value.asKey, Value.items, found, bind,
        Except.bind, pure, Except.pure], by simp⟩

/-- A resolved configuration serves the plugins that the configuration suits. -/
theorem serves_iff (plugin : String) :
    Plugin.Serves resolved plugin ↔ Suits (.mapping entries) plugin := by
  have scales : ∀ scale ∈ Plugin.scalesRead plugin,
      (ReadsScale resolved scale ↔ lastWord scale (.mapping entries) ≠ some .null) := by
    intro scale read
    rcases settled.scales scale (mem_scaleNames_of_read read) (.mapping []) with
      ⟨last, found⟩ | ⟨last, entries, found⟩
    · simp [ReadsScale, last, found]
    · simp [ReadsScale, last, found]
  unfold Plugin.Serves Suits
  rw [settled.readsVariants_iff, forall₂_congr scales]

end SettledFor

end Config

/-! ## The index of the core plugins -/

/-- The core plugins are found under their names. -/
theorem Catalog.load_core : ∀ entry ∈ Plugin.corePrograms,
    builtin.load (.text entry.1) = .ok (.program entry.1 entry.2) := by
  simp only [Plugin.corePrograms, List.forall_mem_cons]
  exact ⟨rfl, rfl, rfl, rfl, rfl, rfl, rfl, rfl, rfl, rfl, rfl, rfl, rfl, rfl, rfl, rfl, rfl, rfl,
    by simp⟩

namespace IndexSettings

variable {settings : IndexSettings} {policy : GroupPolicy} {sorted : Bool}
  {entries : Entries Setting}

/-- A plugin is disabled, or it is enabled and served by the configuration. -/
def Passes (config : Setting) (plugin : String) : Prop :=
  Config.enables config (.text plugin) = .ok false ∨
    Config.enables config (.text plugin) = .ok true ∧ Plugin.Serves config plugin

/-- Over a resolved configuration a plugin passes when it is disabled in the user's own, or enabled
there and suited. -/
theorem passes_iff {resolved : Setting} (settled : Config.SettledFor (.mapping entries) resolved)
    (plugin : String) :
    Passes resolved plugin ↔
      Config.enables (.mapping entries) (.text plugin) = .ok false ∨
        Config.enables (.mapping entries) (.text plugin) = .ok true ∧
          Config.Suits (.mapping entries) plugin := by
  rw [Passes, settled.enables_eq, settled.serves_iff]

/-- A core plugin that passes is judged, and one that does not misuses a value. -/
theorem judge_core_cases (entries : Entries Setting) (policy : GroupPolicy) (sorted : Bool)
    {program : String × (Setting → Registering Unit)} (listed : program ∈ Plugin.corePrograms) :
    (Passes (.mapping entries) program.1 ∧
        ∃ verdict, (core (.mapping entries) policy sorted).judge (.text program.1) = .ok verdict) ∨
      ¬ Passes (.mapping entries) program.1 ∧
        ∃ fault, (core (.mapping entries) policy sorted).judge (.text program.1) = .error fault ∧
          fault.IsMisuse := by
  have asked : Config.enables (core (.mapping entries) policy sorted).config (.text program.1) =
      Config.enables (.mapping entries) (.text program.1) := rfl
  have styles : (core (.mapping entries) policy sorted).styles (.text program.1) =
      (Plugin.process [.program program.1 program.2] (.mapping entries)).map
        StyleForests.ofStyles :=
    styles_core (Catalog.load_core program listed) (.mapping entries)
  rcases Config.enables_cases entries program.1 with ⟨enabled, answered⟩ | ⟨fault, failed, misuse⟩
  · cases enabled with
    | false => exact .inl ⟨.inl answered, _, judge_eq_ok.mpr (.inl ⟨asked ▸ answered, rfl⟩)⟩
    | true =>
      rcases Plugin.process_core_cases listed entries with
        ⟨serves, registered, made⟩ | ⟨lacking, fault, failed, misuse⟩
      · rw [made] at styles
        exact .inl ⟨.inr ⟨answered, serves⟩, _, judge_eq_ok.mpr (.inr (.inr
          ⟨asked ▸ answered, _, _, styles, contributionOf_ofStyles _ registered, rfl⟩))⟩
      · refine .inr ⟨by simp [Passes, answered, lacking], fault, ?_, misuse⟩
        rw [failed] at styles
        unfold judge
        rw [asked, answered, styles]
        cases fault <;> first | exact misuse.elim | rfl
  · refine .inr ⟨by simp [Passes, failed], fault, ?_, misuse⟩
    unfold judge
    rw [asked, failed]
    rfl

/-- The index of the core plugins is built when all of them pass, and a value is misused
otherwise. -/
theorem build_core_cases (entries : Entries Setting) (policy : GroupPolicy) (sorted : Bool) :
    let order := Plugin.corePrograms.map fun program => Value.text program.1
    ((∀ program ∈ Plugin.corePrograms, Passes (.mapping entries) program.1) ∧
        ∃ index, ((core (.mapping entries) policy sorted).build order).outcome = .ok index) ∨
      (¬ ∀ program ∈ Plugin.corePrograms, Passes (.mapping entries) program.1) ∧
        ∃ fault, ((core (.mapping entries) policy sorted).build order).outcome = .error fault ∧
          fault.IsMisuse := by
  intro order
  have judged {program : String × (Setting → Registering Unit)}
      (listed : program ∈ Plugin.corePrograms) := judge_core_cases entries policy sorted listed
  cases built : ((core (.mapping entries) policy sorted).build order).outcome with
  | ok index =>
    refine .inl ⟨?_, index, rfl⟩
    intro program listed
    obtain ⟨verdict, returned⟩ := (build_eq_ok.mp built).1 (.text program.1)
      (List.mem_map_of_mem listed)
    rcases judged listed with ⟨passes, _⟩ | ⟨_, fault, failed, _⟩
    · exact passes
    · cases returned.symm.trans failed
  | error fault =>
    obtain ⟨id, ordered, found⟩ := List.exists_of_findSome?_eq_some (build_eq_error.mp built)
    have ended := faultOf?_eq_some.mp found
    obtain ⟨program, listed, rfl⟩ := List.mem_map.mp ordered
    rcases judged listed with ⟨_, verdict, returned⟩ | ⟨fails, other, failed, misuse⟩
    · cases returned.symm.trans ended
    · cases failed.symm.trans ended
      exact .inr ⟨fun all => fails (all program listed), fault, rfl, misuse⟩

end IndexSettings

namespace Sorter

/-- The core plugins are ordered as they are listed. -/
theorem initialOrder_core : initialOrder .builtin none =
    .ok (Plugin.corePrograms.map fun program => .text program.1) := by
  with_unfolding_all rfl

/-- Making a sorter for the core plugins fails with the fault of the resolver, or with that of the
building. -/
theorem create_core_outcome (config : Setting) (options : SorterOptions) :
    (create config options .builtin .builtin none).outcome = (do
      let resolved ← resolveOver .builtin config
      let order := Plugin.corePrograms.map fun program => Value.text program.1
      let index ← ((IndexSettings.core resolved options.policy options.sorted).build order).outcome
      return ⟨options, .builtin, .builtin, resolved, order, index⟩) := by
  have usable : Catalog.builtin.isEmpty = false := rfl
  simp only [create, usable, Bool.false_eq_true, if_false, initialOrder_core]
  cases resolveOver .builtin config with
  | error fault => rfl
  | ok resolved => rfl

/-- A sorter for the core plugins is made, or the configuration is refused, exactly when the
resolver refuses it, or every core plugin is disabled or finds a configuration that suits it. In
all other cases a value is misused. Data never makes the resolver fail otherwise than with a fault
of the configuration. Then every core plugin is switched off, or runs, or misuses a value, and the
first to misuse one ends the building. -/
theorem create_reports_iff (user : Entries Plain) (options : SorterOptions) :
    let config : Setting := .ofPlain (.mapping user)
    let outcome := (create config options .builtin .builtin none).outcome
    (((∃ sorter, outcome = .ok sorter) ∨ ∃ cause, outcome = .error (.config cause)) ↔
        (∃ cause, resolveOver .builtin config = .error (.config cause)) ∨
          ∀ program ∈ Plugin.corePrograms,
            Config.enables config (.text program.1) = .ok false ∨
              Config.enables config (.text program.1) = .ok true ∧
                Config.Suits config program.1) ∧
      ∀ fault, outcome = .error fault → (∃ cause, fault = .config cause) ∨ fault.IsMisuse := by
  intro config outcome
  have made : outcome = _ := create_core_outcome config options
  rcases Config.resolve_data_cases (Config.statesData_ofPlain (.mapping user)) with
    ⟨cause, refused⟩ | ⟨resolved, returned, settled⟩
  · have refused : resolveOver .builtin config = .error (.config cause) := refused
    rw [refused] at made
    refine ⟨iff_of_true (.inr ⟨cause, made⟩) (.inl ⟨cause, refused⟩), ?_⟩
    intro fault failed
    cases made.symm.trans failed
    exact .inl ⟨cause, rfl⟩
  · have returned : resolveOver .builtin config = .ok resolved := returned
    obtain ⟨entries, rfl⟩ := settled.exists_mapping
    have all : (∀ program ∈ Plugin.corePrograms,
          IndexSettings.Passes (.mapping entries) program.1) ↔
        ∀ program ∈ Plugin.corePrograms,
          Config.enables config (.text program.1) = .ok false ∨
            Config.enables config (.text program.1) = .ok true ∧
              Config.Suits config program.1 :=
      forall₂_congr fun program _ => IndexSettings.passes_iff settled program.1
    rw [returned] at made
    rcases IndexSettings.build_core_cases entries options.policy options.sorted with
      ⟨passing, index, built⟩ | ⟨failing, fault, failed, misuse⟩
    · simp only [bind, Except.bind, built] at made
      refine ⟨iff_of_true (.inl ⟨_, made⟩) (.inr (all.mp passing)), ?_⟩
      intro fault failed
      cases made.symm.trans failed
    · simp only [bind, Except.bind, failed] at made
      refine ⟨iff_of_false ?_ ?_, ?_⟩
      · rintro (⟨sorter, created⟩ | ⟨cause, refused⟩)
        · cases made.symm.trans created
        · cases made.symm.trans refused
          exact misuse
      · rintro (⟨cause, refused⟩ | passing)
        · cases returned.symm.trans refused
        · exact failing (all.mpr passing)
      · intro other ended
        cases made.symm.trans ended
        exact .inr misuse

/-- The kind of value that was searched, when this is what failed. -/
def searchedKind? (outcome : Except Fault Sorter) : Option String :=
  match outcome with
  | .error (.misused .searched kind) => some kind
  | _ => none

/-- A number in the place of the plugins to enable is searched for the first plugin, and the
configuration is not refused. -/
theorem create_searches_number :
    (create (.ofPlain (.mapping [("corePlugins", .integer 5)])) {} .builtin .builtin none).outcome =
      .error (.misused .searched "int") := by
  have searched : searchedKind? (create (.ofPlain (.mapping [("corePlugins", .integer 5)])) {}
      .builtin .builtin none).outcome = some "int" := by
    decide +kernel
  unfold searchedKind? at searched
  split at searched
  · rename_i failed
    rw [failed, Option.some.inj searched]
  · cases searched

end Sorter

end ClassOrder
