import ClassOrder.Config.Resolution
import ClassOrder.Proofs.Entries
import ClassOrder.Proofs.Fallible

/-!
# What is gathered from configurations

Each configuration is read for three things: its settings beside the theme, the
definitions of its theme, and the extension of it. Gathering fails only on a configuration
that cannot be read. Otherwise it fills in settings and definitions from the strongest
configuration to the weakest, so the first one that has a name decides, and it keeps the
extensions as they are.
-/
namespace ClassOrder.Config

open Fallible

/-! ## Reading one configuration -/

/-- The entries of a mapping that may be missing. -/
def entriesIn (value : Option Setting) : Entries Setting :=
  match value with
  | some (.mapping entries) => entries
  | _ => []

/-- The theme of a configuration. -/
def themeOf (config : Setting) : Entries Setting :=
  match config with
  | .mapping entries => entriesIn (Entries.get? entries "theme")
  | _ => []

/-- The part of a configuration's theme that extends the merged theme. -/
def extensionOf (config : Setting) : Entries Setting :=
  entriesIn (Entries.get? (themeOf config) "extend")

/-- What a configuration's theme says about an entry. The extension is not one. -/
def definition (name : String) (config : Setting) : Option Setting :=
  if name = "extend" then none else Entries.get? (themeOf config) name

/-- What a configuration says about an entry beside the theme. -/
def settingOf (name : String) (config : Setting) : Option Setting :=
  match config with
  | .mapping entries => Entries.get? entries name
  | _ => none

/-- All that a configuration's theme defines. -/
def definitionsOf (config : Setting) : Entries Setting :=
  (themeOf config).filter fun (name, _) => name != "extend"

/-- All that a configuration sets beside the theme. -/
def settingsOf (config : Setting) : Entries Setting :=
  match config with
  | .mapping entries => entries.filter fun (name, _) => name != "theme"
  | _ => []

/-- A configuration can be read when it is a mapping and its theme, and the extension of that, are
mappings unless they are absent or null. -/
def Readable (config : Setting) : Prop :=
  ∃ entries theme extension, config = .mapping entries ∧
    part "theme" (Entries.get? entries "theme") = .ok theme ∧
    part "theme.extend" (Entries.get? theme "extend") = .ok extension

/-- In no mapping that a path of names leads to, a name is there twice. -/
def NamesOnce (value : Setting) : Prop :=
  ∀ path entries, Theme.walk value path = some (.mapping entries) → (Entries.names entries).Nodup

variable {configs : List Setting} {config : Setting} {gathered further : Gathered}

/-- What is found among the definitions is what the theme says. -/
theorem get?_definitionsOf (config : Setting) (name : String) :
    Entries.get? (definitionsOf config) name = definition name config := by
  rw [definitionsOf, Entries.get?_filter (· != "extend")]
  by_cases reserved : name = "extend" <;> simp [definition, reserved]

/-- What is found among the settings is what the configuration says beside the theme. -/
theorem get?_settingsOf (config : Setting) (name : String) :
    Entries.get? (settingsOf config) name =
      if name = "theme" then none else settingOf name config := by
  cases config with
  | mapping entries =>
    rw [settingsOf, Entries.get?_filter (· != "theme"), settingOf]
    by_cases reserved : name = "theme" <;> simp [reserved]
  | _ => simp [settingsOf, settingOf, Entries.get?]

/-- A part that is read is the mapping that stands there, or is empty. -/
theorem part_eq_ok {name : String} {value : Option Setting} {entries : Entries Setting}
    (read : part name value = .ok entries) :
    entries = entriesIn value := by
  unfold part at read
  split at read
  · cases read
    rfl
  · cases read
    rfl
  · cases read
    rfl
  · cases read

/-! ## Mappings without repeated names -/

/-- What stands in a mapping without repeated names is without them as well. -/
theorem NamesOnce.of_get? {entries : Entries Setting} {name : String} {value : Setting}
    (once : NamesOnce (.mapping entries)) (found : Entries.get? entries name = some value) :
    NamesOnce value := by
  intro path inner reached
  apply once (name :: path) inner
  rw [Theme.walk, found]
  exact reached

/-- A mapping is without repeated names when its own names are there once and its entries are
without them. -/
theorem namesOnce_mapping_iff {entries : Entries Setting} : NamesOnce (.mapping entries) ↔
    (Entries.names entries).Nodup ∧ ∀ entry ∈ entries, NamesOnce entry.2 := by
  constructor
  · intro once
    have own : (Entries.names entries).Nodup := once [] entries rfl
    refine ⟨own, ?_⟩
    intro entry member
    exact once.of_get? ((Entries.get?_eq_some_iff own).mpr member)
  · rintro ⟨own, each⟩ path inner reached
    cases path with
    | nil =>
      cases reached
      exact own
    | cons name rest =>
      rw [Theme.walk] at reached
      split at reached
      · rename_i value found
        exact each _ (Entries.mem_of_get? found) rest inner reached
      · cases reached

/-- In a mapping without entries no name is there twice. -/
theorem namesOnce_nil : NamesOnce (.mapping []) :=
  namesOnce_mapping_iff.mpr ⟨Entries.nodup_names_nil, by simp⟩

/-- What is not a mapping has no names. -/
theorem namesOnce_of_not_mapping {value : Setting} (other : ∀ entries, value ≠ .mapping entries) :
    NamesOnce value := by
  intro path inner reached
  cases value with
  | mapping entries => exact absurd rfl (other entries)
  | _ => cases path <;> cases reached

/-- Nor is a name there twice where a part of a configuration is missing. -/
theorem namesOnce_entriesIn {value : Option Setting}
    (once : ∀ found, value = some found → NamesOnce found) :
    NamesOnce (.mapping (entriesIn value)) := by
  cases value with
  | none => exact namesOnce_nil
  | some found =>
    cases found with
    | mapping entries => exact once _ rfl
    | _ => exact namesOnce_nil

/-- The theme of a configuration without repeated names is without them. -/
theorem NamesOnce.themeOf (once : NamesOnce config) : NamesOnce (.mapping (themeOf config)) := by
  cases config with
  | mapping entries => exact namesOnce_entriesIn fun _ => once.of_get?
  | _ => exact namesOnce_nil

/-- So is the extension. -/
theorem NamesOnce.extensionOf (once : NamesOnce config) :
    NamesOnce (.mapping (extensionOf config)) :=
  namesOnce_entriesIn fun _ => once.themeOf.of_get?

/-- So is every definition. -/
theorem NamesOnce.definition {name : String} {value : Setting} (once : NamesOnce config)
    (defined : definition name config = some value) : NamesOnce value := by
  rw [Config.definition] at defined
  split at defined
  · cases defined
  · exact once.themeOf.of_get? defined

/-! ## Gathering several configurations -/

/-- A configuration is added exactly when it can be read, and then this is what it adds. -/
theorem Gathered.add_eq_ok_iff : gathered.add config = .ok further ↔
    Readable config ∧ further = {
      settings := fillIn gathered.settings (settingsOf config)
      base := fillIn gathered.base (definitionsOf config)
      extensions := gathered.extensions ++ [extensionOf config] } := by
  have readings {entries theme extension : Entries Setting}
      (read : part "theme" (Entries.get? entries "theme") = .ok theme)
      (readToo : part "theme.extend" (Entries.get? theme "extend") = .ok extension) :
      theme = themeOf (.mapping entries) ∧ extension = extensionOf (.mapping entries) := by
    have sameTheme : theme = themeOf (.mapping entries) := part_eq_ok read
    refine ⟨sameTheme, ?_⟩
    rw [extensionOf, ← sameTheme]
    exact part_eq_ok readToo
  constructor
  · intro added
    cases config with
    | mapping entries =>
      obtain ⟨theme, read, added⟩ := bind_eq_ok.mp added
      obtain ⟨extension, readToo, ⟨⟩⟩ := bind_eq_ok.mp added
      obtain ⟨rfl, rfl⟩ := readings read readToo
      exact ⟨⟨entries, _, _, rfl, read, readToo⟩, rfl⟩
    | _ => cases added
  · rintro ⟨⟨entries, theme, extension, rfl, read, readToo⟩, rfl⟩
    obtain ⟨rfl, rfl⟩ := readings read readToo
    exact bind_eq_ok.mpr ⟨_, read, bind_eq_ok.mpr ⟨_, readToo, rfl⟩⟩

/-- Adding configurations in turn succeeds exactly when each of them can be read. -/
theorem foldlM_add_eq_ok_iff : configs.foldlM Gathered.add gathered = .ok further ↔
    (∀ config ∈ configs, Readable config) ∧ further = {
      settings := (configs.map settingsOf).foldl fillIn gathered.settings
      base := (configs.map definitionsOf).foldl fillIn gathered.base
      extensions := gathered.extensions ++ configs.map extensionOf } := by
  induction configs generalizing gathered with
  | nil =>
    simp only [List.foldlM_nil, pure, Except.pure, Except.ok.injEq, List.not_mem_nil,
      List.map_nil, List.foldl_nil, List.append_nil]
    exact ⟨fun same => ⟨by simp, same.symm⟩, fun gathering => gathering.2.symm⟩
  | cons config rest inductionHypothesis =>
    rw [List.foldlM_cons, bind_eq_ok]
    simp only [Gathered.add_eq_ok_iff, inductionHypothesis, List.forall_mem_cons, List.map_cons,
      List.foldl_cons]
    constructor
    · rintro ⟨_, ⟨readable, rfl⟩, others, rfl⟩
      exact ⟨⟨readable, others⟩, by simp⟩
    · rintro ⟨⟨readable, others⟩, rfl⟩
      exact ⟨_, ⟨readable, rfl⟩, others, by simp⟩

/-- Gathering succeeds exactly when every configuration can be read, and this is the outcome. -/
theorem gather_eq_ok_iff : gather configs = .ok gathered ↔
    (∀ config ∈ configs, Readable config) ∧ gathered = {
      settings := (configs.map settingsOf).foldl fillIn []
      base := (configs.map definitionsOf).foldl fillIn []
      extensions := configs.map extensionOf } :=
  foldlM_add_eq_ok_iff

/-- The layers that configurations put down for an entry of the theme, uppermost first: what each
of them extends it by, and below these the first definition. -/
def stackOf (configs : List Setting) (name : String) : List Setting :=
  (configs.filterMap fun config => Entries.get? (extensionOf config) name) ++
    (configs.findSome? (definition name)).toList

/-- The theme layers of configurations. -/
def layersOf (configs : List Setting) : Theme.Layers where
  base := (configs.map definitionsOf).foldl fillIn []
  extensions := (configs.map extensionOf).reverse

/-- Configurations that can be read are gathered to their layers. -/
theorem exists_gather (readable : ∀ config ∈ configs, Readable config) :
    ∃ gathered, gather configs = .ok gathered ∧ gathered.layers = layersOf configs :=
  ⟨_, gather_eq_ok_iff.mpr ⟨readable, rfl⟩, rfl⟩

/-- Resolving succeeds exactly when every configuration can be read and their theme layers can be
resolved. The theme comes behind all that the configurations set beside it. -/
theorem resolve_eq_ok_iff {resolved : Setting} : resolve configs = .ok resolved ↔
    (∀ config ∈ configs, Readable config) ∧
      ∃ theme, (layersOf configs).resolved scaleNames = .ok theme ∧
        resolved = .mapping
          ((configs.map settingsOf).foldl fillIn [] ++ [("theme", .mapping theme)]) := by
  rw [resolve, bind_eq_ok]
  constructor
  · rintro ⟨gathered, read, returned⟩
    obtain ⟨readable, rfl⟩ := gather_eq_ok_iff.mp read
    obtain ⟨theme, settled, ⟨⟩⟩ := bind_eq_ok.mp returned
    exact ⟨readable, theme, settled, rfl⟩
  · rintro ⟨readable, theme, settled, rfl⟩
    exact ⟨_, gather_eq_ok_iff.mpr ⟨readable, rfl⟩, bind_eq_ok.mpr ⟨theme, settled, rfl⟩⟩

/-! ## Filling in -/

/-- Filling in finds what was known before, and else what was added. -/
theorem get?_fillIn (known added : Entries Setting) (name : String) :
    Entries.get? (fillIn known added) name =
      (Entries.get? known name).or (Entries.get? added name) := by
  induction added generalizing known with
  | nil => simp [fillIn, Entries.get?]
  | cons entry rest inductionHypothesis =>
    obtain ⟨first, value⟩ := entry
    change Entries.get? (fillIn (if Entries.contains known first then known
      else known ++ [(first, value)]) rest) name = _
    rw [inductionHypothesis, Entries.get?_cons]
    by_cases same : name = first
    · subst same
      by_cases present : Entries.contains known name = true
      · obtain ⟨found, known⟩ := Option.isSome_iff_exists.mp present
        simp [present, known]
      · have missing := Option.not_isSome_iff_eq_none.mp present
        simp [present, missing, Entries.get?_append, Entries.get?_cons]
    · by_cases present : Entries.contains known first = true
      · simp [present, same]
      · rw [if_neg present, Entries.get?_append, Entries.get?_cons]
        simp [same, Entries.get?]

/-- Filling in what is known already adds nothing. -/
theorem fillIn_of_known {known added : Entries Setting}
    (present : ∀ name ∈ Entries.names added, name ∈ Entries.names known) :
    fillIn known added = known := by
  induction added with
  | nil => rfl
  | cons entry rest inductionHypothesis =>
    obtain ⟨here, others⟩ := List.forall_mem_cons.mp present
    have contained : Entries.contains known entry.1 = true :=
      (Entries.get?_isSome_iff known entry.1).mpr here
    change fillIn (if Entries.contains known entry.1 then known else known ++ [entry]) rest = known
    rw [if_pos contained]
    exact inductionHypothesis others

/-- Filling in entries of different names, after others with different names again, adds them as
they stand. -/
theorem fillIn_of_nodup {known added : Entries Setting}
    (once : (Entries.names (known ++ added)).Nodup) : fillIn known added = known ++ added := by
  induction added generalizing known with
  | nil => exact (List.append_nil known).symm
  | cons entry rest inductionHypothesis =>
    have fresh : ¬Entries.contains known entry.1 := by
      rw [Entries.contains, Entries.get?_isSome_iff]
      intro present
      rw [Entries.names, List.map_append] at once
      exact (List.nodup_append.mp once).2.2 _ present _ List.mem_cons_self rfl
    change fillIn (if Entries.contains known entry.1 then known else known ++ [entry]) rest = _
    rw [if_neg fresh, inductionHypothesis (by simpa using once), List.append_assoc,
      List.singleton_append]

/-- Filling in repeats no name. -/
theorem nodup_names_fillIn {known : Entries Setting} (once : (Entries.names known).Nodup)
    (added : Entries Setting) : (Entries.names (fillIn known added)).Nodup := by
  induction added generalizing known with
  | nil => exact once
  | cons entry rest inductionHypothesis =>
    obtain ⟨first, value⟩ := entry
    change (Entries.names (fillIn (if Entries.contains known first then known
      else known ++ [(first, value)]) rest)).Nodup
    apply inductionHypothesis
    by_cases present : Entries.contains known first = true
    · rwa [if_pos present]
    · have fresh : first ∉ Entries.names known := by
        rwa [← Entries.get?_isSome_iff]
      rw [if_neg present, ← Entries.insert_of_fresh fresh]
      exact Entries.nodup_names_insert once first value

/-- So does filling in from several readings. -/
theorem nodup_names_foldl_fillIn (readings : List (Entries Setting)) {known : Entries Setting}
    (once : (Entries.names known).Nodup) : (Entries.names (readings.foldl fillIn known)).Nodup := by
  induction readings generalizing known with
  | nil => exact once
  | cons first rest inductionHypothesis =>
    exact inductionHypothesis (nodup_names_fillIn once first)

/-- Filling in from several readings finds what the first of them says that says anything. -/
theorem get?_foldl_fillIn (reading : Setting → Entries Setting) (configs : List Setting)
    (known : Entries Setting) (name : String) :
    Entries.get? ((configs.map reading).foldl fillIn known) name =
      (Entries.get? known name).or
        (configs.findSome? fun config => Entries.get? (reading config) name) := by
  induction configs generalizing known with
  | nil => simp
  | cons config rest inductionHypothesis =>
    rw [List.map_cons, List.foldl_cons, inductionHypothesis, get?_fillIn, Option.or_assoc,
      List.findSome?_cons]
    cases Entries.get? (reading config) name <;> rfl

/-- The names that are filled in are those of all readings. -/
theorem mem_names_foldl_fillIn_iff {reading : Setting → Entries Setting} {name : String} :
    name ∈ Entries.names ((configs.map reading).foldl fillIn []) ↔
      ∃ config ∈ configs, name ∈ Entries.names (reading config) := by
  simp only [← Entries.get?_isSome_iff, get?_foldl_fillIn, ← List.findSome?_isSome_iff]
  rfl

/-- Whatever a configuration names is filled in. -/
theorem mem_names_foldl_fillIn {reading : Setting → Entries Setting} (member : config ∈ configs)
    {name : String} (named : name ∈ Entries.names (reading config)) :
    name ∈ Entries.names ((configs.map reading).foldl fillIn []) :=
  mem_names_foldl_fillIn_iff.mpr ⟨config, member, named⟩

/-- The theme is not among the settings. -/
theorem theme_not_mem_settings (configs : List Setting) :
    "theme" ∉ Entries.names ((configs.map settingsOf).foldl fillIn []) := by
  rw [mem_names_foldl_fillIn_iff]
  simp [← Entries.get?_isSome_iff, get?_settingsOf]

/-- Gathering finds the first definition of every entry, and all extensions in order. The theme is
not among the settings. -/
theorem gather_eq_ok (read : gather configs = .ok gathered) :
    (∀ name, Entries.get? gathered.base name = configs.findSome? (definition name)) ∧
      gathered.extensions = configs.map extensionOf ∧
      Entries.get? gathered.settings "theme" = none := by
  obtain ⟨_, rfl⟩ := gather_eq_ok_iff.mp read
  refine ⟨fun name => ?_, rfl, ?_⟩
  · simp only [get?_foldl_fillIn, get?_definitionsOf]
    rfl
  · exact (Entries.get?_eq_none_iff _ "theme").mpr (theme_not_mem_settings configs)

/-- Gathering finds the first setting of every entry beside the theme. -/
theorem gather_settings {name : String} (beside : name ≠ "theme")
    (read : gather configs = .ok gathered) :
    Entries.get? gathered.settings name = configs.findSome? (settingOf name) := by
  obtain ⟨_, rfl⟩ := gather_eq_ok_iff.mp read
  simp only [get?_foldl_fillIn, get?_settingsOf, if_neg beside]
  rfl

end ClassOrder.Config
