import ClassOrder.Plugin.Registry
import ClassOrder.Proofs.Config.Gathering
import ClassOrder.Proofs.Theme.Nesting
import ClassOrder.Proofs.Theme.Settling

/-!
# References see the final theme

A rule may refer to entries that other configurations override or extend, and to entries
that are resolved after its own. It finds their final values: the resolved theme solves the
equations that say what each entry is when all lookups are answered from the theme itself.
The equations mention no order in which entries are resolved.
-/
namespace ClassOrder.Config

open Fallible Theme

/-- Lays what a configuration's extension says about an entry over a value, with lookups
answered from a theme. -/
def extendFrom (theme : Entries Setting) (name : String) (value : Setting) (config : Setting) :
    Except Fault Setting :=
  match Entries.get? (extensionOf config) name with
  | none => .ok value
  | some layer => do
    let above ← evaluate (lookIn theme) layer
    return overlay value above

/-- What an entry has to be in a theme: the first definition, or null, and over it the
extensions from the last configuration to the first, with all lookups answered from the
theme. -/
def lateBound (configs : List Setting) (theme : Entries Setting) (name : String) :
    Except Fault Setting := do
  let start ← evaluate (lookIn theme) ((configs.findSome? (definition name)).getD .null)
  configs.reverse.foldlM (extendFrom theme name) start

variable {configs : List Setting} {gathered : Gathered}

/-- Extending by the extensions of configurations is extending by one configuration after the
other. -/
theorem extend_extensionOf (theme : Entries Setting) (name : String) (configs : List Setting)
    (value : Setting) :
    extend (lookIn theme) name (configs.map extensionOf) value =
      configs.foldlM (extendFrom theme name) value := by
  induction configs generalizing value with
  | nil => rfl
  | cons config rest inductionHypothesis =>
    rw [List.map_cons, extend, List.foldlM_cons, extendFrom]
    cases Entries.get? (extensionOf config) name with
    | none => exact inductionHypothesis value
    | some layer => simp only [bind_assoc, pure_bind, inductionHypothesis]

/-- The layers of gathered configurations fold to what an entry has to be. -/
theorem settle_eq_lateBound (read : gather configs = .ok gathered) (theme : Entries Setting)
    (name : String) :
    gathered.layers.settle (lookIn theme) name = lateBound configs theme name := by
  obtain ⟨base, extensions, _⟩ := gather_eq_ok read
  simp only [Layers.settle, Gathered.layers, lateBound, base, extensions, ← List.map_reverse,
    extend_extensionOf]

/-- The layers define what some configuration defines or extends. -/
theorem mem_layers_names_iff (read : gather configs = .ok gathered) (name : String) :
    name ∈ gathered.layers.names ↔ ∃ config ∈ configs,
      (definition name config).isSome ∨ (Entries.get? (extensionOf config) name).isSome := by
  obtain ⟨base, extensions, _⟩ := gather_eq_ok read
  have extended : (∃ extension ∈ gathered.layers.extensions,
      (Entries.get? extension name).isSome) ↔
      ∃ config ∈ configs, (Entries.get? (extensionOf config) name).isSome := by
    rw [Gathered.layers, extensions]
    constructor
    · rintro ⟨_, member, present⟩
      obtain ⟨config, configured, rfl⟩ := List.mem_map.mp (List.mem_reverse.mp member)
      exact ⟨config, configured, present⟩
    · rintro ⟨config, configured, present⟩
      exact ⟨_, List.mem_reverse.mpr (List.mem_map_of_mem configured), present⟩
  rw [Layers.mem_names_iff, extended, Gathered.layers, base, List.findSome?_isSome_iff]
  simp only [and_or_left, exists_or]

/-- The theme is found behind settings that do not have one. -/
theorem entry_theme {settings : Entries Setting} (beside : Entries.get? settings "theme" = none)
    (theme : Entries Setting) : entry (.mapping (settings ++ [("theme", .mapping theme)])) "theme" =
      .ok (some (.mapping theme)) := by
  rw [entry, Entries.get?_append, beside]
  rfl

/-- Resolving configurations ends, as resolutions nest at most one deeper than there are defined
names, and what it returns has a theme that solves its own equations: the theme has an entry for
each name that some configuration defines or extends, and each of its values is what the entry has
to be when every lookup is answered from this very theme.

Proof: the bound holds because a name that is under way is not resolved again. For the equations,
what is remembered of a name is the fold over its layers, and the lookups of this fold found what
is remembered in the end. -/
theorem resolve_late_binding (configs : List Setting) :
    (∀ gathered, gather configs = .ok gathered → ∀ beyond name,
      resolveWithin beyond scaleNames gathered.layers (gathered.layers.names.length + 1) [] name =
        Theme.resolve scaleNames gathered.layers [] name) ∧
    ∀ resolved, resolve configs = .ok resolved →
      ∃ theme, entry resolved "theme" = .ok (some (.mapping theme)) ∧
        (∀ name, (Entries.get? theme name).isSome ↔ ∃ config ∈ configs,
          (definition name config).isSome ∨ (Entries.get? (extensionOf config) name).isSome) ∧
        ∀ name value, Entries.get? theme name = some value →
          lateBound configs theme name = .ok value := by
  refine ⟨fun gathered _ beyond name => resolveWithin_names beyond scaleNames _ name, ?_⟩
  intro resolved returned
  obtain ⟨gathered, read, returned⟩ := bind_eq_ok.mp returned
  obtain ⟨theme, settled, ⟨⟩⟩ := bind_eq_ok.mp returned
  obtain ⟨named, fold⟩ := Layers.resolved_settles settled
  obtain ⟨_, _, settings⟩ := gather_eq_ok read
  refine ⟨theme, ?_, ?_, ?_⟩
  · rw [entry, Entries.get?_append, settings]
    rfl
  · intro name
    rw [Entries.get?_isSome_iff, named, mem_layers_names_iff read]
  · intro name value found
    rw [← settle_eq_lateBound read]
    exact fold name value found

/-- Links in the colours of a palette, which a weaker configuration defines and this one
extends. -/
def shaded : List Setting := [
  .mapping [("theme", .mapping [
    ("link", .rule (.lookup "palette" .null)),
    ("extend", .mapping [("palette", .mapping [("main", .text "red")])])])],
  .mapping [("theme", .mapping [
    ("palette", .mapping [("main", .text "blue"), ("rest", .text "grey")])])]]

/-- The theme with both entries settled. -/
def shadedTheme : Entries Setting := [
  ("link", .mapping [("main", .text "red"), ("rest", .text "grey")]),
  ("palette", .mapping [("main", .text "red"), ("rest", .text "grey")])]

/-- The reference is resolved before the palette and sees it merged and extended. -/
theorem resolve_late_binding_forward_reference :
    (∃ gathered, gather shaded = .ok gathered ∧ ∀ beyond,
      resolveWithin beyond scaleNames gathered.layers (gathered.layers.names.length + 1) [] "link" =
        Theme.resolve scaleNames gathered.layers [] "link") ∧
      resolve shaded = .ok (.mapping [("theme", .mapping shadedTheme)]) ∧
      lateBound shaded shadedTheme "link" =
        .ok (.mapping [("main", .text "red"), ("rest", .text "grey")]) := by
  obtain ⟨ends, late⟩ := resolve_late_binding shaded
  have returned : resolve shaded = .ok (.mapping [("theme", .mapping shadedTheme)]) := by
    with_unfolding_all rfl
  obtain ⟨gathered, read, _⟩ := bind_eq_ok.mp returned
  obtain ⟨theme, found, _, fold⟩ := late _ returned
  cases found
  exact ⟨⟨gathered, read, fun beyond => ends gathered read beyond "link"⟩, returned,
    fold "link" _ rfl⟩

end ClassOrder.Config
