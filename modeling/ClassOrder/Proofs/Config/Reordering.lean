import Mathlib.Data.List.Forall2
import ClassOrder.Proofs.Config.Gathering
import ClassOrder.Proofs.Theme.Reordering

/-!
# The order in which a theme is declared

A configuration may list the entries of its theme in any order, and those of its extension
as well. What is gathered from it then lists the same definitions in another order, so the
layers define the same under every name. The resolved theme has the same entries, and only
their order may be another one.
-/
namespace ClassOrder.Config

open Fallible Theme

/-- A configuration with the entries of its theme, and those of its extension, in some other
order. -/
inductive Reordered : Setting → Setting → Prop where
  | refl (config : Setting) : Reordered config config
  | theme {entries theme others : Entries Setting}
      (stands : Entries.get? entries "theme" = some (.mapping theme)) (moved : theme.Perm others) :
      Reordered (.mapping entries) (.mapping (Entries.insert entries "theme" (.mapping others)))
  | extension {entries theme extension others : Entries Setting}
      (stands : Entries.get? entries "theme" = some (.mapping theme))
      (within : Entries.get? theme "extend" = some (.mapping extension))
      (moved : extension.Perm others) :
      Reordered (.mapping entries) (.mapping (Entries.insert entries "theme"
        (.mapping (Entries.insert theme "extend" (.mapping others)))))
  | trans {first second third : Setting} (earlier : Reordered first second)
      (later : Reordered second third) : Reordered first third

/-- Two configurations set the same beside the theme, and their themes have the same definitions and
the same extensions, each in some order. -/
structure SameDeclarations (config other : Setting) : Prop where
  readable : Readable other ↔ Readable config
  settings : settingsOf other = settingsOf config
  names : (Entries.names (themeOf config)).Perm (Entries.names (themeOf other))
  definitions : (definitionsOf config).Perm (definitionsOf other)
  extension : (extensionOf config).Perm (extensionOf other)

variable {config other : Setting} {configs others : List Setting} {entries : Entries Setting}

/-- A configuration with a theme can be read when the extension can. -/
theorem readable_iff_of_theme {theme : Entries Setting}
    (stands : Entries.get? entries "theme" = some (.mapping theme)) :
    Readable (.mapping entries) ↔
      ∃ extension, part "theme.extend" (Entries.get? theme "extend") = .ok extension := by
  constructor
  · rintro ⟨_, _, extension, ⟨⟩, read, readToo⟩
    rw [stands] at read
    cases read
    exact ⟨extension, readToo⟩
  · rintro ⟨extension, read⟩
    exact ⟨entries, theme, extension, rfl, by rw [stands]; rfl, read⟩

/-- Another theme declares the same when it has the same names and definitions, each in some order,
and an extension that reads alike. -/
theorem sameDeclarations_of_theme {theme arranged : Entries Setting}
    (stands : Entries.get? entries "theme" = some (.mapping theme))
    (names : (Entries.names theme).Perm (Entries.names arranged))
    (definitions : (theme.filter fun (name, _) => name != "extend").Perm
      (arranged.filter fun (name, _) => name != "extend"))
    (readable :
      (∃ extension, part "theme.extend" (Entries.get? arranged "extend") = .ok extension) ↔
        ∃ extension, part "theme.extend" (Entries.get? theme "extend") = .ok extension)
    (extension : (entriesIn (Entries.get? theme "extend")).Perm
      (entriesIn (Entries.get? arranged "extend"))) :
    SameDeclarations (.mapping entries)
      (.mapping (Entries.insert entries "theme" (.mapping arranged))) := by
  have standsToo : Entries.get? (Entries.insert entries "theme" (.mapping arranged)) "theme" =
      some (.mapping arranged) := by
    simp [Entries.get?_insert]
  have own : themeOf (.mapping entries) = theme := by
    simp [themeOf, stands, entriesIn]
  have ownToo : themeOf (.mapping (Entries.insert entries "theme" (.mapping arranged))) =
      arranged := by
    simp [themeOf, standsToo, entriesIn]
  refine ⟨?_, Entries.filter_insert (· != "theme") rfl entries _, ?_, ?_, ?_⟩
  · rw [readable_iff_of_theme stands, readable_iff_of_theme standsToo, readable]
  · rwa [own, ownToo]
  · rwa [definitionsOf, definitionsOf, own, ownToo]
  · rwa [extensionOf, extensionOf, own, ownToo]

/-- A reordered configuration declares the same. -/
theorem Reordered.sameDeclarations (reordered : Reordered config other)
    (once : (Entries.names (themeOf config)).Nodup) : SameDeclarations config other := by
  induction reordered with
  | refl config => exact ⟨.rfl, rfl, .rfl, .rfl, .rfl⟩
  | @theme entries theme others stands moved =>
    have own : themeOf (.mapping entries) = theme := by simp [themeOf, stands, entriesIn]
    have same := Entries.get?_of_perm (own ▸ once) moved "extend"
    apply sameDeclarations_of_theme stands (moved.map Prod.fst) (moved.filter _)
    · rw [same]
    · rw [same]
  | @extension entries theme extension others stands within moved =>
    have withinToo : Entries.get? (Entries.insert theme "extend" (.mapping others)) "extend" =
        some (.mapping others) := by
      simp [Entries.get?_insert]
    have listed : "extend" ∈ Entries.names theme :=
      (Entries.get?_isSome_iff theme "extend").mp (by simp [within])
    apply sameDeclarations_of_theme stands
    · rw [Entries.names_insert, if_pos]
      simpa using listed
    · rw [Entries.filter_insert (· != "extend") rfl]
    · rw [within, withinToo]
      exact ⟨fun _ => ⟨extension, rfl⟩, fun _ => ⟨others, rfl⟩⟩
    · rw [within, withinToo]
      exact moved
  | trans earlier _ firstHypothesis secondHypothesis =>
    have first := firstHypothesis once
    have second := secondHypothesis (first.names.nodup_iff.mp once)
    exact ⟨second.readable.trans first.readable, second.settings.trans first.settings,
      first.names.trans second.names, first.definitions.trans second.definitions,
      first.extension.trans second.extension⟩

/-! ## Several configurations -/

/-- What is read alike from configurations one by one is read alike from all of them. -/
theorem map_eq_of_forall₂ {Related : Setting → Setting → Prop} {β : Type} {reading : Setting → β}
    (alike : ∀ config other, Related config other → reading other = reading config)
    (related : List.Forall₂ Related configs others) : others.map reading = configs.map reading := by
  induction related with
  | nil => rfl
  | cons here _ inductionHypothesis =>
    rw [List.map_cons, List.map_cons, alike _ _ here, inductionHypothesis]

/-- What holds alike of configurations one by one holds alike of all of them. -/
theorem forall_mem_iff_of_forall₂ {Related : Setting → Setting → Prop} {Holds : Setting → Prop}
    (alike : ∀ config other, Related config other → (Holds other ↔ Holds config))
    (related : List.Forall₂ Related configs others) :
    (∀ other ∈ others, Holds other) ↔ ∀ config ∈ configs, Holds config := by
  induction related with
  | nil => simp
  | cons here _ inductionHypothesis =>
    rw [List.forall_mem_cons, List.forall_mem_cons, alike _ _ here, inductionHypothesis]

/-- Reordered configurations declare the same one by one. -/
theorem forall₂_sameDeclarations (reordered : List.Forall₂ Reordered configs others)
    (once : ∀ config ∈ configs, NamesOnce config) :
    List.Forall₂ (fun config other => NamesOnce config ∧ SameDeclarations config other)
      configs others := by
  induction reordered with
  | nil => exact .nil
  | cons here _ inductionHypothesis =>
    obtain ⟨first, rest⟩ := List.forall_mem_cons.mp once
    exact .cons ⟨first, here.sameDeclarations (first.themeOf [] _ rfl)⟩ (inductionHypothesis rest)

/-- The layers of configurations repeat no name when no extension does. -/
theorem nodup_names_layersOf
    (once : ∀ config ∈ configs, (Entries.names (extensionOf config)).Nodup) :
    (layersOf configs).names.Nodup := by
  apply Layers.nodup_names (nodup_names_foldl_fillIn _ Entries.nodup_names_nil)
  intro extension member
  obtain ⟨config, configured, rfl⟩ := List.mem_map.mp (List.mem_reverse.mp member)
  exact once config configured

/-- The layers of reordered configurations define the same, and repeat no name. -/
theorem layersOf_alike (once : ∀ config ∈ configs, NamesOnce config)
    (same : List.Forall₂ (fun config other => NamesOnce config ∧ SameDeclarations config other)
      configs others) :
    (layersOf configs).Alike (layersOf others) ∧ (layersOf configs).names.Nodup ∧
      (layersOf others).names.Nodup := by
  have definitions : others.map (fun config => Entries.get? (definitionsOf config)) =
      configs.map fun config => Entries.get? (definitionsOf config) := by
    refine map_eq_of_forall₂ (fun config other ⟨once, same⟩ => ?_) same
    have own : (Entries.names (definitionsOf config)).Nodup :=
      (once.themeOf [] _ rfl).sublist (List.filter_sublist.map _)
    exact funext (Entries.get?_of_perm own same.definitions)
  have extensions : others.map (fun config => Entries.get? (extensionOf config)) =
      configs.map fun config => Entries.get? (extensionOf config) := by
    refine map_eq_of_forall₂ (fun config other ⟨once, same⟩ => ?_) same
    exact funext (Entries.get?_of_perm (once.extensionOf [] _ rfl) same.extension)
  have first (configs : List Setting) (name : String) :
      Entries.get? (layersOf configs).base name =
        (configs.map fun config => Entries.get? (definitionsOf config)).findSome? (· name) := by
    rw [layersOf, get?_foldl_fillIn, List.findSome?_map]
    rfl
  have onceHere : ∀ config ∈ configs, (Entries.names (extensionOf config)).Nodup :=
    fun config member => (once config member).extensionOf [] _ rfl
  have onceThere : ∀ other ∈ others, (Entries.names (extensionOf other)).Nodup := by
    refine (forall_mem_iff_of_forall₂ (fun config other ⟨_, same⟩ => ?_) same).mpr onceHere
    exact (same.extension.map Prod.fst).symm.nodup_iff
  refine ⟨⟨?_, ?_⟩, ?_, ?_⟩
  · funext name
    rw [first, first, definitions]
  · simpa only [layersOf, List.map_reverse, List.map_map, Function.comp_def] using
      congrArg List.reverse extensions
  · exact nodup_names_layersOf onceHere
  · exact nodup_names_layersOf onceThere

/-- Configurations whose themes and extensions are listed in another order resolve exactly when
the given ones do. What they set beside the theme comes out as it is, and the theme has the same
entries, each with the same value, if perhaps in another order. The layers of both have the same
entries under the same names. Each value is a fold over its layers that sees the theme only
through lookups, and these do not tell in which order the entries are listed. -/
theorem resolve_reordered {configs others : List Setting}
    (reordered : List.Forall₂ Reordered configs others)
    (once : ∀ config ∈ configs, NamesOnce config) :
    ((∃ resolved, resolve configs = .ok resolved) ↔ ∃ resolved, resolve others = .ok resolved) ∧
      ∀ resolved resolvedToo, resolve configs = .ok resolved → resolve others = .ok resolvedToo →
        ∃ settings theme arranged,
          resolved = .mapping (settings ++ [("theme", .mapping theme)]) ∧
          resolvedToo = .mapping (settings ++ [("theme", .mapping arranged)]) ∧
          (Entries.names theme).Nodup ∧ theme.Perm arranged := by
  have same := forall₂_sameDeclarations reordered once
  obtain ⟨alike, onceHere, onceThere⟩ := layersOf_alike once same
  have settings : others.map settingsOf = configs.map settingsOf :=
    map_eq_of_forall₂ (fun _ _ related => related.2.settings) same
  have readable : (∀ config ∈ others, Readable config) ↔ ∀ config ∈ configs, Readable config :=
    forall_mem_iff_of_forall₂ (fun _ _ related => related.2.readable) same
  refine ⟨⟨?_, ?_⟩, ?_⟩
  · rintro ⟨resolved, returned⟩
    obtain ⟨read, theme, settled, rfl⟩ := resolve_eq_ok_iff.mp returned
    obtain ⟨arranged, settledToo, _⟩ := alike.resolved_perm onceHere onceThere settled
    exact ⟨_, resolve_eq_ok_iff.mpr ⟨readable.mpr read, arranged, settledToo, rfl⟩⟩
  · rintro ⟨resolved, returned⟩
    obtain ⟨read, theme, settled, rfl⟩ := resolve_eq_ok_iff.mp returned
    obtain ⟨arranged, settledToo, _⟩ := alike.symm.resolved_perm onceThere onceHere settled
    exact ⟨_, resolve_eq_ok_iff.mpr ⟨readable.mp read, arranged, settledToo, rfl⟩⟩
  · intro resolved resolvedToo returned returnedToo
    obtain ⟨_, theme, settled, rfl⟩ := resolve_eq_ok_iff.mp returned
    obtain ⟨_, arranged, settledToo, rfl⟩ := resolve_eq_ok_iff.mp returnedToo
    obtain ⟨other, settledOther, moved⟩ := alike.resolved_perm onceHere onceThere settled
    cases settledToo.symm.trans settledOther
    refine ⟨_, theme, arranged, rfl, by rw [settings], ?_, moved⟩
    rwa [(Layers.resolved_eq_ok_iff.mp settled).1]

/-- An extension by another main colour, and by a gap in the colour of a link. -/
def linkedExtension : Entries Setting := [
  ("palette", .mapping [("main", .text "red")]),
  ("gap", .rule (.lookup "link.main" .null))]

/-- A theme with a link in the colours of a palette, extended. -/
def linkedTheme (extension : Entries Setting) : Entries Setting := [
  ("link", .rule (.lookup "palette" .null)),
  ("palette", .mapping [("main", .text "blue")]),
  ("extend", .mapping extension)]

/-- A configuration with a theme. -/
def linked (theme : Entries Setting) : Setting :=
  .mapping [("prefix", .text "a-"), ("theme", .mapping theme)]

/-- With the theme backwards, and the extension within it as well, the link and the gap still see
the extended palette. -/
theorem resolve_reordered_backwards :
    List.Forall₂ Reordered [linked (linkedTheme linkedExtension)]
        [linked (linkedTheme linkedExtension.reverse).reverse] ∧
      (∀ config ∈ [linked (linkedTheme linkedExtension)], NamesOnce config) ∧
      resolve [linked (linkedTheme linkedExtension)] = .ok (linked [
        ("link", .mapping [("main", .text "red")]),
        ("palette", .mapping [("main", .text "red")]),
        ("gap", .text "red")]) ∧
      ∃ resolved,
        resolve [linked (linkedTheme linkedExtension.reverse).reverse] = .ok resolved := by
  have within : Entries.get? (linkedTheme linkedExtension) "extend" =
      some (.mapping linkedExtension) := rfl
  have inside : Reordered (linked (linkedTheme linkedExtension))
      (linked (linkedTheme linkedExtension.reverse)) :=
    .extension rfl within (List.reverse_perm linkedExtension).symm
  have outside : Reordered (linked (linkedTheme linkedExtension.reverse))
      (linked (linkedTheme linkedExtension.reverse).reverse) :=
    .theme rfl (List.reverse_perm _).symm
  have reordered : List.Forall₂ Reordered [linked (linkedTheme linkedExtension)]
      [linked (linkedTheme linkedExtension.reverse).reverse] :=
    .cons (inside.trans outside) .nil
  have once : ∀ config ∈ [linked (linkedTheme linkedExtension)], NamesOnce config := by
    simp [linked, linkedTheme, linkedExtension, namesOnce_mapping_iff, namesOnce_of_not_mapping,
      Entries.names]
  have returned : resolve [linked (linkedTheme linkedExtension)] = .ok (linked [
      ("link", .mapping [("main", .text "red")]),
      ("palette", .mapping [("main", .text "red")]),
      ("gap", .text "red")]) := by
    with_unfolding_all rfl
  exact ⟨reordered, once, returned, (resolve_reordered reordered once).1.mp ⟨_, returned⟩⟩

end ClassOrder.Config
