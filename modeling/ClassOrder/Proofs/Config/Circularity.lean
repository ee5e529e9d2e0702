import ClassOrder.Proofs.Config.Gathering
import ClassOrder.Proofs.Theme.Circularity

/-!
# Circular references in configurations

Entries of the theme may refer to each other through several configurations, from definitions
and extensions alike. If they go in a circle, the configurations are refused, and whenever
they are refused for a circle, the entry that is blamed lies on one.
-/
namespace ClassOrder.Config

open Fallible Relation Theme

/-- The rules that a configuration's theme and its extension state are candid. -/
structure StatesCandidly (config : Setting) : Prop where
  definitions : ∀ name rule, definition name config = some (.rule rule) → Candid rule
  extensions : ∀ name rule, Entries.get? (extensionOf config) name = some (.rule rule) → Candid rule

variable {configs : List Setting}

/-- A configuration states candidly when all rules among the entries of its theme and of its
extension are candid. -/
theorem statesCandidly_of_forall_mem {config : Setting}
    (theme : ∀ entry ∈ themeOf config, ∀ rule, entry.2 = .rule rule → Candid rule)
    (extension : ∀ entry ∈ extensionOf config, ∀ rule, entry.2 = .rule rule → Candid rule) :
    StatesCandidly config := by
  refine ⟨fun name rule defined => ?_, fun name rule found => ?_⟩
  · rw [definition] at defined
    split at defined
    · cases defined
    · exact theme _ (Entries.mem_of_get? defined) rule rfl
  · exact extension _ (Entries.mem_of_get? found) rule rfl

/-- The layers of such configurations give candid rules only. -/
theorem layersOf_candid (candid : ∀ config ∈ configs, StatesCandidly config) :
    (layersOf configs).AllCandid := by
  intro name rule gives
  rcases gives with base | ⟨extension, listed, found⟩
  · rw [layersOf, get?_foldl_fillIn] at base
    obtain ⟨config, member, defined⟩ := List.exists_of_findSome?_eq_some base
    rw [get?_definitionsOf] at defined
    exact (candid config member).definitions name rule defined
  · obtain ⟨config, member, rfl⟩ := List.mem_map.mp (List.mem_reverse.mp listed)
    exact (candid config member).extensions name rule found

/-- Reading a part of a configuration finds no circle. -/
theorem part_notCircular {name : String} {value : Option Setting} {fault : Fault}
    (failed : part name value = .error fault) : NotCircular fault := by
  unfold part at failed
  split at failed
  · cases failed
  · cases failed
  · cases failed
  · cases failed
    exact nofun

/-- Adding a configuration finds no circle. -/
theorem Gathered.add_notCircular {gathered : Gathered} {config : Setting} {fault : Fault}
    (failed : gathered.add config = .error fault) : NotCircular fault := by
  cases config with
  | mapping entries =>
    rcases bind_eq_error.mp failed with theme | ⟨theme, _, failed⟩
    · exact part_notCircular theme
    rcases bind_eq_error.mp failed with extension | ⟨extension, _, returning⟩
    · exact part_notCircular extension
    · cases returning
  | _ =>
    cases failed
    exact nofun

/-- Adding configurations in turn finds no circle. -/
theorem foldlM_add_notCircular {gathered : Gathered} {fault : Fault}
    (failed : configs.foldlM Gathered.add gathered = .error fault) : NotCircular fault := by
  induction configs generalizing gathered with
  | nil => cases failed
  | cons config rest inductionHypothesis =>
    rw [List.foldlM_cons] at failed
    rcases bind_eq_error.mp failed with here | ⟨next, _, later⟩
    · exact Gathered.add_notCircular here
    · exact inductionHypothesis later

/-- Configurations are refused for a circular reference only where there is one. An entry of the
theme that reaches a circle keeps them from being resolved, however the rules get there: through a
definition or an extension, directly or by the inner part of another entry. And the entry that is
blamed for a circle lies on one.

Proof: a name is blamed only when it is under way, and of the names under way each depends on the
next. Conversely, every entry of a resolved theme unfolds to a finite depth, and what it depends
on to a smaller one, which cannot go round in a circle. -/
theorem resolve_finds_circles {configs : List Setting}
    (candid : ∀ config ∈ configs, StatesCandidly config) :
    ((∀ name, ¬TransGen ((layersOf configs).DependsOn scaleNames) name name) →
        ∀ name, resolve configs ≠ .error (.config (.circularTheme name))) ∧
      (∀ name ∈ (layersOf configs).names, ∀ other,
        ReflTransGen ((layersOf configs).DependsOn scaleNames) name other →
        TransGen ((layersOf configs).DependsOn scaleNames) other other →
        ∃ fault, resolve configs = .error fault) ∧
      ∀ name, resolve configs = .error (.config (.circularTheme name)) →
        TransGen ((layersOf configs).DependsOn scaleNames) name name := by
  have blames : ∀ name, resolve configs = .error (.config (.circularTheme name)) →
      TransGen ((layersOf configs).DependsOn scaleNames) name name := by
    intro name failed
    rcases bind_eq_error.mp failed with gathering | ⟨gathered, read, resolving⟩
    · exact absurd rfl (foldlM_add_notCircular gathering name)
    obtain ⟨_, rfl⟩ := gather_eq_ok_iff.mp read
    rcases bind_eq_error.mp resolving with theme | ⟨_, _, returning⟩
    · exact Layers.resolved_blames (layersOf_candid candid) theme
    · cases returning
  refine ⟨fun acyclic name failed => acyclic name (blames name failed), ?_, blames⟩
  intro name defined other reaches circle
  cases returned : resolve configs with
  | error fault => exact ⟨fault, rfl⟩
  | ok resolved =>
    obtain ⟨_, theme, settled, _⟩ := resolve_eq_ok_iff.mp returned
    exact absurd settled (Layers.resolved_ne_ok defined reaches circle)

/-- A configuration whose links, palette and accents refer to each other in a circle, through the
extension and by the inner part of an entry. The border reaches the circle without being part of
it. -/
def circling : Setting :=
  .mapping [("theme", .mapping [
    ("border", .rule (.merge [.constant (.mapping []), .lookup "links" .null])),
    ("links", .rule (.lookup "palette.main" .null)),
    ("palette", .mapping [("main", .text "red")]),
    ("accents", .rule (.lookup "links" .null)),
    ("extend", .mapping [("palette", .rule (.merge [.lookup "accents" .null]))])])]

/-- A configuration where the top refers to one entry by two ways. -/
def branching : Setting :=
  .mapping [("theme", .mapping [
    ("top", .rule (.merge [.lookup "left" .null, .lookup "right" .null, .lookup "left" .null])),
    ("left", .rule (.lookup "shared" .null)),
    ("right", .rule (.lookup "shared" .null)),
    ("shared", .mapping [("main", .text "red")])])]

/-- The first configuration is refused and an entry of its circle is blamed, and the border, which
reaches the circle, is one reason more. The second configuration is resolved, and so there is no
circle in it: two ways to an entry do not make one. -/
theorem resolve_finds_circles_not_branches :
    (∀ config ∈ [circling], StatesCandidly config) ∧
      resolve [circling] = .error (.config (.circularTheme "links")) ∧
      TransGen ((layersOf [circling]).DependsOn scaleNames) "links" "links" ∧
      (∃ fault, resolve [circling] = .error fault) ∧
      (∀ config ∈ [branching], StatesCandidly config) ∧
      (∀ name, ¬TransGen ((layersOf [branching]).DependsOn scaleNames) name name) ∧
      ∀ name, resolve [branching] ≠ .error (.config (.circularTheme name)) := by
  have candid : ∀ config ∈ [circling], StatesCandidly config := by
    rw [List.forall_mem_singleton]
    apply statesCandidly_of_forall_mem
    · simp [circling, themeOf, entriesIn, Entries.get?_cons, Candid.lookup, Candid.merge,
        Candid.constant]
    · simp [circling, themeOf, extensionOf, entriesIn, Entries.get?_cons, Candid.lookup,
        Candid.merge]
  have candidToo : ∀ config ∈ [branching], StatesCandidly config := by
    rw [List.forall_mem_singleton]
    apply statesCandidly_of_forall_mem
    · simp [branching, themeOf, entriesIn, Entries.get?_cons, Candid.lookup, Candid.merge]
    · have none : extensionOf branching = [] := by with_unfolding_all rfl
      simp [none]
  have refused : resolve [circling] = .error (.config (.circularTheme "links")) := by
    with_unfolding_all rfl
  have returned : resolve [branching] = .ok (.mapping [("theme", .mapping [
      ("top", .mapping [("main", .text "red")]), ("left", .mapping [("main", .text "red")]),
      ("right", .mapping [("main", .text "red")]),
      ("shared", .mapping [("main", .text "red")])])]) := by
    with_unfolding_all rfl
  obtain ⟨_, reaching, blames⟩ := resolve_finds_circles candid
  obtain ⟨never, reachingToo, _⟩ := resolve_finds_circles candidToo
  have circle := blames "links" refused
  have border : (layersOf [circling]).DependsOn scaleNames "border" "links" := by
    refine ⟨_, .inl (by with_unfolding_all rfl), 0, "links", ?_, by decide⟩
    exact List.mem_cons_self
  have acyclic : ∀ name, ¬TransGen ((layersOf [branching]).DependsOn scaleNames) name name := by
    intro name circle
    obtain ⟨next, step, _⟩ := TransGen.head'_iff.mp circle
    obtain ⟨fault, failed⟩ := reachingToo name step.mem_names name .refl circle
    cases returned.symm.trans failed
  have bordering := reaching "border" border.mem_names "links" (.single border) circle
  exact ⟨candid, refused, circle, bordering, candidToo, acyclic, never acyclic⟩

end ClassOrder.Config
