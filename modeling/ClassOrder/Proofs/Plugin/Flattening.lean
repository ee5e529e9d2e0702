import ClassOrder.Proofs.Plugin.ClassNames
import ClassOrder.Proofs.Writing

/-!
# Palettes without their nesting

Nested palettes are flattened level by level: the colours of a palette are gathered into a
mapping of their own, which is then written over what stands beside the palette. The leaves
of the palettes, in the order in which they are written, say the same with no levels at all.
Each leaf has a name that is folded from the keys on the way to it, and the flat mapping is
what comes of writing the leaves in turn. So a name has the place of its first leaf and the
colour of its last one, and no name is lost.
-/
namespace ClassOrder.Plugin

open Selector

mutual
/-- The leaves of a value, each with the keys on the way to it. -/
def leavesOf : Setting → List (List String × Setting)
  | .mapping entries => leavesIn entries
  | leaf => [([], leaf)]

/-- The leaves of several entries in turn. -/
def leavesIn : List (String × Setting) → List (List String × Setting)
  | [] => []
  | (key, value) :: rest =>
    (leavesOf value).map (fun (path, leaf) => (key :: path, leaf)) ++ leavesIn rest
end

/-- The name of the colour at the end of a path of keys. -/
def pathName (path : List String) : String :=
  path.foldl colorName ""

/-- The names and texts of leaves inside a palette. -/
def namedFrom (palette : String) (leaves : List (List String × Setting)) : List (String × Setting) :=
  leaves.map fun (path, leaf) => (path.foldl colorName palette, .text leaf.display)

/-- Leaves behind a key are those of the palette with the name of that key. -/
theorem namedFrom_behind (palette key : String) (leaves : List (List String × Setting)) :
    namedFrom palette (leaves.map fun (path, leaf) => (key :: path, leaf)) =
      namedFrom (colorName palette key) leaves := by
  simp [namedFrom]

/-- Leaves in two parts are named part by part. -/
theorem namedFrom_append (palette : String) (leaves later : List (List String × Setting)) :
    namedFrom palette (leaves ++ later) = namedFrom palette leaves ++ namedFrom palette later :=
  List.map_append

mutual
/-- A flattened value is what comes of writing its leaves. -/
theorem flattenColor_eq (name : String) (value : Setting) :
    flattenColor name value = Entries.ofPairs (namedFrom name (leavesOf value)) := by
  cases value with
  | mapping shades =>
    rw [flattenColor, leavesOf]
    exact flattenShades_eq name Entries.nodup_names_nil shades
  | _ => rfl

/-- Flattened entries are what comes of writing their leaves over what is there. -/
theorem flattenShades_eq (palette : String) {done : Entries Setting}
    (once : (Entries.names done).Nodup) (entries : List (String × Setting)) :
    flattenShades palette done entries =
      Entries.merge done (namedFrom palette (leavesIn entries)) := by
  cases entries with
  | nil => rfl
  | cons entry rest =>
    obtain ⟨key, value⟩ := entry
    have here := flattenColor_eq (colorName palette key) value
    have onceHere := Entries.nodup_names_merge once (flattenColor (colorName palette key) value)
    rw [flattenShades, flattenShades_eq palette onceHere rest, here, Entries.merge_ofPairs once,
      leavesIn, namedFrom_append, namedFrom_behind, Entries.merge_append]
end

/-- Flattened colours are what comes of writing their leaves. -/
theorem flattenColors_eq (colors : Entries Setting) :
    flattenColors colors = Entries.ofPairs (namedFrom "" (leavesIn colors)) :=
  flattenShades_eq "" Entries.nodup_names_nil colors

/-- The names of flattened colours are those of the leaves, each where it occurs first. -/
theorem names_flattenColors (colors : Entries Setting) :
    Entries.names (flattenColors colors) =
      ((leavesIn colors).map fun (path, _) => pathName path).eraseDups := by
  rw [flattenColors_eq, Entries.names_ofPairs]
  simp [Entries.names, namedFrom, pathName, Function.comp_def]

/-- The colour of a name is the text of the last leaf that has the name. -/
theorem get?_flattenColors (colors : Entries Setting) (name : String) :
    Entries.get? (flattenColors colors) name =
      ((leavesIn colors).reverse.find? fun (path, _) => pathName path = name).map
        fun (_, leaf) => .text leaf.display := by
  rw [flattenColors_eq, Entries.get?_ofPairs, namedFrom, ← List.map_reverse]
  induction (leavesIn colors).reverse with
  | nil => rfl
  | cons first rest inductionHypothesis =>
    obtain ⟨path, leaf⟩ := first
    rw [List.map_cons, Entries.get?_cons, inductionHypothesis, List.find?_cons]
    by_cases same : pathName path = name
    · subst same
      simp [pathName]
    · have different : (name == path.foldl colorName "") = false := by
        rw [beq_eq_false_iff_ne]
        exact fun named => same named.symm
      simp [same, different]

/-- A name that is folded from keys without blanks and backslashes has none. -/
theorem whole_foldl_colorName {path : List String} {palette : String} (wholePalette : Whole palette)
    (whole : ∀ key ∈ path, Whole key) : Whole (path.foldl colorName palette) := by
  induction path generalizing palette with
  | nil => exact wholePalette
  | cons key rest inductionHypothesis =>
    obtain ⟨wholeKey, wholeRest⟩ := List.forall_mem_cons.mp whole
    refine inductionHypothesis ?_ wholeRest
    unfold colorName
    split
    · exact wholeKey
    · split
      · exact wholePalette
      · have minus : Whole "-" := by decide
        exact whole_append_iff.mpr ⟨whole_append_iff.mpr ⟨wholePalette, minus⟩, wholeKey⟩

end ClassOrder.Plugin
