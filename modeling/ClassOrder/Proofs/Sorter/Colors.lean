import ClassOrder.Proofs.Plugin.Flattening
import ClassOrder.Proofs.Sorter.Alone

/-!
# Every colour has its class

The colours of texts follow the colours, however these are nested. Flattening loses no leaf,
and each name that the leaves have is a class of the index, in the order in which the names
occur first.
-/
namespace ClassOrder.Sorter

open Selector

/-- Flattened colours have the names of the leaves, each at its first leaf and with the text of
its last one. Where the keys on the way to the leaves have no blanks and no backslashes, a sorter
for the colours of texts has exactly the classes of these names in its index. Flattening writes
one leaf after the other into the entries, and a name that is written again keeps its place and
takes the new text. Different names give different classes, so that the index leaves none out. -/
theorem create_color_classes (colors : Entries Setting) :
    let leaves := Plugin.leavesIn colors
    let leafNames := leaves.map fun (path, _) => Plugin.pathName path
    Entries.names (Plugin.flattenColors colors) = leafNames.eraseDups ∧
      (∀ name, Entries.get? (Plugin.flattenColors colors) name =
        (leaves.reverse.find? fun (path, _) => Plugin.pathName path = name).map
          fun (_, leaf) => .text leaf.display) ∧
      ((∀ leaf ∈ leaves, ∀ key ∈ leaf.1, Whole key) →
        ∃ sorter,
          (create (Config.overriding "colors" colors) {} .builtin .builtin
            (some (.given (.list [.text "textColor"])))).outcome = .ok sorter ∧
          sorter.index.selectors = leafNames.eraseDups.map (Plugin.className "text")) := by
  intro leaves leafNames
  refine ⟨Plugin.names_flattenColors colors, Plugin.get?_flattenColors colors, fun whole => ?_⟩
  have isBase : Plugin.IsBase "text" := ⟨by decide, by decide, by decide⟩
  have listed : ("textColor", Plugin.coloredClasses "textColor" "text" "color") ∈
      Plugin.corePrograms := by simp [Plugin.corePrograms]
  obtain ⟨sorter, created, selectors⟩ := create_overriding
    (fun colors => Plugin.scaleClasses "text" ["color"] (Plugin.flattenColors colors))
    listed (fun _ => rfl) (by decide) fun _ => Config.themeAt_textColor
  refine ⟨sorter, created, ?_⟩
  have once : (Entries.names (Plugin.flattenColors colors)).Nodup := by
    rw [Plugin.names_flattenColors]
    exact eraseDups_nodup _
  have wholeNames : ∀ name ∈ Entries.names (Plugin.flattenColors colors), Whole name := by
    intro name member
    rw [Plugin.names_flattenColors, List.mem_eraseDups] at member
    obtain ⟨⟨path, leaf⟩, isLeaf, rfl⟩ := List.mem_map.mp member
    exact Plugin.whole_foldl_colorName (by decide) (whole _ isLeaf)
  rw [selectors, Plugin.classNames_scaleClasses isBase ["color"] once wholeNames,
    eraseDups_of_nodup, Plugin.names_flattenColors]
  exact once.map fun left right same => (Plugin.className_inj isBase isBase same).2

/-- Palettes whose leaves share names: with a key that has a minus, by a default at two depths, and
behind an empty key, which begins anew. -/
def clashingColors : Entries Setting := [
  ("gray", .mapping [("default", .text "#888"), ("100", .text "#f7fafc")]),
  ("gray-100", .text "#fff"),
  ("default", .text "#000"),
  ("-red", .text "#f00"),
  ("", .mapping [("a", .mapping [("default", .text "#00f")])]),
  ("a", .text "#0f0")]

/-- Seven leaves have five names, and the classes of these come in the order of the first
leaves. -/
theorem create_color_classes_clashing :
    (∀ leaf ∈ Plugin.leavesIn clashingColors, ∀ key ∈ leaf.1, Whole key) ∧
      Entries.get? (Plugin.flattenColors clashingColors) "gray-100" = some (.text "#fff") ∧
      ∃ sorter,
        (create (Config.overriding "colors" clashingColors) {} .builtin .builtin
          (some (.given (.list [.text "textColor"])))).outcome = .ok sorter ∧
        sorter.index.selectors = ["text-gray", "text-gray-100", "text", "-text-red", "text-a"] := by
  obtain ⟨-, colored, classes⟩ := create_color_classes clashingColors
  have leaves : Plugin.leavesIn clashingColors = [
      (["gray", "default"], .text "#888"), (["gray", "100"], .text "#f7fafc"),
      (["gray-100"], .text "#fff"), (["default"], .text "#000"), (["-red"], .text "#f00"),
      (["", "a", "default"], .text "#00f"), (["a"], .text "#0f0")] := rfl
  have whole : ∀ leaf ∈ Plugin.leavesIn clashingColors, ∀ key ∈ leaf.1, Whole key := by
    rw [leaves]
    decide
  obtain ⟨sorter, created, selectors⟩ := classes whole
  refine ⟨whole, ?_, sorter, created, ?_⟩
  · rw [colored, leaves]
    rfl
  · rw [selectors, leaves]
    decide

end ClassOrder.Sorter
