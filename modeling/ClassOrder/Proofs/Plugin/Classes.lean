import ClassOrder.Plugin.Core
import ClassOrder.Proofs.Style.Prefixing

/-!
# What the core plugins define

Whatever the theme holds, the style objects of the core plugins define classes and, apart
from keyframes and media queries around them, nothing else. The names come from the theme
and may hold any character, blanks and backslashes too. But they begin with the base of the
plugin or with a minus, and that suffices.
-/
namespace ClassOrder

namespace Selector

variable {c : Char} {name : String}

/-- Whether a class name begins with a character that stands for itself in a selector. -/
def startsSafe (name : String) : Bool :=
  name.toList.head?.any isSafe

/-- A character that stands for itself is neither a blank nor a backslash. -/
theorem solid_of_isSafe (safe : isSafe c = true) : Text.isBlank c = false ∧ c ≠ '\\' := by
  have code : c.toNat = 45 ∨ 48 ≤ c.toNat ∧ c.toNat ≤ 57 ∨ 65 ≤ c.toNat ∧ c.toNat ≤ 90 ∨
      c.toNat = 95 ∨ 97 ≤ c.toNat ∧ c.toNat ≤ 122 := by
    simp only [isSafe, Bool.or_eq_true, beq_iff_eq] at safe
    rcases safe with (alphanumeric | rfl) | rfl
    · rcases Bool.or_eq_true_iff.mp alphanumeric with letter | digit
      · rcases Bool.or_eq_true_iff.mp letter with upper | lower
        · exact .inr (.inr (.inl (of_decide_eq_true upper)))
        · obtain ⟨low, high⟩ := Bool.and_eq_true_iff.mp lower
          exact .inr (.inr (.inr (.inr ⟨of_decide_eq_true low, of_decide_eq_true high⟩)))
      · obtain ⟨low, high⟩ := Bool.and_eq_true_iff.mp digit
        exact .inr (.inl ⟨of_decide_eq_true low, of_decide_eq_true high⟩)
    · decide
    · decide
  constructor
  · simp [Text.isBlank]
    omega
  · rintro rfl
    revert code
    decide

/-- What a name goes on with does not matter. -/
theorem startsSafe_append (safe : startsSafe name = true) (rest : String) :
    startsSafe (name ++ rest) = true := by
  unfold startsSafe at *
  cases characters : name.toList with
  | nil => simp [characters] at safe
  | cons first others => simpa [characters] using safe

end Selector

namespace Plugin

open Selector StyleObject

variable {base name : String} {properties : List String} {value : Setting}
  {entries : Entries Setting}

/-- The class of an entry begins like the base, or with a minus. -/
theorem startsSafe_className (safe : startsSafe base = true) (name : String) :
    startsSafe (className base name) = true := by
  unfold className
  split
  · exact safe
  · split
    · rw [String.append_assoc, String.append_assoc]
      exact startsSafe_append (by decide) _
    · rw [String.append_assoc]
      exact startsSafe_append safe _

/-- The selector of a class names it. -/
theorem namesClass_classSelector (safe : startsSafe name = true) :
    NamesClass (classSelector name) := by
  unfold startsSafe at safe
  cases characters : name.toList with
  | nil => simp [characters] at safe
  | cons first rest =>
    have safeFirst : isSafe first = true := by simpa [characters] using safe
    obtain ⟨solid, escapeless⟩ := solid_of_isSafe safeFirst
    refine ⟨first, escapeCharacters rest, ?_, solid, escapeless⟩
    simp [classSelector, escape, escapeCharacters, characters, safeFirst]

/-- A rule for a class that sets properties defines the class. -/
theorem classEntry_classSelector (safe : startsSafe name = true) (properties : List String)
    (value : Setting) : ClassEntry (classSelector name) (propertiesOf properties value) :=
  .rule (namesClass_classSelector safe)

/-- Written pairs define classes when each of them does. -/
theorem classObject_ofPairs {pairs : List (String × Setting)}
    (each : ∀ pair ∈ pairs, ClassEntry pair.1 pair.2) :
    ClassObject (.mapping (Entries.ofPairs pairs)) :=
  .mapping (Entries.nodup_names_ofPairs pairs) fun entry member =>
    each entry (Entries.mem_of_mem_ofPairs member)

/-- The classes of a scale are classes. -/
theorem classEntry_of_mem_scaleClasses (safe : startsSafe base = true) {entry : String × Setting}
    (member : entry ∈ scaleClasses base properties entries) : ClassEntry entry.1 entry.2 := by
  obtain ⟨⟨name, value⟩, _, rfl⟩ := List.mem_map.mp (Entries.mem_of_mem_ofPairs member)
  exact classEntry_classSelector (startsSafe_className safe name) properties value

/-- The classes of a scale define classes. -/
theorem classObject_scaleClasses (safe : startsSafe base = true) (properties : List String)
    (scale : Entries Setting) : ClassObject (.mapping (scaleClasses base properties scale)) :=
  .mapping (Entries.nodup_names_ofPairs _) fun _ => classEntry_of_mem_scaleClasses safe

/-- The bases of a spacing scale begin with the base that is given. -/
theorem startsSafe_of_mem_spacingPasses (safe : startsSafe base = true) {property : String}
    {pass : List (String × List String)} (listed : pass ∈ spacingPasses base property)
    {side : String × List String} (member : side ∈ pass) : startsSafe side.1 = true := by
  simp only [spacingPasses, List.mem_cons, List.not_mem_nil, or_false] at listed
  rcases listed with rfl | rfl | rfl
  all_goals
    simp only [List.mem_cons, List.not_mem_nil, or_false] at member
  · rw [member]
    exact safe
  · rcases member with rfl | rfl
    all_goals exact startsSafe_append safe _
  · rcases member with rfl | rfl | rfl | rfl
    all_goals exact startsSafe_append safe _

/-- The classes of a spacing scale define classes. -/
theorem classObject_spacingClasses (safe : startsSafe base = true) (property : String)
    (scale : Entries Setting) : ClassObject (.mapping (spacingClasses base property scale)) := by
  rw [spacingClasses]
  refine classObject_ofPairs fun entry member => ?_
  simp only [List.mem_flatMap, List.mem_map] at member
  obtain ⟨pass, listed, ⟨name, value⟩, _, ⟨side, properties⟩, inPass, rfl⟩ := member
  have sideSafe : startsSafe side = true := startsSafe_of_mem_spacingPasses safe listed inPass
  exact classEntry_classSelector (startsSafe_className sideSafe name) properties value

/-- Keyframes and the classes of a scale define classes. -/
theorem classObject_merge_keyframes (safe : startsSafe base = true) (properties : List String)
    (keyframes scale : Entries Setting) :
    ClassObject (.mapping (Entries.merge
      (Entries.ofPairs (keyframes.map fun (name, frames) => ("@keyframes " ++ name, frames)))
      (scaleClasses base properties scale))) := by
  refine .mapping (Entries.nodup_names_merge (Entries.nodup_names_ofPairs _) _) ?_
  intro entry member
  rcases Entries.mem_merge member with stages | listed
  · obtain ⟨⟨name, frames⟩, _, rfl⟩ := List.mem_map.mp (Entries.mem_of_mem_ofPairs stages)
    refine .keyframes ?_
    simp [isKeyframesEntry]
  · exact classEntry_of_mem_scaleClasses safe listed

/-- The page container is a class, as such and inside each breakpoint. -/
theorem classObject_container (widths : List Setting) :
    ClassObject (.list ((.mapping [(".container", .mapping [("width", .text "100%")])] : Setting) ::
      widths.map fun width => .mapping [("@media (min-width: " ++ width.display ++ ")",
        .mapping [(".container", .mapping [("max-width", width)])])])) := by
  have named : NamesClass ".container" := ⟨'c', "ontainer".toList, by decide, by decide, by decide⟩
  have single (value : Setting) (name : String) (entry : ClassEntry name value) :
      ClassObject (.mapping [(name, value)]) :=
    .mapping (List.pairwise_singleton _ _) (by simpa using entry)
  refine .list (List.forall_mem_cons.mpr ⟨single _ _ (.rule named), fun item member => ?_⟩)
  obtain ⟨width, _, rfl⟩ := List.mem_map.mp member
  refine single _ _ (.atRule ?_ (List.pairwise_singleton _ _) ?_)
  · simp [isAtRule]
  · simpa using ClassEntry.rule named

end Plugin

end ClassOrder
