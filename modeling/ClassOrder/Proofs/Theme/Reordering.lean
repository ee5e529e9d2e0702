import ClassOrder.Proofs.Theme.Unfolding

/-!
# The order of a theme's declarations

A rule sees an entry through its name, and so do the layers that extend it. Layers that
define the same under every name are therefore folded alike, and every entry unfolds to the
same value. As resolving comes to unfolding, the order in which the names are declared
decides only in which order they are resolved, and not to what.
-/
namespace ClassOrder.Theme

open Fallible

/-- Two layers of a theme define the same under every name, and so do the extensions one by one. -/
structure Layers.Alike (layers others : Layers) : Prop where
  base : Entries.get? others.base = Entries.get? layers.base
  extensions : others.extensions.map Entries.get? = layers.extensions.map Entries.get?

variable {scales : List String} {layers others : Layers} {depth : Nat} {name : String}

/-- Layers are alike in both directions. -/
theorem Layers.Alike.symm (alike : layers.Alike others) : others.Alike layers where
  base := alike.base.symm
  extensions := alike.extensions.symm

/-- Extensions that define the same extend a value in the same way. -/
theorem extend_congr {m : Type → Type} [Monad m] [MonadExceptOf Fault m]
    {extensions further : List (Entries Setting)}
    (same : further.map Entries.get? = extensions.map Entries.get?)
    (lookUp : String → Setting → m Setting) (name : String) (value : Setting) :
    extend lookUp name further value = extend lookUp name extensions value := by
  induction extensions generalizing further value with
  | nil =>
    rw [List.map_eq_nil_iff.mp same]
  | cons extension rest inductionHypothesis =>
    obtain ⟨first, behind, rfl, found, restSame⟩ := List.map_eq_cons_iff.mp same
    simp only [extend, found, inductionHypothesis restSame]

namespace Layers.Alike

/-- Layers that define the same are folded alike. -/
theorem settle_eq (alike : layers.Alike others) (answers : Answering) (name : String) :
    others.settle answers name = layers.settle answers name := by
  simp only [settle, alike.base, extend_congr alike.extensions]

/-- They unfold alike. -/
theorem unfold_eq (alike : layers.Alike others) :
    others.unfold scales depth name = layers.unfold scales depth name := by
  induction depth generalizing name with
  | zero => rfl
  | succ depth inductionHypothesis =>
    simp only [Layers.unfold, alike.settle_eq, inductionHypothesis]

/-- They have the same names. -/
theorem mem_names_iff (alike : layers.Alike others) :
    name ∈ others.names ↔ name ∈ layers.names := by
  have looking : ∀ extensions : List (Entries Setting),
      (∃ extension ∈ extensions, (Entries.get? extension name).isSome) ↔
        ∃ look ∈ extensions.map Entries.get?, (look name).isSome := by
    intro extensions
    constructor
    · rintro ⟨extension, member, present⟩
      exact ⟨_, List.mem_map_of_mem member, present⟩
    · rintro ⟨_, member, present⟩
      obtain ⟨extension, listed, rfl⟩ := List.mem_map.mp member
      exact ⟨extension, listed, present⟩
  rw [Layers.mem_names_iff, Layers.mem_names_iff, looking, looking, alike.base, alike.extensions]

end Layers.Alike

/-- No name is there twice when none is in any single layer. -/
theorem Layers.nodup_names (base : (Entries.names layers.base).Nodup)
    (extensions : ∀ extension ∈ layers.extensions, (Entries.names extension).Nodup) :
    layers.names.Nodup := by
  apply List.foldlRecOn layers.extensions _ base
  intro known once extension member
  refine List.nodup_append.mpr ⟨once, (extensions extension member).filter _, ?_⟩
  rintro name old _ new rfl
  simp [old] at new

/-- Layers that define the same resolve to the same entries, in the order of their own names. -/
theorem Layers.Alike.resolved_perm (alike : layers.Alike others) (once : layers.names.Nodup)
    (onceToo : others.names.Nodup) {theme : Entries Setting}
    (resolved : layers.resolved scales = .ok theme) :
    ∃ themeToo, others.resolved scales = .ok themeToo ∧ theme.Perm themeToo := by
  obtain ⟨named, unfolded⟩ := Layers.resolved_eq_ok_iff.mp resolved
  have same : layers.names.Perm others.names :=
    (List.perm_ext_iff_of_nodup once onceToo).mpr fun name => alike.mem_names_iff.symm
  rw [← named] at same
  obtain ⟨themeToo, namedToo, moved⟩ := Entries.exists_perm_of_names_perm same
  refine ⟨themeToo, Layers.resolved_eq_ok_iff.mpr ⟨namedToo, ?_⟩, moved⟩
  intro entry member
  obtain ⟨depth, value⟩ := unfolded entry (moved.mem_iff.mpr member)
  exact ⟨depth, alike.unfold_eq.trans value⟩

end ClassOrder.Theme
