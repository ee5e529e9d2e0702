import ClassOrder.Plugin.Catalog
import ClassOrder.Proofs.Entries
import ClassOrder.Proofs.Fallible
import ClassOrder.Proofs.Insertion
import ClassOrder.Proofs.Occurrence

/-!
# Plugin orders repeat nothing

Plugins are named by values that can be looked up, and two names are the same when their
keys are. An order that was given loses its repetitions. The default order has none
either: one that was declared loses them as well, and an ascending one only moves the
names of the catalog, which registering keeps apart.
-/
namespace ClassOrder

open Fallible

namespace Value

/-- Values that can be looked up are themselves as keys. -/
theorem asKeys_eq_ok {values keys : List Plain} (keyed : asKeys values = .ok keys) :
    keys = values ∧ ∀ value ∈ values, value.asKey = .ok value := by
  induction values generalizing keys with
  | nil =>
    cases keyed
    exact ⟨rfl, by simp⟩
  | cons value rest inductionHypothesis =>
    rw [asKeys, List.mapM_cons, bind_eq_ok] at keyed
    obtain ⟨key, first, keyed⟩ := keyed
    obtain ⟨others, following, same⟩ := bind_eq_ok.mp keyed
    obtain ⟨rfl, named⟩ := inductionHypothesis following
    cases same
    have same : key = value := eq_of_asKey first
    subst same
    exact ⟨rfl, List.forall_mem_cons.mpr ⟨first, named⟩⟩

end Value

namespace PluginId

/-- Whether names repeat does not depend on their order. -/
theorem Unrepeated.perm {order other : List PluginId} (unrepeated : Unrepeated order)
    (permutation : order.Perm other) : Unrepeated other :=
  permutation.pairwise unrepeated And.symm

/-- The distinct names among items repeat nothing. -/
theorem distinctOf_unrepeated {items : List Plain} {order : List PluginId}
    (named : distinctOf items = .ok order) : Unrepeated order := by
  obtain ⟨keys, keyed, same⟩ := bind_eq_ok.mp named
  cases same
  obtain ⟨rfl, lookedUp⟩ := Value.asKeys_eq_ok keyed
  apply List.pairwise_iff_forall_sublist.mpr
  intro left right kept
  have different : (right == left) = false :=
    List.pairwise_iff_forall_sublist.mp (eraseDups_pairwise keys) kept
  have member : right ∈ keys := mem_of_mem_eraseDups (kept.subset (by simp))
  have symmetric : right.same left = left.same right :=
    Value.same_comm_of_asKey (lookedUp right member)
  exact ⟨symmetric ▸ different, different⟩

end PluginId

/-- The distinct names of an order repeat nothing, whether it is given or derived. -/
theorem PluginOrder.resolve_unrepeated {order : PluginOrder}
    {defaultOrder : Except Fault (List PluginId)} {ids : List PluginId}
    (resolved : order.resolve defaultOrder = .ok ids) : PluginId.Unrepeated ids := by
  have listed {value : Plain} (taken : idsOf value = .ok ids) : PluginId.Unrepeated ids := by
    obtain ⟨items, _, named⟩ := bind_eq_ok.mp taken
    exact PluginId.distinctOf_unrepeated named
  cases order with
  | given value => exact listed resolved
  | derived arrange =>
    obtain ⟨names, _, resolved⟩ := bind_eq_ok.mp resolved
    obtain ⟨value, _, taken⟩ := bind_eq_ok.mp resolved
    exact listed taken

namespace Catalog

/-- Values in ascending order are the same values. -/
theorem ascending_perm {values ordered : List Plain}
    (ascended : Value.ascending values = .ok ordered) : ordered.Perm values := by
  cases values with
  | nil =>
    cases ascended
    exact .refl _
  | cons first rest =>
    simp only [Value.ascending] at ascended
    split at ascended
    · cases ascended
    · cases ascended
      exact inOrder_perm _ _

/-- The default order of a catalog repeats nothing. -/
theorem defaultOrder_unrepeated {catalog : Catalog} {ids : List PluginId}
    (ordered : catalog.defaultOrder = .ok ids) : PluginId.Unrepeated ids := by
  unfold defaultOrder at ordered
  cases declared : catalog.declaredOrder with
  | some order =>
    rw [declared] at ordered
    exact PluginId.distinctOf_unrepeated ordered
  | none =>
    rw [declared] at ordered
    exact catalog.plugins.unrepeated.perm (ascending_perm ordered).symm

end Catalog

end ClassOrder
