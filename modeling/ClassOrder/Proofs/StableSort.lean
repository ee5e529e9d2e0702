/-!
# What a stable sort determines

A comparison need not tell all elements apart. Where it is total and transitive, sorting
puts every group of tied elements in one run and leaves the order inside the group as it
was. Nothing else is free: a list is determined by being ordered, by its elements and by
the order inside each group. Both statements are about any comparison of any elements.
-/
namespace ClassOrder.StableSort

variable {α : Type} {atMost : α → α → Bool}

/-- Two elements are tied when neither is strictly before the other. -/
def tied (atMost : α → α → Bool) (left right : α) : Bool :=
  atMost left right && atMost right left

/-- An element is tied with itself under a total comparison. -/
theorem tied_self (total : ∀ left right, atMost left right || atMost right left) (element : α) :
    tied atMost element element = true := by
  have reflexive := total element element
  simpa [tied] using reflexive

/-- Elements tied with one element may stand in any order. -/
theorem tied_pairwise (transitive : ∀ first second third,
      atMost first second → atMost second third → atMost first third)
    (element : α) (elements : List α) :
    (elements.filter (tied atMost element)).Pairwise fun left right => atMost left right := by
  apply List.pairwise_of_forall_mem_list
  intro left leftTied right rightTied
  have leftBounds : atMost element left ∧ atMost left element := by
    simpa [tied] using (List.mem_filter.mp leftTied).2
  have rightBounds : atMost element right ∧ atMost right element := by
    simpa [tied] using (List.mem_filter.mp rightTied).2
  exact transitive _ _ _ leftBounds.2 rightBounds.1

/-- Sorting leaves the order inside each group of tied elements. The group is in order
already, so it is a sublist of the sorted list, and it has as many elements there. -/
theorem filter_tied_mergeSort (transitive : ∀ first second third,
      atMost first second → atMost second third → atMost first third)
    (total : ∀ left right, atMost left right || atMost right left)
    (element : α) (elements : List α) :
    (elements.mergeSort atMost).filter (tied atMost element) =
      elements.filter (tied atMost element) := by
  have kept : (elements.filter (tied atMost element)).Sublist (elements.mergeSort atMost) :=
    List.sublist_mergeSort transitive total (tied_pairwise transitive element elements)
      List.filter_sublist
  have inGroup : (elements.filter (tied atMost element)).Sublist
      ((elements.mergeSort atMost).filter (tied atMost element)) := by
    simpa using kept.filter (tied atMost element)
  have sameLength : (elements.filter (tied atMost element)).length =
      ((elements.mergeSort atMost).filter (tied atMost element)).length :=
    ((List.mergeSort_perm elements atMost).symm.filter _).length_eq
  exact (inGroup.eq_of_length sameLength).symm

/-- Two ordered lists of the same elements are equal when each group of tied elements
stands in the same order in both.

Induct on one list. Its head and the head of the other one are tied, since each is in
both lists, so they lead the same group and are equal. -/
theorem eq_of_ordered {left right : List α}
    (total : ∀ first second, atMost first second || atMost second first)
    (leftOrdered : left.Pairwise fun first second => atMost first second)
    (rightOrdered : right.Pairwise fun first second => atMost first second)
    (permutation : left.Perm right)
    (groups : ∀ element, left.filter (tied atMost element) = right.filter (tied atMost element)) :
    left = right := by
  induction left generalizing right with
  | nil => exact permutation.nil_eq
  | cons first rest inductionHypothesis =>
    cases right with
    | nil => exact absurd permutation.eq_nil (List.cons_ne_nil first rest)
    | cons other others =>
      have headsTied : tied atMost first other = true := by
        have reflexive := tied_self total first
        have forward : atMost first other = true := by
          rcases List.mem_cons.mp (permutation.symm.subset List.mem_cons_self) with same | later
          · subst same
            simpa [tied] using reflexive
          · exact List.rel_of_pairwise_cons leftOrdered later
        have backward : atMost other first = true := by
          rcases List.mem_cons.mp (permutation.subset List.mem_cons_self) with same | later
          · subst same
            simpa [tied] using reflexive
          · exact List.rel_of_pairwise_cons rightOrdered later
        simp [tied, forward, backward]
      have sameHead : first = other := by
        have group := groups first
        simp only [List.filter_cons, tied_self total first, headsTied, if_true] at group
        exact (List.cons.inj group).1
      subst sameHead
      have tails : ∀ element,
          rest.filter (tied atMost element) = others.filter (tied atMost element) := by
        intro element
        have group := groups element
        by_cases member : tied atMost element first = true
        · simp only [List.filter_cons, member, if_true] at group
          exact (List.cons.inj group).2
        · simpa only [List.filter_cons, member, if_false, Bool.false_eq_true] using group
      exact congrArg (first :: ·) (inductionHypothesis leftOrdered.of_cons rightOrdered.of_cons
        permutation.cons_inv tails)

/-- Lists with the same groups of tied elements have the same elements: each one stands in its own
group. -/
theorem perm_of_groups {left right : List α}
    (total : ∀ first second, atMost first second || atMost second first)
    (groups : ∀ element, left.filter (tied atMost element) = right.filter (tied atMost element)) :
    left.Perm right := by
  classical
  rw [List.perm_iff_count]
  intro element
  have inGroup (elements : List α) :
      (elements.filter (tied atMost element)).count element = elements.count element :=
    List.count_filter (tied_self total element)
  rw [← inGroup left, ← inGroup right, groups]

/-- Two lists are sorted alike exactly when they have the same groups of tied elements, each in the
same order. -/
theorem mergeSort_eq_iff (transitive : ∀ first second third,
      atMost first second → atMost second third → atMost first third)
    (total : ∀ left right, atMost left right || atMost right left) {left right : List α} :
    left.mergeSort atMost = right.mergeSort atMost ↔
      ∀ element, left.filter (tied atMost element) = right.filter (tied atMost element) := by
  have kept := filter_tied_mergeSort transitive total
  constructor
  · intro same element
    rw [← kept element left, ← kept element right, same]
  · intro groups
    refine eq_of_ordered total (List.pairwise_mergeSort transitive total left)
      (List.pairwise_mergeSort transitive total right) ?_ fun element => ?_
    · have permutation := perm_of_groups total groups
      exact (List.mergeSort_perm left _).trans
        (permutation.trans (List.mergeSort_perm right _).symm)
    · rw [kept, kept, groups]

end ClassOrder.StableSort
