import ClassOrder.Insertion

/-!
# Ordering by insertion loses nothing

Whatever the comparison answers, putting values in order by insertion only moves them:
the leading run is kept or turned round, and every other value is inserted once, at a
place that the list has. No property of the comparison is used.
-/
namespace ClassOrder

variable {α : Type}

/-- A run and what follows it are the list that they were taken from. -/
theorem runAfter_append (goesOn : α → α → Bool) (last : α) (values : List α) :
    (runAfter goesOn last values).1 ++ (runAfter goesOn last values).2 = values := by
  induction values generalizing last with
  | nil => rfl
  | cons next rest inductionHypothesis =>
    by_cases onward : goesOn last next = true
    · simp only [runAfter, onward, if_true, List.cons_append, inductionHypothesis]
    · simp only [runAfter, onward, if_false, List.nil_append, Bool.false_eq_true]

/-- The leading run and what follows it hold the values of the list. -/
theorem leadingRun_perm (before : α → α → Bool) (values : List α) :
    ((leadingRun before values).1 ++ (leadingRun before values).2).Perm values := by
  match values with
  | [] => exact .refl _
  | [value] => exact .refl _
  | first :: second :: rest =>
    have whole := runAfter_append
      (fun last next => before next last == before second first) first (second :: rest)
    by_cases falls : before second first = true
    · simp only [leadingRun, falls, if_true] at whole ⊢
      apply ((List.reverse_perm _).append_right _).trans
      rw [List.cons_append, whole]
    · simp only [leadingRun, falls, if_false, Bool.false_eq_true] at whole ⊢
      rw [List.cons_append, whole]

/-- The place of a value is not beyond the upper bound of the search. -/
theorem placeAmong_le (before : α → α → Bool) (ordered : List α) (value : α) (low high : Nat)
    (bounds : low ≤ high) : placeAmong before ordered value low high ≤ high := by
  fun_induction placeAmong before ordered value low high with
  | case1 low high inside middle below inductionHypothesis => omega
  | case2 low high inside middle above inductionHypothesis => omega
  | case3 low high outside => exact bounds

/-- Inserting a value adds it to the values. -/
theorem insertAmong_perm (before : α → α → Bool) (ordered : List α) (value : α) :
    (insertAmong before ordered value).Perm (value :: ordered) :=
  List.perm_insertIdx value ordered (placeAmong_le before ordered value 0 _ (Nat.zero_le _))

/-- Inserting values in turn adds them all. -/
theorem foldl_insertAmong_perm (before : α → α → Bool) (values ordered : List α) :
    (values.foldl (insertAmong before) ordered).Perm (ordered ++ values) := by
  induction values generalizing ordered with
  | nil => simp
  | cons value rest inductionHypothesis =>
    rw [List.foldl_cons]
    apply (inductionHypothesis _).trans
    apply ((insertAmong_perm before ordered value).append_right rest).trans
    exact List.perm_middle.symm

/-- Values in order are the same values. -/
theorem inOrder_perm (before : α → α → Bool) (values : List α) :
    (inOrder before values).Perm values :=
  (foldl_insertAmong_perm before _ _).trans (leadingRun_perm before values)

end ClassOrder
