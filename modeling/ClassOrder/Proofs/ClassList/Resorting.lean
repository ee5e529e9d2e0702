import ClassOrder.Proofs.ClassList.Arrangement
import ClassOrder.Proofs.Fallible
import ClassOrder.Sorter

/-!
# Sorting a class list again

Whatever comes out of sorting a class list holds the tokens that went in, and it is in order:
sorting it again changes nothing, at the same separator and by the same rules. This is so
for every class list that can be sorted at all, also for the empty one, which can be sorted
at any separator.
-/
namespace ClassOrder

open Fallible

/-- A text is a token only at a separator that is a text and not empty. -/
theorem ClassToken.textOf_text_eq_ok {Rule : Type} {separator : Value Rule} {token text : String}
    (taken : textOf separator (.text token) = .ok text) :
    ∃ mark, separator = .text mark ∧ mark ≠ "" := by
  obtain ⟨_, split, _⟩ := bind_eq_ok.mp taken
  obtain ⟨mark, isText, cut⟩ := bind_eq_ok.mp split
  cases separator with
  | text other =>
    cases isText
    refine ⟨_, rfl, ?_⟩
    rintro rfl
    obtain ⟨_, refused, _⟩ := bind_eq_ok.mp cut
    cases refused
  | _ => cases isText

namespace SortRules

/-- Sorted tokens are sorted already. -/
theorem sorted_sorted (rules : SortRules) (tokens : List String) :
    rules.sorted (rules.sorted tokens) = rules.sorted tokens :=
  List.mergeSort_of_pairwise
    (List.pairwise_mergeSort rules.keyAtMost_trans rules.keyAtMost_total tokens)

/-- Tokens that can be sorted come out as they are, and in an order that sorting keeps. -/
theorem sortValues_eq_ok {Rule : Type} {rules : SortRules} {separator : Value Rule}
    {tokens ordered : List String}
    (returned : rules.sortValues separator (tokens.map .text) = .ok ordered) :
    ordered.Perm tokens ∧ rules.sortValues separator (ordered.map .text) = .ok ordered := by
  cases tokens with
  | nil =>
    have empty : ordered = [] := by
      cases separator with
      | text mark =>
        simpa [sortValues, sort, sorted, bind, Except.bind, pure, Except.pure] using returned.symm
      | _ => simpa [sortValues, bind, Except.bind, pure, Except.pure] using returned.symm
    subst empty
    exact ⟨.refl _, returned⟩
  | cons first rest =>
    obtain ⟨texts, taken, _⟩ := bind_eq_ok.mp returned
    rw [List.map_cons, List.mapM_cons] at taken
    obtain ⟨_, takenFirst, _⟩ := bind_eq_ok.mp taken
    obtain ⟨mark, rfl, separated⟩ := ClassToken.textOf_text_eq_ok takenFirst
    let marked : SortRules := { rules with separator := mark }
    have sorts : ∀ others : List String,
        rules.sortValues (.text mark : Value Rule) (others.map .text) =
          .ok (marked.sorted others) := by
      intro others
      have given : ClassToken.listOf (.list (others.map .text)) >>=
          marked.sortValues (.text marked.separator : Value Rule) = .ok (marked.sorted others) :=
        sortValues_given separated (.listed others)
      exact given
    rw [sorts] at returned
    cases returned
    rw [sorts, sorted_sorted]
    exact ⟨List.mergeSort_perm _ _, rfl⟩

end SortRules

/-- The words of a class string that a sorter sorts come out as they are, and in an order that
the sorter keeps wherever it meets the same words in it. -/
theorem Sorter.sortText_eq_ok {sorter : Sorter} {classes : String} {ordered : List String}
    (returned : sorter.sortText classes = .ok ordered) :
    ordered.Perm (Text.words classes) ∧
      ∀ other, Text.words other = ordered → sorter.sortText other = .ok ordered := by
  obtain ⟨separator, separated, returned⟩ := bind_eq_ok.mp returned
  obtain ⟨tokens, ⟨⟩, returned⟩ := bind_eq_ok.mp returned
  obtain ⟨rules, ruled, returned⟩ := bind_eq_ok.mp returned
  obtain ⟨permutation, again⟩ := SortRules.sortValues_eq_ok returned
  refine ⟨permutation, ?_⟩
  rintro other rfl
  exact bind_eq_ok.mpr ⟨separator, separated, bind_eq_ok.mpr ⟨_, rfl,
    bind_eq_ok.mpr ⟨rules, ruled, again⟩⟩⟩

end ClassOrder
