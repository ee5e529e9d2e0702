import Mathlib.Data.List.Nodup
import ClassOrder.Proofs.ClassList.Arrangement

/-!
# What a sorted class list remembers

The rules see no more of a token than its standing: the rank of its base class and the
rank of its breakpoint, as far as there are such. Two class lists are sorted alike exactly
when they have the same tokens of each standing, in the same order. So the sorted list
stands for all lists that differ only in how tokens of different standings are mixed.
-/
namespace ClassOrder

/-- Keys that are at most each other are equal. -/
theorem SortKey.eq_of_atMost {left right : SortKey} (lower : left.atMost right = true)
    (upper : right.atMost left = true) : left = right := by
  rw [atMost_iff] at lower upper
  have known : left.known = right.known := by omega
  have marked : left.hasBreakpoint = right.hasBreakpoint := by omega
  have breakpoint : left.breakpointRank = right.breakpointRank := by omega
  have base : left.baseRank = right.baseRank := by omega
  exact SortKey.mk.injEq .. ▸ ⟨known, marked, breakpoint, base⟩

namespace SortRules

variable {rules : SortRules} {token left right : String}

/-- What the rules see of a token. A base class without a rank is unknown. -/
structure Standing where
  base : Option Nat
  breakpoint : Option Nat
  deriving DecidableEq

/-- The standing of a token. -/
def standing (rules : SortRules) (token : String) : Standing where
  base := rules.index.rank? (ClassToken.split rules.separator token).base
  breakpoint := (ClassToken.split rules.separator token).variant.bind rules.breakpointRank?

/-- The base of a standing is the rank of the base class. -/
theorem standing_base_iff {rank : Nat} :
    (rules.standing token).base = some rank ↔ rules.BaseRanks token rank :=
  idxOf?_eq_some_iff_firstPlace

/-- The breakpoint of a standing is the rank of the breakpoint. -/
theorem standing_breakpoint_iff {rank : Nat} :
    (rules.standing token).breakpoint = some rank ↔ rules.BreakpointRanks token rank :=
  breakpointRank?_eq_some_iff

/-- The tokens of one standing are those of one key. -/
theorem key_eq_iff :
    rules.key left = rules.key right ↔ rules.standing left = rules.standing right := by
  constructor
  · intro same
    have bases (rank : Nat) :
        (rules.standing left).base = some rank ↔ (rules.standing right).base = some rank := by
      rw [standing_base_iff, standing_base_iff, ← key_baseRank_iff, ← key_baseRank_iff, same]
    have breakpoints (rank : Nat) : (rules.standing left).breakpoint = some rank ↔
        (rules.standing right).breakpoint = some rank := by
      rw [standing_breakpoint_iff, standing_breakpoint_iff, ← key_breakpointRank_iff,
        ← key_breakpointRank_iff, same]
    exact Standing.mk.injEq .. ▸ ⟨Option.ext bases, Option.ext breakpoints⟩
  · intro same
    obtain ⟨sameRank, sameBreakpoint⟩ := Standing.mk.injEq .. ▸ same
    have samePosition : rules.index.position (ClassToken.split rules.separator left).base =
        rules.index.position (ClassToken.split rules.separator right).base := by
      rw [SelectorIndex.position, SelectorIndex.position, sameRank]
    rw [key, key, keyOf, keyOf, samePosition, sameBreakpoint]

/-- Tokens tie exactly when they have the same standing. -/
theorem tied_iff_standing :
    StableSort.tied rules.keyAtMost left right = true ↔
      rules.standing right = rules.standing left := by
  rw [StableSort.tied, Bool.and_eq_true, ← key_eq_iff]
  constructor
  · rintro ⟨lower, upper⟩
    exact SortKey.eq_of_atMost upper lower
  · intro same
    rw [keyAtMost, keyAtMost, same, and_self]
    simpa using SortKey.atMost_total (rules.key left) (rules.key left)

/-- Tokens are sorted alike exactly when those of each standing are in the same order. A standing
that no token has says nothing. -/
theorem sorted_eq_iff {tokens others : List String} :
    rules.sorted tokens = rules.sorted others ↔ ∀ standing,
      tokens.filter (rules.standing · = standing) =
        others.filter (rules.standing · = standing) := by
  have group (token : String) (elements : List String) :
      elements.filter (StableSort.tied rules.keyAtMost token) =
        elements.filter (rules.standing · = rules.standing token) := by
    apply List.filter_congr
    intro other _
    rw [Bool.eq_iff_iff, decide_eq_true_iff]
    exact tied_iff_standing
  refine (StableSort.mergeSort_eq_iff rules.keyAtMost_trans rules.keyAtMost_total).trans ?_
  simp only [group]
  constructor
  · intro groups standing
    by_cases taken : ∃ token, rules.standing token = standing
    · obtain ⟨token, rfl⟩ := taken
      exact groups token
    · have empty (elements : List String) :
          elements.filter (rules.standing · = standing) = [] := by
        rw [List.filter_eq_nil_iff]
        intro token _ same
        exact taken ⟨token, of_decide_eq_true same⟩
      rw [empty, empty]
  · intro groups token
    exact groups (rules.standing token)

/-- Tokens with different keys are sorted alike in any order. -/
theorem sorted_eq_of_perm {tokens others : List String} (different : (tokens.map rules.key).Nodup)
    (permutation : others.Perm tokens) : rules.sorted others = rules.sorted tokens := by
  have kept (elements : List String) : (rules.sorted elements).Perm elements :=
    List.mergeSort_perm elements _
  have ordered (elements : List String) :
      (rules.sorted elements).Pairwise fun left right => rules.keyAtMost left right = true :=
    List.pairwise_mergeSort rules.keyAtMost_trans rules.keyAtMost_total elements
  have same : (rules.sorted others).Perm (rules.sorted tokens) :=
    (kept others).trans (permutation.trans (kept tokens).symm)
  refine same.eq_of_pairwise ?_ (ordered others) (ordered tokens)
  intro left right leftMember rightMember lower upper
  have leftToken := permutation.mem_iff.mp ((kept others).mem_iff.mp leftMember)
  have rightToken := (kept tokens).mem_iff.mp rightMember
  exact List.inj_on_of_nodup_map different leftToken rightToken (SortKey.eq_of_atMost lower upper)

/-- Two class lists are both sorted, and alike exactly when they have the same tokens of each
standing in the same order. Tokens with different keys may be given in any order. A stable sort is
determined by the lists of those tokens that are tied with one another, and tokens are tied when
their standings are the same. Where no two keys are the same, ordered permutations of each other
are equal. -/
theorem sortValues_eq_iff_same_standings (rules : SortRules) (separated : rules.separator ≠ "")
    {classes others : Plain} {tokens otherTokens : List String}
    (given : ClassToken.Given classes tokens) (otherGiven : ClassToken.Given others otherTokens) :
    ∃ sorted otherSorted,
      ClassToken.listOf classes >>= rules.sortValues (.text rules.separator : Plain) =
          .ok sorted ∧
        ClassToken.listOf others >>= rules.sortValues (.text rules.separator : Plain) =
          .ok otherSorted ∧
        (sorted = otherSorted ↔ ∀ standing, tokens.filter (rules.standing · = standing) =
          otherTokens.filter (rules.standing · = standing)) ∧
        ((tokens.map rules.key).Nodup → otherTokens.Perm tokens → sorted = otherSorted) := by
  refine ⟨rules.sorted tokens, rules.sorted otherTokens, sortValues_given separated given,
    sortValues_given separated otherGiven, sorted_eq_iff, ?_⟩
  intro different permutation
  exact (sorted_eq_of_perm different permutation).symm

/-- Three tokens of one standing keep their order, so that only the other one may move. -/
theorem sortValues_eq_iff_same_standings_ties :
    let rules : SortRules := { index := ⟨["block", "flex"]⟩ }
    (":" : String) ≠ "" ∧
      ClassToken.Given (.text "sm:flex flex hover:flex focus:flex")
        ["sm:flex", "flex", "hover:flex", "focus:flex"] ∧
      ClassToken.Given (.list [.text "flex", .text "hover:flex", .text "sm:flex",
        .text "focus:flex"]) ["flex", "hover:flex", "sm:flex", "focus:flex"] ∧
      ∀ standing,
        ["sm:flex", "flex", "hover:flex", "focus:flex"].filter (rules.standing · = standing) =
          ["flex", "hover:flex", "sm:flex", "focus:flex"].filter
            (rules.standing · = standing) := by
  intro rules
  have nonempty : (":" : String) ≠ "" := by decide
  have written : ClassToken.Given (.text "sm:flex flex hover:flex focus:flex")
      ["sm:flex", "flex", "hover:flex", "focus:flex"] := by
    have words : Text.words "sm:flex flex hover:flex focus:flex" =
      ["sm:flex", "flex", "hover:flex", "focus:flex"] := by cbv
    exact words ▸ .written _
  have listed := ClassToken.Given.listed ["flex", "hover:flex", "sm:flex", "focus:flex"]
  have small : rules.key "sm:flex" = ⟨1, 1, 0, 1⟩ := by cbv
  have bare : rules.key "flex" = ⟨1, 0, -1, 1⟩ := by cbv
  have hover : rules.key "hover:flex" = ⟨1, 0, -1, 1⟩ := by cbv
  have focus : rules.key "focus:flex" = ⟨1, 0, -1, 1⟩ := by cbv
  obtain ⟨sorted, otherSorted, run, otherRun, iff, -⟩ :=
    sortValues_eq_iff_same_standings rules nonempty written listed
  rw [sortValues_given nonempty written] at run
  rw [sortValues_given nonempty listed] at otherRun
  have same : sorted = otherSorted := by
    rw [← Except.ok.inj run, ← Except.ok.inj otherRun]
    simp [SortRules.sorted, List.mergeSort, List.MergeSort.Internal.splitInTwo, small, bare,
      hover, focus, SortKey.atMost]
  exact ⟨nonempty, written, listed, iff.mp same⟩

end SortRules

end ClassOrder
