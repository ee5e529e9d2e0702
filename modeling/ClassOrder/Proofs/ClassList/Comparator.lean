import Mathlib.Logic.Basic
import ClassOrder.ClassList.Sorting
import ClassOrder.Proofs.Occurrence
import ClassOrder.Proofs.StableSort

/-!
# The comparison of two class tokens

A class list is ordered by a list of rules for two tokens, each of which speaks only
where the rules before it do not decide. The rules are stated here on the tokens, by
what the index and the breakpoints hold. Sorting compares keys instead, in which minus
one stands for whatever is missing. Both come to the same comparison, which is total and
transitive. The base and the variant of a token are those of its split.
-/
namespace ClassOrder

namespace SortKey

/-- Comparing keys spelled out: the first criterion in which they differ decides. -/
theorem atMost_iff (left right : SortKey) : left.atMost right = true ↔
    left.known < right.known ∨ left.known = right.known ∧
      (left.hasBreakpoint < right.hasBreakpoint ∨ left.hasBreakpoint = right.hasBreakpoint ∧
        (left.breakpointRank < right.breakpointRank ∨
          left.breakpointRank = right.breakpointRank ∧ left.baseRank ≤ right.baseRank)) := by
  unfold atMost
  by_cases known : left.known = right.known
  · by_cases marked : left.hasBreakpoint = right.hasBreakpoint
    · by_cases rank : left.breakpointRank = right.breakpointRank
      · simp [known, marked, rank]
      · simp [known, marked, rank]
    · simp [known, marked]
  · simp [known]

/-- One key is strictly below another exactly when the other is not at most the first. -/
theorem not_atMost_iff (left right : SortKey) : ¬ right.atMost left = true ↔
    left.known < right.known ∨ left.known = right.known ∧
      (left.hasBreakpoint < right.hasBreakpoint ∨ left.hasBreakpoint = right.hasBreakpoint ∧
        (left.breakpointRank < right.breakpointRank ∨
          left.breakpointRank = right.breakpointRank ∧ left.baseRank < right.baseRank)) := by
  rw [atMost_iff]
  omega

/-- Of two keys one is at most the other. -/
theorem atMost_total (left right : SortKey) : left.atMost right || right.atMost left := by
  rw [Bool.or_eq_true, atMost_iff, atMost_iff]
  omega

/-- The comparison of keys is transitive. -/
theorem atMost_trans (first second third : SortKey) (lower : first.atMost second = true)
    (upper : second.atMost third = true) : first.atMost third = true := by
  rw [atMost_iff] at *
  omega

end SortKey

namespace SortRules

variable {rules : SortRules} {token left right : String}

/-- The base class of a token is in the index. -/
def Knows (rules : SortRules) (token : String) : Prop :=
  (ClassToken.split rules.separator token).base ∈ rules.index.selectors

/-- The base class of a token has a rank in the index. -/
def BaseRanks (rules : SortRules) (token : String) (rank : Nat) : Prop :=
  FirstPlace rules.index.selectors (ClassToken.split rules.separator token).base rank

/-- A token has several segments, and the first of them is the breakpoint of a rank. A
breakpoint that is listed repeatedly ranks by its last place. -/
def BreakpointRanks (rules : SortRules) (token : String) (rank : Nat) : Prop :=
  ∃ name, (ClassToken.split rules.separator token).variant = some name ∧
    LastPlace rules.breakpoints name rank

/-- A token comes strictly before another one. Of a known and an unknown token the
unknown one is on its side. Otherwise a token without a breakpoint comes before one with
a breakpoint; then the rank of the breakpoint decides, and then that of the base. -/
inductive Precedes (rules : SortRules) (left right : String) : Prop where
  | unknownFirst (side : rules.unknown = .atStart) (unknown : ¬ rules.Knows left)
      (known : rules.Knows right)
  | unknownLast (side : rules.unknown = .atEnd) (known : rules.Knows left)
      (unknown : ¬ rules.Knows right)
  | unmarked (wide : Nat) (alike : rules.Knows left ↔ rules.Knows right)
      (without : ∀ rank, ¬ rules.BreakpointRanks left rank)
      (onRight : rules.BreakpointRanks right wide)
  | narrower (narrow wide : Nat) (alike : rules.Knows left ↔ rules.Knows right)
      (onLeft : rules.BreakpointRanks left narrow)
      (onRight : rules.BreakpointRanks right wide) (before : narrow < wide)
  | earlier (early late : Nat)
      (alike : ∀ rank, rules.BreakpointRanks left rank ↔ rules.BreakpointRanks right rank)
      (onLeft : rules.BaseRanks left early) (onRight : rules.BaseRanks right late)
      (before : early < late)

/-- A token whose base ranks is known. -/
theorem BaseRanks.knows {rank : Nat} (ranked : rules.BaseRanks token rank) :
    rules.Knows token :=
  List.mem_of_getElem? ranked.1

/-- A breakpoint has one rank. -/
theorem BreakpointRanks.unique {rank other : Nat} (first : rules.BreakpointRanks token rank)
    (second : rules.BreakpointRanks token other) : rank = other := by
  obtain ⟨name, variant, place⟩ := first
  obtain ⟨again, sameVariant, otherPlace⟩ := second
  have sameName : name = again := Option.some.inj (variant.symm.trans sameVariant)
  subst sameName
  exact place.unique otherPlace

/-! ## What a key says about its token -/

/-- The position of a base class is its rank, where it has one. -/
theorem key_baseRank_iff {rank : Nat} :
    (rules.key token).baseRank = rank ↔ rules.BaseRanks token rank := by
  unfold BaseRanks
  rw [← idxOf?_eq_some_iff_firstPlace]
  change rules.index.position _ = rank ↔ rules.index.rank? _ = some rank
  unfold SelectorIndex.position
  cases rules.index.rank? (ClassToken.split rules.separator token).base with
  | none => simp
  | some found => simp only [Option.some.injEq]; omega

/-- Minus one stands for a base class that is not in the index. -/
theorem key_baseRank_unknown_iff (rules : SortRules) (token : String) :
    (rules.key token).baseRank = -1 ↔ ¬ rules.Knows token := by
  unfold Knows
  rw [← List.idxOf?_eq_none_iff]
  change rules.index.position _ = -1 ↔ rules.index.rank? _ = none
  unfold SelectorIndex.position
  cases rules.index.rank? (ClassToken.split rules.separator token).base with
  | none => simp
  | some found => simp

/-- Every base rank of a key is minus one or a rank. -/
theorem key_baseRank_cases (rules : SortRules) (token : String) :
    (rules.key token).baseRank = -1 ∨ ∃ rank : Nat, (rules.key token).baseRank = rank := by
  change rules.index.position _ = -1 ∨ ∃ rank : Nat, rules.index.position _ = rank
  unfold SelectorIndex.position
  cases rules.index.rank? (ClassToken.split rules.separator token).base with
  | none => exact .inl rfl
  | some found => exact .inr ⟨found, rfl⟩

/-- The first criterion is one for known tokens when the unknown ones go to the start, and
for unknown tokens when they go to the end. -/
theorem key_known_iff (rules : SortRules) (token : String) :
    (rules.key token).known = 1 ↔ (rules.unknown = .atStart ↔ rules.Knows token) := by
  have unknown := key_baseRank_unknown_iff rules token
  simp only [key, keyOf] at unknown ⊢
  by_cases known : rules.Knows token
  · have ranked := mt unknown.mp (not_not_intro known)
    cases rules.unknown <;> simp [ranked, known]
  · have missing := unknown.mpr known
    cases rules.unknown <;> simp [missing, known]

/-- The first criterion is zero or one. -/
theorem key_known_le (rules : SortRules) (token : String) : (rules.key token).known ≤ 1 := by
  simp only [key, keyOf]
  cases rules.unknown <;> simp only <;> split <;> omega

/-- Two tokens agree in the first criterion when both are known or neither is. -/
theorem key_known_eq_iff : (rules.key left).known = (rules.key right).known ↔
    (rules.Knows left ↔ rules.Knows right) := by
  have onLeft := key_known_iff rules left
  have onRight := key_known_iff rules right
  have leftBound := key_known_le rules left
  have rightBound := key_known_le rules right
  constructor
  · intro same
    rw [same, onRight] at onLeft
    by_cases start : rules.unknown = .atStart
    · simpa only [start, true_iff] using onLeft.symm
    · simpa only [start, false_iff, not_iff_not] using onLeft.symm
  · intro alike
    rw [← alike, ← onLeft] at onRight
    omega

/-- The rank of the breakpoint of a token, as the search finds it. -/
theorem breakpointRank?_eq_some_iff {rank : Nat} :
    (ClassToken.split rules.separator token).variant.bind rules.breakpointRank? = some rank ↔
      rules.BreakpointRanks token rank := by
  rw [Option.bind_eq_some_iff]
  simp only [breakpointRank?, idxOf?_reverse_eq_some_iff_lastPlace, BreakpointRanks]

/-- The breakpoint rank of a key is the rank of the breakpoint, where there is one. -/
theorem key_breakpointRank_iff {rank : Nat} :
    (rules.key token).breakpointRank = rank ↔ rules.BreakpointRanks token rank := by
  rw [← breakpointRank?_eq_some_iff]
  simp only [key, keyOf]
  cases (ClassToken.split rules.separator token).variant.bind rules.breakpointRank? with
  | none => simp
  | some found => simp only [Option.some.injEq]; omega

/-- Every breakpoint rank of a key is minus one or a rank. -/
theorem key_breakpointRank_cases (rules : SortRules) (token : String) :
    (rules.key token).breakpointRank = -1 ∨
      ∃ rank : Nat, (rules.key token).breakpointRank = rank := by
  simp only [key, keyOf]
  cases (ClassToken.split rules.separator token).variant.bind rules.breakpointRank? with
  | none => exact .inl rfl
  | some found => exact .inr ⟨found, rfl⟩

/-- The second criterion is zero without a breakpoint rank and one with it. -/
theorem key_hasBreakpoint_cases (rules : SortRules) (token : String) :
    (rules.key token).breakpointRank = -1 ∧ (rules.key token).hasBreakpoint = 0 ∨
      (rules.key token).breakpointRank ≠ -1 ∧ (rules.key token).hasBreakpoint = 1 := by
  by_cases missing : (rules.key token).breakpointRank = -1
  · exact .inl ⟨missing, if_pos (beq_iff_eq.mpr missing)⟩
  · exact .inr ⟨missing, if_neg (mt beq_iff_eq.mp missing)⟩

/-- A token without a breakpoint has no breakpoint rank. -/
theorem key_breakpointRank_missing_iff :
    (rules.key token).breakpointRank = -1 ↔ ∀ rank, ¬ rules.BreakpointRanks token rank := by
  constructor
  · intro missing rank ranked
    have found := key_breakpointRank_iff.mpr ranked
    omega
  · intro without
    rcases key_breakpointRank_cases rules token with missing | ⟨rank, found⟩
    · exact missing
    · exact absurd (key_breakpointRank_iff.mp found) (without rank)

/-- Two tokens agree in the third criterion when they agree on the rank of a breakpoint. -/
theorem key_breakpointRank_eq_iff :
    (rules.key left).breakpointRank = (rules.key right).breakpointRank ↔
      ∀ rank, rules.BreakpointRanks left rank ↔ rules.BreakpointRanks right rank := by
  constructor
  · intro same rank
    rw [← key_breakpointRank_iff, ← key_breakpointRank_iff, same]
  · intro alike
    rcases key_breakpointRank_cases rules right with missing | ⟨rank, found⟩
    · rw [missing, key_breakpointRank_missing_iff]
      intro rank ranked
      exact key_breakpointRank_missing_iff.mp missing rank ((alike rank).mp ranked)
    · rw [found, key_breakpointRank_iff, alike]
      exact key_breakpointRank_iff.mp found

/-! ## The rules and the keys come to the same comparison -/

/-- A token that comes strictly before another one by the rules has the lower key. Each
rule fixes the criteria down to the one that it decides. -/
theorem Precedes.not_atMost (precedes : rules.Precedes left right) :
    ¬ (rules.key right).atMost (rules.key left) = true := by
  have leftMarked := key_hasBreakpoint_cases rules left
  have rightMarked := key_hasBreakpoint_cases rules right
  have leftBound := key_known_le rules left
  rw [SortKey.not_atMost_iff]
  cases precedes with
  | unknownFirst side unknown known =>
    have onLeft : (rules.key left).known ≠ 1 := by
      intro one
      exact unknown (((key_known_iff rules left).mp one).mp side)
    have onRight : (rules.key right).known = 1 :=
      (key_known_iff rules right).mpr (iff_of_true side known)
    omega
  | unknownLast side known unknown =>
    have notStart : rules.unknown ≠ .atStart := by
      rw [side]
      decide
    have onLeft : (rules.key left).known ≠ 1 := by
      intro one
      exact notStart (((key_known_iff rules left).mp one).mpr known)
    have onRight : (rules.key right).known = 1 :=
      (key_known_iff rules right).mpr (iff_of_false notStart unknown)
    omega
  | unmarked wide alike without onRight =>
    have sameKnown := key_known_eq_iff.mpr alike
    have leftRank := key_breakpointRank_missing_iff.mpr without
    have rightRank := key_breakpointRank_iff.mpr onRight
    omega
  | narrower narrow wide alike onLeft onRight before =>
    have sameKnown := key_known_eq_iff.mpr alike
    have leftRank := key_breakpointRank_iff.mpr onLeft
    have rightRank := key_breakpointRank_iff.mpr onRight
    omega
  | earlier early late alike onLeft onRight before =>
    have sameKnown := key_known_eq_iff.mpr (iff_of_true onLeft.knows onRight.knows)
    have sameRank := key_breakpointRank_eq_iff.mpr alike
    have leftRank := key_baseRank_iff.mpr onLeft
    have rightRank := key_baseRank_iff.mpr onRight
    omega

/-- A token with the lower key comes strictly before the other one by the rules. The
first criterion in which the keys differ names the rule. -/
theorem precedes_of_not_atMost (below : ¬ (rules.key right).atMost (rules.key left) = true) :
    rules.Precedes left right := by
  have leftMarked := key_hasBreakpoint_cases rules left
  have rightMarked := key_hasBreakpoint_cases rules right
  rw [SortKey.not_atMost_iff] at below
  rcases below with known | ⟨sameKnown, marked | ⟨sameMarked, rank | ⟨sameRank, base⟩⟩⟩
  · have rightBound := key_known_le rules right
    have onLeft := mt (key_known_iff rules left).mpr (by omega)
    have onRight := (key_known_iff rules right).mp (by omega)
    cases side : rules.unknown with
    | atStart =>
      have known : rules.Knows right := onRight.mp side
      exact .unknownFirst side (fun alsoKnown => onLeft (iff_of_true side alsoKnown)) known
    | atEnd =>
      have notStart : rules.unknown ≠ .atStart := by
        rw [side]
        decide
      have known : rules.Knows left := by
        by_cases known : rules.Knows left
        · exact known
        · exact absurd (iff_of_false notStart known) onLeft
      exact .unknownLast side known (mt onRight.mpr notStart)
  · have alike := key_known_eq_iff.mp sameKnown
    have leftRank : (rules.key left).breakpointRank = -1 := by omega
    have without := key_breakpointRank_missing_iff.mp leftRank
    rcases key_breakpointRank_cases rules right with missing | ⟨wide, onRight⟩
    · omega
    · exact .unmarked wide alike without (key_breakpointRank_iff.mp onRight)
  · have alike := key_known_eq_iff.mp sameKnown
    rcases key_breakpointRank_cases rules left with missing | ⟨narrow, onLeft⟩
    · omega
    · rcases key_breakpointRank_cases rules right with missing | ⟨wide, onRight⟩
      · omega
      · exact .narrower narrow wide alike (key_breakpointRank_iff.mp onLeft)
          (key_breakpointRank_iff.mp onRight) (by omega)
  · have alike := key_breakpointRank_eq_iff.mp sameRank
    rcases key_baseRank_cases rules right with missing | ⟨late, onRight⟩
    · rcases key_baseRank_cases rules left with _ | _ <;> omega
    · rcases key_baseRank_cases rules left with missing | ⟨early, onLeft⟩
      · have leftUnknown := (key_baseRank_unknown_iff rules left).mp missing
        have rightKnown := (key_baseRank_iff.mp onRight).knows
        exact absurd ((key_known_eq_iff.mp sameKnown).mpr rightKnown) leftUnknown
      · exact .earlier early late alike (key_baseRank_iff.mp onLeft)
          (key_baseRank_iff.mp onRight) (by omega)

/-- By the rules a token comes strictly before another one exactly when it has the lower
key. -/
theorem precedes_iff_not_atMost :
    rules.Precedes left right ↔ ¬ (rules.key right).atMost (rules.key left) = true :=
  ⟨Precedes.not_atMost, precedes_of_not_atMost⟩

/-- Whether a token precedes another one can be computed from the keys. -/
instance (rules : SortRules) : DecidableRel rules.Precedes := fun _ _ =>
  decidable_of_iff _ precedes_iff_not_atMost.symm

/-- Two tokens tie when neither comes before the other. -/
def Ties (rules : SortRules) (left right : String) : Prop :=
  ¬ rules.Precedes left right ∧ ¬ rules.Precedes right left

/-- Whether two tokens tie can be computed from the keys as well. -/
instance (rules : SortRules) : DecidableRel rules.Ties := fun _ _ =>
  inferInstanceAs (Decidable (_ ∧ _))

/-- Whether the key of a token is at most that of another one, which is what sorting
asks. -/
def keyAtMost (rules : SortRules) (left right : String) : Bool :=
  (rules.key left).atMost (rules.key right)

/-- The keys of two tokens can be compared. -/
theorem keyAtMost_total (rules : SortRules) (left right : String) :
    rules.keyAtMost left right || rules.keyAtMost right left :=
  SortKey.atMost_total _ _

/-- The comparison of tokens by their keys is transitive. -/
theorem keyAtMost_trans (rules : SortRules) (first second third : String)
    (lower : rules.keyAtMost first second = true) (upper : rules.keyAtMost second third = true) :
    rules.keyAtMost first third = true :=
  SortKey.atMost_trans _ _ _ lower upper

/-- The keys do not put one token above another exactly when the rules do not. -/
theorem keyAtMost_iff : rules.keyAtMost left right = true ↔ ¬ rules.Precedes right left := by
  rw [precedes_iff_not_atMost, not_not]
  rfl

/-- Tokens tie by the rules exactly when they tie by their keys. -/
theorem ties_iff_tied :
    rules.Ties left right ↔ StableSort.tied rules.keyAtMost left right = true := by
  rw [StableSort.tied, Bool.and_eq_true, keyAtMost_iff, keyAtMost_iff]
  exact and_comm

end SortRules

end ClassOrder
