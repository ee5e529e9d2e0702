import ClassOrder.Proofs.ClassList.Arrangement

/-!
# Only the order of ranks counts

Two indexes may agree on some selectors: they know the same ones of them, and have them in
the same order, whatever else stands in between. A class list whose base classes are among
these selectors is then sorted alike by both, although no rank need be the same.
-/
namespace ClassOrder

/-- Two indexes know the same ones among some selectors, and have these in the same order. -/
structure SelectorIndex.AgreeOn (among : String → Prop) (left right : SelectorIndex String) :
    Prop where
  known : ∀ selector, among selector →
    (selector ∈ left.selectors ↔ selector ∈ right.selectors)
  before : ∀ selector other, among selector → among other →
    (left.position selector < left.position other ↔
      right.position selector < right.position other)

namespace SelectorIndex

variable {among : String → Prop} {one two : SelectorIndex String}

/-- It is enough to compare the selectors that are known. An unknown one stands before all of
them in either index. -/
theorem AgreeOn.of_known
    (known : ∀ selector, among selector → (selector ∈ one.selectors ↔ selector ∈ two.selectors))
    (before : ∀ selector other, among selector → among other →
      selector ∈ one.selectors → other ∈ one.selectors →
        (one.position selector < one.position other ↔
          two.position selector < two.position other)) :
    one.AgreeOn among two where
  known := known
  before := by
    intro selector other member otherMember
    by_cases both : selector ∈ one.selectors ∧ other ∈ one.selectors
    · exact before selector other member otherMember both.1 both.2
    · rw [position_lt_iff, position_lt_iff, ← known selector member, ← known other otherMember]
      rcases not_and_or.mp both with unknown | unknown <;> simp [unknown]

/-- Indexes agree on the selectors of which they have the same list, whatever else they have. -/
theorem AgreeOn.of_filter {used : String → Bool}
    (same : one.selectors.filter used = two.selectors.filter used) :
    one.AgreeOn (used · = true) two where
  known := by
    intro selector isUsed
    simpa [isUsed] using congrArg (selector ∈ ·) same
  before := by
    intro selector other isUsed otherUsed
    have known (index : SelectorIndex String) (selector : String) (isUsed : used selector = true) :
        selector ∈ index.selectors ↔ selector ∈ index.selectors.filter used := by
      simp [isUsed]
    rw [position_lt_iff, position_lt_iff,
      ← idxOf_filter_lt_iff one.selectors isUsed otherUsed,
      ← idxOf_filter_lt_iff two.selectors isUsed otherUsed, known one selector isUsed,
      known one other otherUsed, known two selector isUsed, known two other otherUsed, same]

end SelectorIndex

namespace SortRules

variable {rules : SortRules} {among : String → Prop} {one two : SelectorIndex String}
  {token left right : String}

/-- The criteria of a token that do not rank its base class are the same. -/
theorem keyOf_agreeOn (agree : one.AgreeOn among two)
    (member : among (ClassToken.split rules.separator token).base) :
    ({ rules with index := one }.key token).known =
        ({ rules with index := two }.key token).known ∧
      ({ rules with index := one }.key token).hasBreakpoint =
        ({ rules with index := two }.key token).hasBreakpoint ∧
      ({ rules with index := one }.key token).breakpointRank =
        ({ rules with index := two }.key token).breakpointRank := by
  refine ⟨?_, rfl, rfl⟩
  have alike : { rules with index := one }.Knows token ↔ { rules with index := two }.Knows token :=
    agree.known _ member
  have onOne := key_known_iff { rules with index := one } token
  have onTwo := key_known_iff { rules with index := two } token
  have oneBound := key_known_le { rules with index := one } token
  have twoBound := key_known_le { rules with index := two } token
  rw [alike] at onOne
  have same := onOne.trans onTwo.symm
  omega

/-- Two tokens are compared alike. -/
theorem keyAtMost_agreeOn (agree : one.AgreeOn among two)
    (leftMember : among (ClassToken.split rules.separator left).base)
    (rightMember : among (ClassToken.split rules.separator right).base) :
    { rules with index := one }.keyAtMost left right =
      { rules with index := two }.keyAtMost left right := by
  obtain ⟨leftKnown, leftMarked, leftRank⟩ := keyOf_agreeOn agree leftMember
  obtain ⟨rightKnown, rightMarked, rightRank⟩ := keyOf_agreeOn agree rightMember
  have bases : ({ rules with index := one }.key left).baseRank ≤
        ({ rules with index := one }.key right).baseRank ↔
      ({ rules with index := two }.key left).baseRank ≤
        ({ rules with index := two }.key right).baseRank := by
    rw [← Int.not_lt, ← Int.not_lt]
    exact not_congr (agree.before _ _ rightMember leftMember)
  rw [Bool.eq_iff_iff, keyAtMost, keyAtMost, SortKey.atMost_iff, SortKey.atMost_iff, leftKnown,
    leftMarked, leftRank, rightKnown, rightMarked, rightRank, bases]

/-- Tokens whose base classes are among the selectors are sorted alike. -/
theorem sorted_agreeOn (agree : one.AgreeOn among two) {tokens : List String}
    (members : ∀ token ∈ tokens, among (ClassToken.split rules.separator token).base) :
    { rules with index := one }.sorted tokens = { rules with index := two }.sorted tokens := by
  have compared : ∀ left ∈ tokens, ∀ right ∈ tokens,
      { rules with index := one }.keyAtMost left right =
        { rules with index := two }.keyAtMost (id left) (id right) :=
    fun left leftMember right rightMember =>
      keyAtMost_agreeOn agree (members left leftMember) (members right rightMember)
  have same := List.map_mergeSort compared
  rw [List.map_id, List.map_id] at same
  exact same

/-- Texts whose base classes are among the selectors are sorted alike, or fail alike where the
separator is empty. -/
theorem sortValues_agreeOn {Rule : Type} (agree : one.AgreeOn among two) (tokens : List String)
    (members : ∀ token ∈ tokens, among (ClassToken.split rules.separator token).base) :
    { rules with index := one }.sortValues (.text rules.separator : Value Rule)
        (tokens.map .text) =
      { rules with index := two }.sortValues (.text rules.separator : Value Rule)
        (tokens.map .text) := by
  by_cases separated : rules.separator = ""
  · -- No list but the empty one can be sorted, whatever the index.
    unfold sortValues sort
    rw [separated]
    refine bind_congr fun texts => ?_
    cases texts <;> simp [sorted]
  · simp [sortValues, ClassToken.mapM_textOf_texts separated, sort, separated, bind, Except.bind,
      sorted_agreeOn agree members]

/-- The base class of one of the tokens. -/
def BaseAmong (rules : SortRules) (tokens : List String) (selector : String) : Prop :=
  ∃ token ∈ tokens, (ClassToken.split rules.separator token).base = selector

/-- Two indexes that know the same base classes of a class list, and rank the known ones in the
same order, sort it alike. So do two indexes that have the same list of the selectors in use:
selectors that no token uses may come and go. Either way the two indexes agree on the bases in
use, which is all that the keys are compared by, so the sort takes the same course with both. -/
theorem sortValues_only_relative_rank (rules : SortRules) (separated : rules.separator ≠ "")
    {classes : Plain} {tokens : List String} (given : ClassToken.Given classes tokens)
    (one two : SelectorIndex String) :
    ((∀ base, rules.BaseAmong tokens base → (base ∈ one.selectors ↔ base ∈ two.selectors)) →
      (∀ base other, rules.BaseAmong tokens base → rules.BaseAmong tokens other →
        base ∈ one.selectors → other ∈ one.selectors →
          (one.position base < one.position other ↔ two.position base < two.position other)) →
      ∃ sorted,
        ClassToken.listOf classes >>=
            { rules with index := one }.sortValues (.text rules.separator : Plain) = .ok sorted ∧
          ClassToken.listOf classes >>=
            { rules with index := two }.sortValues (.text rules.separator : Plain) = .ok sorted) ∧
    ∀ used : String → Bool, (∀ base, rules.BaseAmong tokens base → used base = true) →
      one.selectors.filter used = two.selectors.filter used →
      ∃ sorted,
        ClassToken.listOf classes >>=
            { rules with index := one }.sortValues (.text rules.separator : Plain) = .ok sorted ∧
          ClassToken.listOf classes >>=
            { rules with index := two }.sortValues (.text rules.separator : Plain) = .ok sorted := by
  have runs (index : SelectorIndex String) :
      ClassToken.listOf classes >>=
          { rules with index }.sortValues (.text rules.separator : Plain) =
        .ok ({ rules with index }.sorted tokens) := by
    let indexed : SortRules := { rules with index }
    have sorts : ClassToken.listOf classes >>=
        indexed.sortValues (.text indexed.separator : Plain) = .ok (indexed.sorted tokens) :=
      sortValues_given separated given
    exact sorts
  constructor
  · intro known before
    refine ⟨_, runs one, (runs two).trans (congrArg Except.ok ?_)⟩
    exact (sorted_agreeOn (SelectorIndex.AgreeOn.of_known known before)
      fun token member => ⟨token, member, rfl⟩).symm
  · intro used inUse same
    refine ⟨_, runs one, (runs two).trans (congrArg Except.ok ?_)⟩
    exact (sorted_agreeOn (SelectorIndex.AgreeOn.of_filter same)
      fun token member => inUse _ ⟨token, member, rfl⟩).symm

/-- The base classes in use have ranks nought and three in one index and one and two in the other
one. -/
theorem sortValues_only_relative_rank_spread :
    let rules : SortRules := { index := ⟨[]⟩ }
    let one : SelectorIndex String := ⟨["block", "grid", "hidden", "flex"]⟩
    let two : SelectorIndex String := ⟨["grid", "block", "flex"]⟩
    let inUse := rules.BaseAmong ["md:flex", "x", "block"]
    (":" : String) ≠ "" ∧ ClassToken.Given (.list [.text "md:flex", .text "x", .text "block"])
        ["md:flex", "x", "block"] ∧
      (∀ base, inUse base → (base ∈ one.selectors ↔ base ∈ two.selectors)) ∧
      (∀ base other, inUse base → inUse other → base ∈ one.selectors → other ∈ one.selectors →
        (one.position base < one.position other ↔ two.position base < two.position other)) ∧
      (∀ base, inUse base → (base != "grid" && base != "hidden") = true) ∧
      ∃ sorted,
        { rules with index := one }.sortValues (.text ":" : Plain)
            [.text "md:flex", .text "x", .text "block"] = .ok sorted ∧
          { rules with index := two }.sortValues (.text ":" : Plain)
            [.text "md:flex", .text "x", .text "block"] = .ok sorted := by
  intro rules one two inUse
  have nonempty : (":" : String) ≠ "" := by decide
  have listed := ClassToken.Given.listed ["md:flex", "x", "block"]
  have bases : ∀ base, inUse base → base ∈ ["flex", "x", "block"] := by
    rintro base ⟨token, member, rfl⟩
    have split : ["md:flex", "x", "block"].map (fun token => (ClassToken.split ":" token).base) =
        ["flex", "x", "block"] := by cbv
    exact split ▸ List.mem_map_of_mem member
  have known : ∀ base, inUse base → (base ∈ one.selectors ↔ base ∈ two.selectors) := by
    have onBases : ∀ base ∈ ["flex", "x", "block"],
        (base ∈ one.selectors ↔ base ∈ two.selectors) := by decide
    exact fun base member => onBases base (bases base member)
  have before : ∀ base other, inUse base → inUse other →
      base ∈ one.selectors → other ∈ one.selectors →
        (one.position base < one.position other ↔ two.position base < two.position other) := by
    have onBases : ∀ base ∈ ["flex", "x", "block"], ∀ other ∈ ["flex", "x", "block"],
        (one.position base < one.position other ↔ two.position base < two.position other) := by
      decide
    exact fun base other member otherMember _ _ =>
      onBases base (bases base member) other (bases other otherMember)
  have used : ∀ base, inUse base → (base != "grid" && base != "hidden") = true := by
    have onBases : ∀ base ∈ ["flex", "x", "block"],
        (base != "grid" && base != "hidden") = true := by decide
    exact fun base member => onBases base (bases base member)
  obtain ⟨-, unused⟩ := sortValues_only_relative_rank rules nonempty listed one two
  exact ⟨nonempty, listed, known, before, used, unused _ used (by decide)⟩

end SortRules

end ClassOrder
