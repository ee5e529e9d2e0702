import ClassOrder.Proofs.ClassList.Comparator

/-!
# The one arrangement of a class list

An arrangement of tokens has the same tokens as often, in an order that no rule
contradicts, and leaves tied tokens in the order in which they were given. Sorting finds
an arrangement, and there is only one. Whether the tokens are listed or are the words of
a text makes no difference.
-/
namespace ClassOrder

namespace ClassToken

/-- A text is its own token at a text that is not empty as the separator. -/
theorem textOf_text {Rule : Type} {separator : String} (separated : separator ≠ "")
    (token : String) : textOf (.text separator : Value Rule) (.text token) = .ok token := by
  simp [textOf, splitValue?, split?, separated, Value.asText, Value.asKey, discard,
    Functor.mapConst, Except.map, bind, Except.bind, pure, Except.pure]

/-- Texts are their own tokens. -/
theorem mapM_textOf_texts {Rule : Type} {separator : String} (separated : separator ≠ "")
    (tokens : List String) :
    (tokens.map Value.text).mapM (textOf (.text separator : Value Rule)) = .ok tokens := by
  induction tokens with
  | nil => rfl
  | cons token rest inductionHypothesis =>
    rw [List.map_cons, List.mapM_cons, textOf_text separated, inductionHypothesis]
    rfl

/-- A class list of tokens is given as a list of them, or as a text whose words they
are. -/
inductive Given : Plain → List String → Prop where
  | listed (tokens : List String) : Given (.list (tokens.map .text)) tokens
  | written (text : String) : Given (.text text) (Text.words text)

/-- The tokens of a class list are those that it was given for. -/
theorem Given.listOf_eq {classes : Plain} {tokens : List String} (given : Given classes tokens) :
    listOf classes = .ok (tokens.map .text) := by
  cases given with
  | listed => rfl
  | written => rfl

end ClassToken

namespace SortRules

variable {rules : SortRules}

/-- A list arranges tokens when it holds them all as often, puts none after one that it
precedes, and keeps every group of tied tokens in the order in which it was given. -/
structure Arranges (rules : SortRules) (tokens arranged : List String) : Prop where
  permutation : arranged.Perm tokens
  ordered : arranged.Pairwise fun left right => ¬ rules.Precedes right left
  stable : ∀ token, arranged.filter (rules.Ties token ·) = tokens.filter (rules.Ties token ·)

/-- The group of a token is the same by the rules and by the keys. -/
theorem filter_ties (rules : SortRules) (token : String) (tokens : List String) :
    tokens.filter (rules.Ties token ·) =
      tokens.filter (StableSort.tied rules.keyAtMost token) := by
  apply List.filter_congr
  intro other _
  rw [Bool.eq_iff_iff, decide_eq_true_iff]
  exact ties_iff_tied

/-- Sorting arranges the tokens. -/
theorem arranges_sorted (rules : SortRules) (tokens : List String) :
    rules.Arranges tokens (rules.sorted tokens) where
  permutation := List.mergeSort_perm tokens _
  ordered := by
    have ordered : (rules.sorted tokens).Pairwise fun left right =>
        rules.keyAtMost left right = true :=
      List.pairwise_mergeSort rules.keyAtMost_trans rules.keyAtMost_total tokens
    exact ordered.imp keyAtMost_iff.mp
  stable := by
    intro token
    rw [filter_ties, filter_ties]
    exact StableSort.filter_tied_mergeSort rules.keyAtMost_trans rules.keyAtMost_total token tokens

/-- Two arrangements of the same tokens are equal. -/
theorem Arranges.unique {tokens first second : List String}
    (one : rules.Arranges tokens first) (other : rules.Arranges tokens second) :
    first = second := by
  have firstOrdered : first.Pairwise fun left right => rules.keyAtMost left right = true :=
    one.ordered.imp keyAtMost_iff.mpr
  have secondOrdered : second.Pairwise fun left right => rules.keyAtMost left right = true :=
    other.ordered.imp keyAtMost_iff.mpr
  refine StableSort.eq_of_ordered rules.keyAtMost_total firstOrdered secondOrdered
    (one.permutation.trans other.permutation.symm) ?_
  intro token
  rw [← filter_ties, ← filter_ties, one.stable, other.stable]

/-- The tokens of a class list are sorted by the rules. -/
theorem sortValues_given {Rule : Type} {classes : Plain} {tokens : List String}
    (separated : rules.separator ≠ "") (given : ClassToken.Given classes tokens) :
    ClassToken.listOf classes >>= rules.sortValues (.text rules.separator : Value Rule) =
      .ok (rules.sorted tokens) := by
  rw [given.listOf_eq]
  change rules.sortValues (.text rules.separator : Value Rule) (tokens.map .text) = _
  rw [sortValues, ClassToken.mapM_textOf_texts separated]
  simp [sort, separated, bind, Except.bind]

/-- The rules compare any two tokens, transitively, and the keys compare them alike. A class list
is sorted into the one list that arranges its tokens by the rules. What is true of the comparison
is read off the keys, which `keyAtMost_iff` says represent it. A merge sort by the keys is one
arrangement, and there is no second one, since the stable ordered permutations of a list are all
the same. -/
theorem sortValues_only_arrangement (rules : SortRules) (separated : rules.separator ≠ "") :
    (∀ left right, ¬ rules.Precedes right left ∨ ¬ rules.Precedes left right) ∧
      (∀ first second third, ¬ rules.Precedes second first → ¬ rules.Precedes third second →
        ¬ rules.Precedes third first) ∧
      (∀ left right, (rules.key left).atMost (rules.key right) = true ↔
        ¬ rules.Precedes right left) ∧
      ∀ classes tokens, ClassToken.Given classes tokens →
        ∃ sorted, ClassToken.listOf classes >>=
            rules.sortValues (.text rules.separator : Plain) = .ok sorted ∧
          ∀ arranged, rules.Arranges tokens arranged ↔ arranged = sorted := by
  refine ⟨?_, ?_, fun left right => keyAtMost_iff, ?_⟩
  · intro left right
    rw [← keyAtMost_iff, ← keyAtMost_iff, ← Bool.or_eq_true]
    exact rules.keyAtMost_total left right
  · intro first second third lower upper
    rw [← keyAtMost_iff] at *
    exact rules.keyAtMost_trans first second third lower upper
  · intro classes tokens given
    refine ⟨rules.sorted tokens, sortValues_given separated given, ?_⟩
    intro arranged
    constructor
    · intro arranges
      exact arranges.unique (rules.arranges_sorted tokens)
    · rintro rfl
      exact rules.arranges_sorted tokens

/-- A breakpoint that is listed again ranks by its last place, an unknown class goes to
the start, and two classes that tie keep their order. -/
theorem sortValues_only_arrangement_repeated_breakpoint :
    (":" : String) ≠ "" ∧
      SortRules.Arranges ⟨⟨["block", "flex"]⟩, ["sm", "md", "sm"], .atStart, ":"⟩
        ["hover:flex", "sm:flex", "md:flex", "z", "flex"]
        ["z", "hover:flex", "flex", "md:flex", "sm:flex"] := by
  have nonempty : (":" : String) ≠ "" := by decide
  let rules : SortRules := ⟨⟨["block", "flex"]⟩, ["sm", "md", "sm"], .atStart, ":"⟩
  have hover : rules.key "hover:flex" = ⟨1, 0, -1, 1⟩ := by cbv
  have small : rules.key "sm:flex" = ⟨1, 1, 2, 1⟩ := by cbv
  have medium : rules.key "md:flex" = ⟨1, 1, 1, 1⟩ := by cbv
  have unknown : rules.key "z" = ⟨0, 0, -1, -1⟩ := by cbv
  have bare : rules.key "flex" = ⟨1, 0, -1, 1⟩ := by cbv
  obtain ⟨-, -, -, sorts⟩ := sortValues_only_arrangement rules nonempty
  obtain ⟨sorted, run, only⟩ := sorts _ _
    (.listed ["hover:flex", "sm:flex", "md:flex", "z", "flex"])
  have computed : sorted = ["z", "hover:flex", "flex", "md:flex", "sm:flex"] := by
    rw [sortValues_given nonempty (.listed _)] at run
    rw [← Except.ok.inj run]
    simp [SortRules.sorted, List.mergeSort, List.MergeSort.Internal.splitInTwo, hover, small,
      medium, unknown, bare, SortKey.atMost]
  exact ⟨nonempty, (only _).mpr computed.symm⟩

end SortRules

end ClassOrder
