import ClassOrder.Proofs.ClassList.Resorting
import ClassOrder.Proofs.Markup.Settled

/-!
# What sorting the classes of a source changes

A sorter settles the classes that it sorts. So sorting the classes of a source changes values of
attributes only, the changes can be told from the two sources, and sorting the new source changes
nothing.
-/
namespace ClassOrder.Markup

/-- A sorter settles the classes. -/
theorem settles_sortText (sorter : Sorter) : Settles sorter.sortText where
  permutation returned := (Sorter.sortText_eq_ok returned).1
  again returned _ same := (Sorter.sortText_eq_ok returned).2 _ same

/-- A source with its classes in order is left as it is: sorting the classes once more returns
the same text and changes no attribute. The cut of the new text has the settled attributes, and
settling them again changes none of them. -/
theorem rewrite_converges (sorter : Sorter) (source : String) (rewritten : Rewritten)
    (returned : rewrite sorter.sortText source = .ok rewritten) :
    rewrite sorter.sortText rewritten.text = .ok { rewritten with changed := 0 } :=
  rewrite_rewritten (settles_sortText sorter) returned

/-- A sorter that puts one class before another. -/
def blockFirst : Sorter where
  options := {}
  catalog := {}
  engine := .builtin
  config := .mapping []
  pluginOrder := []
  index := ⟨["block", "flex"]⟩

/-- A source with a class attribute, an attribute with a longer name, and a class attribute
that is not closed. -/
def crowded : String :=
  "<p class='flex  block' :class='flex block' class=\"flex>"

/-- The cut of this source has one attribute. -/
theorem cutOf_crowded : cutOf crowded =
    ⟨[("<p ".toList, ⟨"class=".toList, '\x27', "flex  block".toList⟩)],
      " :class='flex block' class=\"flex>".toList⟩ := by
  with_unfolding_all rfl

/-- The sorter exchanges its two classes. -/
theorem sortText_blockFirst : blockFirst.sortText "flex  block" = .ok ["block", "flex"] := by
  let rules : SortRules := { index := blockFirst.index }
  have separated : rules.separator ≠ "" := by decide
  have cut : Text.words "flex  block" = ["flex", "block"] := by decide
  have flex : rules.key "flex" = ⟨1, 0, -1, 1⟩ := by cbv
  have block : rules.key "block" = ⟨1, 0, -1, 0⟩ := by cbv
  have sorted : rules.sorted ["flex", "block"] = ["block", "flex"] := by
    simp [SortRules.sorted, List.mergeSort, List.MergeSort.Internal.splitInTwo, flex, block,
      SortKey.atMost]
  have sorts : ClassToken.listOf (.text "flex  block") >>=
      rules.sortValues (.text rules.separator : Setting) =
        .ok (rules.sorted (Text.words "flex  block")) :=
    SortRules.sortValues_given separated (.written "flex  block")
  rw [cut, sorted] at sorts
  exact sorts

/-- The one attribute of a source is changed when its two classes are exchanged, whatever stands
around it. -/
theorem rewrite_of_exchange {sort : Sorting} (settles : Settles sort) {source : String}
    {gap last : List Char}
    (sorted : sort "flex  block" = .ok ["block", "flex"])
    (cut : cutOf source = ⟨[(gap, ⟨"class=".toList, '\x27', "flex  block".toList⟩)], last⟩) :
    rewrite sort source =
      .ok ⟨String.ofList (gap ++ "class='block flex'".toList ++ last), 1⟩ := by
  rw [rewrite_eq_ok settles, cut]
  have sortedHere : sort (Attribute.classes ⟨"class=".toList, '\x27', "flex  block".toList⟩) =
      .ok ["block", "flex"] := sorted
  have settled : Attribute.settled sort ⟨"class=".toList, '\x27', "flex  block".toList⟩ =
      ⟨"class=".toList, '\x27', "block flex".toList⟩ := by
    rw [Attribute.settled, sortedHere]
    decide
  refine ⟨?_, ?_⟩
  · simp only [Cut.Sortable, Cut.attributes, List.map_cons, List.map_nil, List.forall_mem_cons]
    exact ⟨⟨_, sortedHere⟩, by simp⟩
  · simp only [Cut.mapAttributes, Cut.attributes, List.map_cons, List.map_nil, List.countP_cons,
      List.countP_nil, settled]
    simp [Cut.text, Attribute.text]

/-- The sorter changes the one attribute of a source. -/
theorem rewrite_flexBlock {source : String} {gap last : List Char}
    (cut : cutOf source = ⟨[(gap, ⟨"class=".toList, '\x27', "flex  block".toList⟩)], last⟩) :
    rewrite blockFirst.sortText source =
      .ok ⟨String.ofList (gap ++ "class='block flex'".toList ++ last), 1⟩ :=
  rewrite_of_exchange (settles_sortText blockFirst) sortText_blockFirst cut

/-- The one attribute of the crowded source is changed. -/
theorem rewrite_crowded : rewrite blockFirst.sortText crowded =
    .ok ⟨"<p class='block flex' :class='flex block' class=\"flex>", 1⟩ :=
  rewrite_flexBlock cutOf_crowded

/-- The attribute changes once, and the other two stay. -/
theorem rewrite_converges_crowded :
    rewrite blockFirst.sortText crowded =
        .ok ⟨"<p class='block flex' :class='flex block' class=\"flex>", 1⟩ ∧
      rewrite blockFirst.sortText "<p class='block flex' :class='flex block' class=\"flex>" =
        .ok ⟨"<p class='block flex' :class='flex block' class=\"flex>", 0⟩ := by
  have again := rewrite_converges blockFirst crowded _ rewrite_crowded
  exact ⟨rewrite_crowded, again⟩

/-- A source has one leftmost cut. When the classes of its attributes can be sorted, sorting them
leaves the gaps of the cut and tidies its attributes. The number that is reported counts the
attributes that changed, and it is zero exactly when the text is the same. Each attribute is
settled alone, and the new text is cut at the same places, so that it can be the old text only if
every attribute is as before. -/
theorem rewrite_only_class_values (sorter : Sorter) (source : String) :
    ∃ cut : Cut,
      (∀ other : Cut, other.text = source.toList ∧ Cut.Leftmost [] other ↔ other = cut) ∧
      ((∀ found ∈ cut.attributes, ∃ ordered, sorter.sortText found.classes = .ok ordered) →
        ∃ (rewritten : Rewritten) (tidy : Attribute → Attribute),
          rewrite sorter.sortText source = .ok rewritten ∧
          rewritten.text.toList = (cut.mapAttributes tidy).text ∧
          (∀ found ∈ cut.attributes, found.Tidies sorter.sortText (tidy found)) ∧
          rewritten.changed = cut.attributes.countP (fun found => tidy found ≠ found) ∧
          (rewritten.text = source ↔ rewritten.changed = 0)) := by
  refine ⟨cutOf source, leftmost_iff_eq_cutOf source, fun sortable => ?_⟩
  have settles := settles_sortText sorter
  have returned : rewrite sorter.sortText source = .ok _ :=
    (rewrite_eq_ok settles).mpr ⟨sortable, rfl⟩
  refine ⟨_, Attribute.settled sorter.sortText, returned, String.toList_ofList, ?_, rfl,
    rewritten_text_eq_iff settles returned⟩
  intro found member
  obtain ⟨ordered, sorted⟩ := sortable found member
  exact Attribute.tidies_settled settles sorted

/-- The value of the one attribute is tidied, and all else stands where it stood. -/
theorem rewrite_only_class_values_crowded :
    (∃ ordered, blockFirst.sortText "flex  block" = .ok ordered) ∧
      ∃ tidy : Attribute → Attribute,
        "<p class='block flex' :class='flex block' class=\"flex>".toList =
            ((cutOf crowded).mapAttributes tidy).text ∧
          ∀ found ∈ (cutOf crowded).attributes, found.Tidies blockFirst.sortText (tidy found) := by
  obtain ⟨cut, leftmost, rewrites⟩ := rewrite_only_class_values blockFirst crowded
  have same : cut = cutOf crowded := (leftmost_iff_eq_cutOf crowded cut).mp ((leftmost cut).mpr rfl)
  subst same
  have sortable : ∀ found ∈ (cutOf crowded).attributes,
      ∃ ordered, blockFirst.sortText found.classes = .ok ordered :=
    ((rewrite_eq_ok (settles_sortText blockFirst)).mp rewrite_crowded).1
  obtain ⟨rewritten, tidy, returned, text, tidies, _, _⟩ := rewrites sortable
  cases rewrite_crowded.symm.trans returned
  exact ⟨⟨_, sortText_blockFirst⟩, tidy, text, tidies⟩

end ClassOrder.Markup
