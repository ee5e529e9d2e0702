import ClassOrder.Markup.Rewriting
import ClassOrder.Proofs.Fallible
import ClassOrder.Proofs.Markup.Cut
import ClassOrder.Proofs.Text.Words

/-!
# Settled sources

A way to sort settles the classes when it gives back the words that it takes, in an order that it
keeps. Then an attribute changes no more than its value, and this only when its classes are not in
order yet. Rewriting settles the attributes of the leftmost cut of a source and leaves the gaps
alone, and the cut of the new source is the cut of the old one with the new values in it.

Once its attributes are settled, a cut stays as it is. So a rewritten source is rewritten to
itself. It is another text than before exactly when attributes changed, and rewriting brings no
carriage return into it.
-/
namespace ClassOrder.Markup

open Fallible

/-- The classes of an attribute as they are written. -/
def Attribute.classes (found : Attribute) : String :=
  String.ofList found.value

/-- An attribute is tidied: its lead, its mark and its classes stay. If the classes are in
order, the value stays as well, blanks included. Otherwise the value is the classes in order
with single spaces between them. -/
structure Attribute.Tidies (sort : Sorting) (found tidy : Attribute) : Prop where
  lead : tidy.lead = found.lead
  mark : tidy.mark = found.mark
  tokens : (Text.words tidy.classes).Perm (Text.words found.classes)
  kept : sort found.classes = .ok (Text.words found.classes) → tidy = found
  sorted : ∀ ordered, sort found.classes = .ok ordered → ordered ≠ Text.words found.classes →
    tidy.value = (Text.unwords ordered).toList

/-- What comes out of a way to sort are the words that go in, in an order that it keeps. -/
structure Settles (sort : Sorting) : Prop where
  permutation : ∀ {classes ordered}, sort classes = .ok ordered →
    ordered.Perm (Text.words classes)
  again : ∀ {classes ordered}, sort classes = .ok ordered →
    ∀ {other}, Text.words other = ordered → sort other = .ok ordered

variable {sort : Sorting}

/-! ## One attribute -/

namespace Attribute

variable {found : Attribute} {ordered : List String}

/-- An attribute with its classes in order. One that cannot be sorted stays as it is. -/
def settled (sort : Sorting) (found : Attribute) : Attribute :=
  match sort found.classes with
  | .ok ordered =>
    if ordered = Text.words found.classes then found
    else { found with value := (Text.unwords ordered).toList }
  | .error _ => found

/-- The classes of an attribute are words, also in order. -/
theorem isWord_of_sorted (settles : Settles sort) (returned : sort found.classes = .ok ordered) :
    ∀ word ∈ ordered, Text.IsWord word := fun _ member =>
  Text.isWord_of_mem_words ((settles.permutation returned).subset member)

/-- A settled attribute is the same one when the classes were in order, and else has them in
order with single spaces. -/
theorem settled_cases (returned : sort found.classes = .ok ordered) :
    (ordered = Text.words found.classes ∧ found.settled sort = found) ∨
      (ordered ≠ Text.words found.classes ∧
        found.settled sort = { found with value := (Text.unwords ordered).toList }) := by
  by_cases same : ordered = Text.words found.classes
  · exact .inl ⟨same, by simp only [settled, returned, if_pos same]⟩
  · exact .inr ⟨same, by simp only [settled, returned, if_neg same]⟩

/-- The classes of a settled attribute are in order. -/
theorem words_settled (settles : Settles sort) (returned : sort found.classes = .ok ordered) :
    Text.words (found.settled sort).classes = ordered := by
  rcases settled_cases returned with ⟨same, kept⟩ | ⟨_, changed⟩
  · rw [kept, same]
  · rw [changed, classes, String.ofList_toList,
      Text.words_unwords (isWord_of_sorted settles returned)]

/-- Settling changes an attribute exactly when its classes are not in order. -/
theorem settled_eq_iff (settles : Settles sort) (returned : sort found.classes = .ok ordered) :
    found.settled sort = found ↔ ordered = Text.words found.classes := by
  have words := words_settled settles returned
  rcases settled_cases returned with ⟨same, kept⟩ | ⟨different, _⟩
  · exact iff_of_true kept same
  · refine iff_of_false (fun kept => different ?_) different
    rw [← words, kept]

/-- Settled classes are sorted to themselves. -/
theorem sort_settled (settles : Settles sort) (returned : sort found.classes = .ok ordered) :
    sort (found.settled sort).classes = .ok ordered :=
  settles.again returned (words_settled settles returned)

/-- Settling once is enough. -/
theorem settled_settled (settles : Settles sort) (returned : sort found.classes = .ok ordered) :
    (found.settled sort).settled sort = found.settled sort :=
  (settled_eq_iff settles (sort_settled settles returned)).mpr
    (words_settled settles returned).symm

/-- A settled attribute is a tidied one. -/
theorem tidies_settled (settles : Settles sort) (returned : sort found.classes = .ok ordered) :
    found.Tidies sort (found.settled sort) where
  lead := by
    rcases settled_cases returned with ⟨_, kept⟩ | ⟨_, changed⟩
    · rw [kept]
    · rw [changed]
  mark := by
    rcases settled_cases returned with ⟨_, kept⟩ | ⟨_, changed⟩
    · rw [kept]
    · rw [changed]
  tokens := by
    rw [words_settled settles returned]
    exact settles.permutation returned
  kept inOrder := (settled_eq_iff settles inOrder).mpr rfl
  sorted other otherReturned different := by
    rcases settled_cases otherReturned with ⟨same, _⟩ | ⟨_, changed⟩
    · exact absurd same different
    · rw [changed]

/-- Settling brings no mark into a value. -/
theorem keeps_settled (settles : Settles sort) (returned : sort found.classes = .ok ordered) :
    Cut.Keeps (settled sort) found where
  lead := (tidies_settled settles returned).lead
  mark := (tidies_settled settles returned).mark
  value := by
    intro mark isMark member
    have tokens := (tidies_settled settles returned).tokens
    have same := Text.mem_iff_of_words_perm tokens (not_blank_of_mark isMark)
    simp only [classes, String.toList_ofList] at same
    exact same.mp member

/-- Tidying an attribute settles it, and says whether this changed it. -/
theorem tidied_eq (settles : Settles sort) (returned : sort found.classes = .ok ordered) :
    found.tidied sort = .ok (found.settled sort, decide (found.settled sort ≠ found)) := by
  have sortedWords := isWord_of_sorted settles returned
  have classWords : ∀ word ∈ Text.words found.classes, Text.IsWord word := fun _ member =>
    Text.isWord_of_mem_words member
  have unchanged := settled_eq_iff settles returned
  have written : (Text.unwords ordered == Text.unwords (Text.words found.classes)) = true ↔
      ordered = Text.words found.classes := by
    rw [beq_iff_eq, Text.unwords_inj sortedWords classWords]
  have tidies : found.tidied sort =
      if Text.unwords ordered == Text.unwords (Text.words found.classes) then .ok (found, false)
      else .ok ({ found with value := (Text.unwords ordered).toList }, true) := by
    change sort found.classes >>= _ = _
    rw [returned]
    rfl
  rw [tidies]
  rcases settled_cases returned with ⟨same, kept⟩ | ⟨different, changed⟩
  · rw [if_pos (written.mpr same), kept]
    simp
  · rw [if_neg (mt written.mp different), decide_eq_true (mt unchanged.mp different), changed]

end Attribute

/-! ## All attributes in turn -/

/-- The classes of all attributes of a cut can be sorted. -/
def Cut.Sortable (sort : Sorting) (cut : Cut) : Prop :=
  ∀ found ∈ cut.attributes, ∃ ordered, sort found.classes = .ok ordered

/-- The cut of a source. -/
def cutOf (source : String) : Cut :=
  .ofPieces (pieces none source.toList)

/-- The cut of a source is leftmost, and there is no other one. -/
theorem leftmost_iff_eq_cutOf (source : String) (cut : Cut) :
    cut.text = source.toList ∧ Cut.Leftmost [] cut ↔ cut = cutOf source := by
  have leftmost : Cut.Leftmost [] (cutOf source) ∧ (cutOf source).text = source.toList :=
    Cut.leftmost_ofPieces [] source.toList
  constructor
  · rintro ⟨whole, other⟩
    exact other.unique leftmost.1 (whole.trans leftmost.2.symm)
  · rintro rfl
    exact ⟨leftmost.2, leftmost.1⟩

/-- When the classes can be sorted, tidying the pieces settles the attributes of the cut and
counts those that change. -/
theorem mapM_tidied_of_sortable (settles : Settles sort) {pieces : List Piece}
    (sortable : (Cut.ofPieces pieces).Sortable sort) :
    ∃ tidied, pieces.mapM (Piece.tidied sort) = .ok tidied ∧
      render (tidied.map Prod.fst) =
        ((Cut.ofPieces pieces).mapAttributes (Attribute.settled sort)).text ∧
      tidied.countP Prod.snd =
        (Cut.ofPieces pieces).attributes.countP fun found => found.settled sort ≠ found := by
  induction pieces with
  | nil => exact ⟨[], rfl, by simp [Cut.ofPieces, Cut.mapAttributes, render], rfl⟩
  | cons piece rest inductionHypothesis =>
    cases piece with
    | plain c =>
      simp only [Cut.ofPieces, Cut.Sortable, Cut.attributes_push] at sortable
      obtain ⟨tidied, returned, text, changed⟩ := inductionHypothesis sortable
      refine ⟨(.plain c, false) :: tidied, ?_, ?_, ?_⟩
      · rw [List.mapM_cons, returned]
        rfl
      · rw [Cut.ofPieces, Cut.mapAttributes_push, Cut.text_push, ← text]
        simp [render, Piece.text]
      · rw [Cut.ofPieces, Cut.attributes_push, ← changed]
        simp
    | classes found =>
      obtain ⟨⟨ordered, sorted⟩, sortableRest⟩ := List.forall_mem_cons.mp sortable
      obtain ⟨tidied, returned, text, changed⟩ := inductionHypothesis sortableRest
      refine ⟨(.classes (found.settled sort), decide (found.settled sort ≠ found)) :: tidied,
        ?_, ?_, ?_⟩
      · have first : Piece.tidied sort (.classes found) =
            .ok (.classes (found.settled sort), decide (found.settled sort ≠ found)) := by
          rw [Piece.tidied, Attribute.tidied_eq settles sorted]
          rfl
        rw [List.mapM_cons, first, returned]
        rfl
      · have whole : ((Cut.ofPieces (.classes found :: rest)).mapAttributes
            (Attribute.settled sort)).text = (found.settled sort).text ++
              ((Cut.ofPieces rest).mapAttributes (Attribute.settled sort)).text := by
          simp [Cut.ofPieces, Cut.mapAttributes]
        rw [whole, ← text]
        simp [render, Piece.text]
      · have all : (Cut.ofPieces (.classes found :: rest)).attributes =
            found :: (Cut.ofPieces rest).attributes := rfl
        rw [all, List.countP_cons, List.countP_cons, changed]

/-- When tidying the pieces succeeds, the classes can be sorted. -/
theorem sortable_of_mapM_tidied {pieces : List Piece} {tidied : List (Piece × Bool)}
    (returned : pieces.mapM (Piece.tidied sort) = .ok tidied) :
    (Cut.ofPieces pieces).Sortable sort := by
  induction pieces generalizing tidied with
  | nil => simp [Cut.Sortable, Cut.ofPieces, Cut.attributes]
  | cons piece rest inductionHypothesis =>
    rw [List.mapM_cons] at returned
    obtain ⟨_, first, returned⟩ := bind_eq_ok.mp returned
    obtain ⟨others, following, _⟩ := bind_eq_ok.mp returned
    have sortableRest := inductionHypothesis following
    cases piece with
    | plain c => simpa [Cut.Sortable, Cut.ofPieces] using sortableRest
    | classes found =>
      obtain ⟨_, tidies, _⟩ := bind_eq_ok.mp first
      obtain ⟨ordered, sorted, _⟩ := bind_eq_ok.mp tidies
      exact List.forall_mem_cons.mpr ⟨⟨ordered, sorted⟩, sortableRest⟩

/-- Rewriting succeeds exactly when the classes can be sorted, and settles the attributes of
the cut. -/
theorem rewrite_eq_ok (settles : Settles sort) {source : String} {rewritten : Rewritten} :
    rewrite sort source = .ok rewritten ↔ (cutOf source).Sortable sort ∧
      rewritten = {
        text := String.ofList ((cutOf source).mapAttributes (Attribute.settled sort)).text
        changed := (cutOf source).attributes.countP fun found => found.settled sort ≠ found } := by
  constructor
  · intro returned
    obtain ⟨tidied, inTurn, ⟨⟩⟩ := bind_eq_ok.mp returned
    have sortable := sortable_of_mapM_tidied inTurn
    obtain ⟨_, again, text, changed⟩ := mapM_tidied_of_sortable settles sortable
    cases inTurn.symm.trans again
    exact ⟨sortable, by rw [text, changed]; rfl⟩
  · rintro ⟨sortable, rfl⟩
    obtain ⟨tidied, returned, text, changed⟩ := mapM_tidied_of_sortable settles sortable
    refine bind_eq_ok.mpr ⟨tidied, returned, ?_⟩
    rw [text, changed]
    rfl

/-- The cut of a rewritten source has the same gaps and the settled attributes. -/
theorem cutOf_rewritten (settles : Settles sort) {source : String}
    (sortable : (cutOf source).Sortable sort) :
    cutOf (String.ofList ((cutOf source).mapAttributes (Attribute.settled sort)).text) =
      (cutOf source).mapAttributes (Attribute.settled sort) := by
  obtain ⟨_, leftmost⟩ := (leftmost_iff_eq_cutOf source _).mpr rfl
  refine ((leftmost_iff_eq_cutOf _ _).mp ⟨String.toList_ofList.symm, ?_⟩).symm
  refine leftmost.mapAttributes rfl fun found member => ?_
  obtain ⟨ordered, sorted⟩ := sortable found member
  exact Attribute.keeps_settled settles sorted

/-! ## Settled cuts -/

namespace Cut

variable {cut : Cut}

/-- The classes of settled attributes can be sorted. -/
theorem Sortable.settled (settles : Settles sort) (sortable : cut.Sortable sort) :
    (cut.mapAttributes (Attribute.settled sort)).Sortable sort := by
  intro found member
  rw [attributes_mapAttributes] at member
  obtain ⟨original, listed, rfl⟩ := List.mem_map.mp member
  obtain ⟨ordered, sorted⟩ := sortable original listed
  exact ⟨ordered, Attribute.sort_settled settles sorted⟩

/-- Settling the attributes of a cut once is enough. -/
theorem settled_settled (settles : Settles sort) (sortable : cut.Sortable sort) :
    (cut.mapAttributes (Attribute.settled sort)).mapAttributes (Attribute.settled sort) =
      cut.mapAttributes (Attribute.settled sort) := by
  rw [mapAttributes_mapAttributes]
  apply mapAttributes_congr
  intro found member
  obtain ⟨ordered, sorted⟩ := sortable found member
  exact Attribute.settled_settled settles sorted

/-- No attribute changes exactly when settling leaves the cut. -/
theorem changed_eq_zero_iff :
    (cut.attributes.countP fun found => found.settled sort ≠ found) = 0 ↔
      cut.mapAttributes (Attribute.settled sort) = cut := by
  rw [mapAttributes_eq_self_iff, List.countP_eq_zero]
  simp

/-- Settling brings no carriage return into a cut: the classes are written with spaces between
them. -/
theorem return_notMem_settled (settles : Settles sort) (sortable : cut.Sortable sort)
    (solid : '\r' ∉ cut.text) : '\r' ∉ (cut.mapAttributes (Attribute.settled sort)).text := by
  refine mt (mem_of_mem_mapAttributes fun found member inside => ?_) solid
  obtain ⟨ordered, sorted⟩ := sortable found member
  rcases Attribute.settled_cases sorted with ⟨_, kept⟩ | ⟨_, changed⟩
  · rwa [kept] at inside
  · rw [changed] at inside
    have notWritten : '\r' ∉ (Text.unwords ordered).toList := by
      intro written
      have space := Text.eq_space_of_mem_unwords (Attribute.isWord_of_sorted settles sorted) written
        (by decide)
      exact absurd space (by decide)
    simp only [Attribute.text, List.mem_append, List.mem_cons, List.not_mem_nil, or_false,
      notWritten] at inside ⊢
    exact inside.imp_left (Or.imp_right Or.inl)

end Cut

variable {source : String} {rewritten : Rewritten}

/-- Sorting the classes of a rewritten source changes nothing. -/
theorem rewrite_rewritten (settles : Settles sort)
    (returned : rewrite sort source = .ok rewritten) :
    rewrite sort rewritten.text = .ok ⟨rewritten.text, 0⟩ := by
  obtain ⟨sortable, rfl⟩ := (rewrite_eq_ok settles).mp returned
  have stays := Cut.settled_settled settles sortable
  rw [rewrite_eq_ok settles, cutOf_rewritten settles sortable]
  refine ⟨sortable.settled settles, ?_⟩
  rw [Cut.changed_eq_zero_iff.mpr stays, stays]

/-- A rewritten source is the same text exactly when no attribute changed. -/
theorem rewritten_text_eq_iff (settles : Settles sort)
    (returned : rewrite sort source = .ok rewritten) :
    rewritten.text = source ↔ rewritten.changed = 0 := by
  obtain ⟨sortable, rfl⟩ := (rewrite_eq_ok settles).mp returned
  rw [Cut.changed_eq_zero_iff]
  constructor
  · intro same
    have cuts := cutOf_rewritten settles sortable
    rwa [show String.ofList _ = source from same, eq_comm] at cuts
  · intro stays
    obtain ⟨whole, _⟩ := (leftmost_iff_eq_cutOf source _).mpr rfl
    simp only [stays, whole, String.ofList_toList]

/-- A rewritten source has no carriage return when it had none before. -/
theorem return_notMem_rewritten (settles : Settles sort)
    (returned : rewrite sort source = .ok rewritten) (solid : '\r' ∉ source.toList) :
    '\r' ∉ rewritten.text.toList := by
  obtain ⟨sortable, rfl⟩ := (rewrite_eq_ok settles).mp returned
  obtain ⟨whole, _⟩ := (leftmost_iff_eq_cutOf source _).mpr rfl
  rw [String.toList_ofList]
  apply Cut.return_notMem_settled settles sortable
  rwa [whole]

end ClassOrder.Markup
