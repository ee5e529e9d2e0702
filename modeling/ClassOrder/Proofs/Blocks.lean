import ClassOrder.Proofs.Occurrence
import ClassOrder.Style.Extraction

/-!
# First occurrences in lists made of blocks

A list may be put together from blocks, one for each of several owners, and the same element
may stand in many of them. Its first occurrence is in the block of the first owner that has
it, so first occurrences are compared owner by owner, and place by place inside one block.
Comparisons of this kind are written as comparisons of lists of numbers, which are
lexicographic.
-/
namespace ClassOrder

variable {α β : Type}

/-- Leaving out owners whose blocks hold nothing of a kind leaves everything of that kind. -/
theorem filter_flatMap_filter {blocks : β → List α} {owners : List β} {keep : β → Bool}
    {kind : α → Bool}
    (nothing : ∀ owner, keep owner = false → ∀ element ∈ blocks owner, kind element = false) :
    ((owners.filter keep).flatMap blocks).filter kind = (owners.flatMap blocks).filter kind := by
  induction owners with
  | nil => rfl
  | cons owner rest inductionHypothesis =>
    rw [List.flatMap_cons, List.filter_append, ← inductionHypothesis]
    by_cases kept : keep owner = true
    · rw [List.filter_cons_of_pos kept, List.flatMap_cons, List.filter_append]
    · have none : (blocks owner).filter kind = [] := by
        rw [List.filter_eq_nil_iff]
        intro element member
        simp [nothing owner (by simpa using kept) element member]
      rw [List.filter_cons_of_neg kept, none, List.nil_append]

/-- Leaving out owners without elements leaves all elements. -/
theorem flatMap_filter_of_nil {blocks : β → List α} {owners : List β} {keep : β → Bool}
    (nothing : ∀ owner, keep owner = false → blocks owner = []) :
    (owners.filter keep).flatMap blocks = owners.flatMap blocks := by
  induction owners with
  | nil => rfl
  | cons owner rest inductionHypothesis =>
    rw [List.flatMap_cons, ← inductionHypothesis]
    by_cases kept : keep owner = true
    · rw [List.filter_cons_of_pos kept, List.flatMap_cons]
    · rw [List.filter_cons_of_neg kept, nothing owner (by simpa using kept), List.nil_append]

variable [BEq α]

/-- The number of owners in front of the first one whose block has the element. -/
def firstOwner (blocks : β → List α) (owners : List β) (element : α) : Nat :=
  owners.findIdx fun owner => (blocks owner).contains element

/-- The place of the element in the first block that has it. -/
def placeInBlock (blocks : β → List α) (owners : List β) (element : α) : Nat :=
  match owners.find? fun owner => (blocks owner).contains element with
  | some owner => (blocks owner).idxOf element
  | none => 0

variable {blocks : β → List α} {owners : List β} {left right element : α}

/-- The first owner of an element is found where it is counted to. -/
theorem find?_eq_getElem?_firstOwner :
    owners.find? (fun owner => (blocks owner).contains element) =
      owners[firstOwner blocks owners element]? :=
  List.find?_eq_getElem?_findIdx

/-- The place in the first block that has the element. -/
theorem placeInBlock_of_find? {owner : β}
    (found : owners.find? (fun owner => (blocks owner).contains element) = some owner) :
    placeInBlock blocks owners element = (blocks owner).idxOf element := by
  simp only [placeInBlock, found]

variable [LawfulBEq α]

/-- What stands in front comes first; all else is compared in the back. -/
theorem idxOf_append_lt_iff (front back : List α) :
    (front ++ back).idxOf left < (front ++ back).idxOf right ↔
      (left ∈ front ∧ (right ∈ front → front.idxOf left < front.idxOf right)) ∨
        (left ∉ front ∧ right ∉ front ∧ back.idxOf left < back.idxOf right) := by
  rw [List.idxOf_append, List.idxOf_append]
  by_cases leftFront : left ∈ front
  · have inside := List.idxOf_lt_length_of_mem leftFront
    by_cases rightFront : right ∈ front
    · simp [leftFront, rightFront]
    · simp only [leftFront, rightFront, if_true, if_false]
      simp
      omega
  · by_cases rightFront : right ∈ front
    · have inside := List.idxOf_lt_length_of_mem rightFront
      simp only [leftFront, rightFront, if_true, if_false]
      simp
      omega
    · simp [leftFront, rightFront]

/-- The first owner of an element is the one at the front, or else the first one of the rest, one
place further on. -/
theorem firstOwner_cons (owner : β) (rest : List β) :
    firstOwner blocks (owner :: rest) element =
      if element ∈ blocks owner then 0 else firstOwner blocks rest element + 1 := by
  by_cases member : element ∈ blocks owner <;> simp [firstOwner, List.findIdx_cons, member]

/-- The place of an element is the one in the block of its first owner. -/
theorem placeInBlock_cons (owner : β) (rest : List β) :
    placeInBlock blocks (owner :: rest) element =
      if element ∈ blocks owner then (blocks owner).idxOf element
      else placeInBlock blocks rest element := by
  by_cases member : element ∈ blocks owner <;> simp [placeInBlock, member]

/-- The first occurrence is decided by the owner, and then by the place in its block. -/
theorem idxOf_flatMap_lt_iff (owners : List β) :
    (owners.flatMap blocks).idxOf left < (owners.flatMap blocks).idxOf right ↔
      [firstOwner blocks owners left, placeInBlock blocks owners left] <
        [firstOwner blocks owners right, placeInBlock blocks owners right] := by
  simp only [List.cons_lt_cons_iff, List.not_lt_nil, and_false, or_false]
  induction owners with
  | nil => simp [firstOwner, placeInBlock]
  | cons owner rest inductionHypothesis =>
    rw [List.flatMap_cons, idxOf_append_lt_iff, inductionHypothesis]
    simp only [firstOwner_cons, placeInBlock_cons]
    by_cases leftFront : left ∈ blocks owner
    · by_cases rightFront : right ∈ blocks owner <;> simp [leftFront, rightFront]
    · by_cases rightFront : right ∈ blocks owner <;> simp [leftFront, rightFront]

/-! ## Blocks in alphabetical order -/

/-- Sorting keeps the elements. -/
theorem mem_alphabetical_iff {string : String} {strings : List String} :
    string ∈ alphabetical strings ↔ string ∈ strings :=
  List.mem_mergeSort

/-- Sorted strings are in order. -/
theorem alphabetical_pairwise (strings : List String) :
    (alphabetical strings).Pairwise fun first second => first ≤ second := by
  have ordered := @List.pairwise_mergeSort String (fun first second => first ≤ second)
    (fun first second third => by simpa using String.le_trans)
    (fun first second => by simpa using String.le_total first second) strings
  simpa [alphabetical] using ordered

/-- Sorting once more changes nothing. -/
theorem alphabetical_alphabetical (strings : List String) :
    alphabetical (alphabetical strings) = alphabetical strings :=
  List.mergeSort_of_pairwise (by simpa using alphabetical_pairwise strings)

/-- Strings with the same front are in the order of what follows it. -/
theorem append_le_append_iff (front left right : String) :
    front ++ left ≤ front ++ right ↔ left ≤ right := by
  rw [← String.not_lt, ← String.not_lt, String.lt_iff, String.lt_iff, String.toList_append,
    String.toList_append]
  refine not_congr ⟨fun before => ?_, List.append_left_lt⟩
  refine Decidable.byContradiction fun notBefore => ?_
  exact List.not_lt.mpr (List.append_left_le (List.not_lt.mp notBefore)) before

/-- Sorting and putting the same front before all strings may change places. -/
theorem alphabetical_map_append (front : String) (strings : List String) :
    alphabetical (strings.map (front ++ ·)) = (alphabetical strings).map (front ++ ·) := by
  refine (List.map_mergeSort ?_).symm
  intro left _ right _
  simp only [append_le_append_iff]

/-- Sorted strings stand in the order of their code points. -/
theorem idxOf_alphabetical_lt_iff {left right : String} {strings : List String}
    (leftMember : left ∈ strings) (rightMember : right ∈ strings) :
    (alphabetical strings).idxOf left < (alphabetical strings).idxOf right ↔ left < right := by
  have found : ∀ string ∈ strings,
      (alphabetical strings)[(alphabetical strings).idxOf string]? = some string := by
    intro string member
    have inside := List.idxOf_lt_length_of_mem (mem_alphabetical_iff.mpr member)
    rw [List.getElem?_eq_getElem inside, List.getElem_idxOf]
  have ordered : ∀ first ∈ strings, ∀ second ∈ strings,
      (alphabetical strings).idxOf first ≤ (alphabetical strings).idxOf second →
        first ≤ second := by
    intro first firstMember second secondMember notAfter
    rcases Nat.lt_or_eq_of_le notAfter with before | same
    · have pair := List.pairwise_iff_getElem.mp (alphabetical_pairwise strings) _ _
        (List.idxOf_lt_length_of_mem (mem_alphabetical_iff.mpr firstMember))
        (List.idxOf_lt_length_of_mem (mem_alphabetical_iff.mpr secondMember)) before
      simpa only [List.getElem_idxOf] using pair
    · have stands := found first firstMember
      rw [same, found second secondMember] at stands
      cases stands
      exact String.le_refl _
  constructor
  · intro before
    refine String.not_le.mp fun after => ?_
    have same := String.le_antisymm after
      (ordered left leftMember right rightMember (Nat.le_of_lt before))
    rw [same] at before
    exact Nat.lt_irrefl _ before
  · intro before
    refine Nat.lt_of_not_le fun notBefore => ?_
    exact String.not_le.mpr before (ordered right rightMember left leftMember notBefore)

/-- Inside one plugin, components stand before utilities, and each group in the order of code
points. -/
theorem idxOf_alphabetical_append_lt_iff {components utilities : List String} {left right : String}
    (leftEmitted : left ∈ components ++ utilities)
    (rightEmitted : right ∈ components ++ utilities) :
    (alphabetical components ++ alphabetical utilities).idxOf left <
        (alphabetical components ++ alphabetical utilities).idxOf right ↔
      (if left ∈ components then 0 else 1) < (if right ∈ components then 0 else 1) ∨
        (if left ∈ components then 0 else 1) = (if right ∈ components then 0 else 1) ∧
          left < right := by
  rw [idxOf_append_lt_iff]
  simp only [mem_alphabetical_iff]
  by_cases leftComponent : left ∈ components
  · by_cases rightComponent : right ∈ components
    · simp [leftComponent, rightComponent, idxOf_alphabetical_lt_iff]
    · simp [leftComponent, rightComponent]
  · by_cases rightComponent : right ∈ components
    · simp [leftComponent, rightComponent]
    · have leftUtility := (List.mem_append.mp leftEmitted).resolve_left leftComponent
      have rightUtility := (List.mem_append.mp rightEmitted).resolve_left rightComponent
      simp [leftComponent, rightComponent, idxOf_alphabetical_lt_iff leftUtility rightUtility]

/-! ## Repeated owners -/

section

/-- Blocks that keep the same elements may take the place of one another. -/
theorem eraseDups_flatMap_congr {blocks others : β → List α} (owners : List β)
    (same : ∀ owner ∈ owners, (blocks owner).eraseDups = (others owner).eraseDups) :
    (owners.flatMap blocks).eraseDups = (owners.flatMap others).eraseDups := by
  induction owners with
  | nil => rfl
  | cons owner rest inductionHypothesis =>
    obtain ⟨sameFirst, sameRest⟩ := List.forall_mem_cons.mp same
    exact eraseDups_append_congr sameFirst (inductionHypothesis sameRest)

variable [BEq β]

/-- Behind all that an owner has, those that count as the same owner add nothing. -/
theorem eraseDups_append_flatMap_filter {blocks : β → List α} {owner : β} {front : List α}
    (owners : List β)
    (known : ∀ other ∈ owners, (other == owner) = true → ∀ element ∈ blocks other,
      element ∈ front) :
    (front ++ (owners.filter fun other => !other == owner).flatMap blocks).eraseDups =
      (front ++ owners.flatMap blocks).eraseDups := by
  induction owners generalizing front with
  | nil => rfl
  | cons first rest inductionHypothesis =>
    obtain ⟨knownFirst, knownRest⟩ := List.forall_mem_cons.mp known
    rw [List.flatMap_cons]
    by_cases same : (first == owner) = true
    · rw [List.filter_cons_of_neg (by simp [same]), inductionHypothesis knownRest,
        eraseDups_append_of_subset (knownFirst same)]
    · rw [List.filter_cons_of_pos (by simp [same]), List.flatMap_cons, ← List.append_assoc,
        ← List.append_assoc]
      apply inductionHypothesis
      intro other member same element has
      exact List.mem_append_left _ (knownRest other member same element has)

/-- When owners that count as the same have the same elements, an owner that counts as one before
it adds nothing. -/
theorem eraseDups_flatMap_eraseDups {blocks : β → List α}
    (covered : ∀ owner other, (owner == other) = true → ∀ element ∈ blocks owner,
      element ∈ blocks other) (owners : List β) :
    (owners.eraseDups.flatMap blocks).eraseDups = (owners.flatMap blocks).eraseDups := by
  induction owners using eraseDups_induction with
  | nil => rfl
  | cons first rest inductionHypothesis =>
    rw [List.eraseDups_cons, List.flatMap_cons, List.flatMap_cons,
      eraseDups_append_congr rfl inductionHypothesis]
    exact eraseDups_append_flatMap_filter rest fun other _ same => covered other first same

end

end ClassOrder
