import ClassOrder.SelectorIndex

/-!
# First and last occurrences

Ranks are places in lists. A selector ranks by the first place at which an index has it,
a breakpoint by the last place at which it is listed. Both are said here without the
searches that compute them: a place holds the element, and no place on the one side of
it does.
-/
namespace ClassOrder

variable {α : Type}

/-- The element stands at the place and at no earlier one. -/
def FirstPlace (elements : List α) (element : α) (place : Nat) : Prop :=
  elements[place]? = some element ∧ ∀ earlier, earlier < place → elements[earlier]? ≠ some element

/-- The element stands at the place and at no later one. -/
def LastPlace (elements : List α) (element : α) (place : Nat) : Prop :=
  elements[place]? = some element ∧ ∀ later, place < later → elements[later]? ≠ some element

/-- An element has only one first place. -/
theorem FirstPlace.unique {elements : List α} {element : α} {place other : Nat}
    (first : FirstPlace elements element place) (second : FirstPlace elements element other) :
    place = other := by
  rcases Nat.lt_trichotomy place other with before | same | after
  · exact absurd first.1 (second.2 place before)
  · exact same
  · exact absurd second.1 (first.2 other after)

/-- An element has only one last place. -/
theorem LastPlace.unique {elements : List α} {element : α} {place other : Nat}
    (first : LastPlace elements element place) (second : LastPlace elements element other) :
    place = other := by
  rcases Nat.lt_trichotomy place other with before | same | after
  · exact absurd second.1 (first.2 other before)
  · exact same
  · exact absurd first.1 (second.2 place after)

/-- The last place is the first one of the reversed list, counted from the end. -/
theorem firstPlace_reverse_iff {elements : List α} {element : α} {place : Nat}
    (bounded : place < elements.length) :
    FirstPlace elements.reverse element place ↔
      LastPlace elements element (elements.length - 1 - place) := by
  have mirrored (tested : Nat) (inside : tested < elements.length) :
      elements.reverse[tested]? = elements[elements.length - 1 - tested]? :=
    List.getElem?_reverse inside
  constructor
  · rintro ⟨found, unseen⟩
    refine ⟨mirrored place bounded ▸ found, ?_⟩
    intro later after same
    obtain ⟨inside, -⟩ := List.getElem?_eq_some_iff.mp same
    apply unseen (elements.length - 1 - later) (by omega)
    rw [mirrored _ (by omega), ← same]
    congr 1
    omega
  · rintro ⟨found, unseen⟩
    refine ⟨(mirrored place bounded).trans found, ?_⟩
    intro earlier before same
    apply unseen (elements.length - 1 - earlier) (by omega)
    rw [← mirrored earlier (by omega)]
    exact same

section

variable [BEq α] [LawfulBEq α]

/-- A search from the front finds the first place. -/
theorem idxOf?_eq_some_iff_firstPlace {elements : List α} {element : α} {place : Nat} :
    elements.idxOf? element = some place ↔ FirstPlace elements element place := by
  rw [List.idxOf?_eq_some_iff]
  constructor
  · rintro ⟨bounded, found, unseen⟩
    refine ⟨by simp [bounded, found], ?_⟩
    intro earlier before same
    obtain ⟨inside, holds⟩ := List.getElem?_eq_some_iff.mp same
    exact unseen earlier before holds
  · rintro ⟨found, unseen⟩
    obtain ⟨bounded, holds⟩ := List.getElem?_eq_some_iff.mp found
    refine ⟨bounded, holds, ?_⟩
    intro earlier before same
    exact unseen earlier before (List.getElem?_eq_some_iff.mpr ⟨by omega, same⟩)

/-- The place that a search gives is the first one. -/
theorem FirstPlace.idxOf_eq {elements : List α} {element : α} {place : Nat}
    (first : FirstPlace elements element place) : elements.idxOf element = place := by
  have found : elements.findIdx? (· == element) = some place :=
    idxOf?_eq_some_iff_firstPlace.mpr first
  rw [List.idxOf, List.findIdx_eq_getD_findIdx?, found]
  rfl

/-- A search from the back finds the last place. -/
theorem idxOf?_reverse_eq_some_iff_lastPlace {elements : List α} {element : α} {place : Nat} :
    (elements.reverse.idxOf? element).map (elements.length - 1 - ·) = some place ↔
      LastPlace elements element place := by
  rw [Option.map_eq_some_iff]
  constructor
  · rintro ⟨found, first, rfl⟩
    have place := idxOf?_eq_some_iff_firstPlace.mp first
    have bounded : found < elements.length := by
      simpa using (List.getElem?_eq_some_iff.mp place.1).1
    exact (firstPlace_reverse_iff bounded).mp place
  · intro last
    have bounded : place < elements.length := (List.getElem?_eq_some_iff.mp last.1).1
    have restored : elements.length - 1 - (elements.length - 1 - place) = place := by omega
    refine ⟨elements.length - 1 - place, ?_, restored⟩
    rw [idxOf?_eq_some_iff_firstPlace, firstPlace_reverse_iff (by omega), restored]
    exact last

end

/-! ## First occurrences kept -/

/-- A search comes to the same where only elements are left out over which it passes. -/
theorem findSome?_filter_of_passed {β : Type} {search : α → Option β} {keep : α → Bool}
    {elements : List α}
    (passed : ∀ element ∈ elements, keep element = false → search element = none) :
    (elements.filter keep).findSome? search = elements.findSome? search := by
  induction elements with
  | nil => rfl
  | cons first rest inductionHypothesis =>
    obtain ⟨passedFirst, passedRest⟩ := List.forall_mem_cons.mp passed
    cases kept : keep first with
    | true =>
      rw [List.filter_cons_of_pos kept, List.findSome?_cons, List.findSome?_cons,
        inductionHypothesis passedRest]
    | false =>
      rw [List.filter_cons_of_neg (Bool.not_eq_true _ ▸ kept), List.findSome?_cons,
        passedFirst kept, inductionHypothesis passedRest]

section

variable [BEq α]

/-- Behind a first occurrence only those elements count that are not the same as it, so what
holds of a list follows from what holds of the rest without the repetitions of its head. -/
@[elab_as_elim]
theorem eraseDups_induction {motive : List α → Prop} (nil : motive [])
    (cons : ∀ first rest, motive (rest.filter fun other => !other == first) →
      motive (first :: rest)) (elements : List α) : motive elements :=
  match elements with
  | [] => nil
  | first :: rest =>
    cons first rest (eraseDups_induction nil cons (rest.filter fun other => !other == first))
termination_by elements.length
decreasing_by exact Nat.lt_succ_of_le (List.length_filter_le _ rest)

/-- Only elements of the list are kept. -/
theorem mem_of_mem_eraseDups {element : α} {elements : List α}
    (member : element ∈ elements.eraseDups) : element ∈ elements := by
  induction elements using eraseDups_induction with
  | nil => exact member
  | cons first rest inductionHypothesis =>
    rw [List.eraseDups_cons] at member
    rcases List.mem_cons.mp member with same | later
    · exact List.mem_cons.mpr (.inl same)
    · exact List.mem_cons_of_mem _ (List.mem_filter.mp (inductionHypothesis later)).1

/-- No two of the elements kept are the same. -/
theorem eraseDups_pairwise (elements : List α) :
    elements.eraseDups.Pairwise fun earlier later => (later == earlier) = false := by
  induction elements using eraseDups_induction with
  | nil => exact .nil
  | cons first rest inductionHypothesis =>
    rw [List.eraseDups_cons]
    refine List.pairwise_cons.mpr ⟨?_, inductionHypothesis⟩
    intro later member
    have kept := (List.mem_filter.mp (mem_of_mem_eraseDups member)).2
    simpa using kept

/-- A search that passes over an element passes over its repetitions as well, so that it comes to
the same among the first occurrences. -/
theorem findSome?_eraseDups {β : Type} {search : α → Option β} (elements : List α)
    (alike : ∀ element ∈ elements, ∀ other ∈ elements, (element == other) = true →
      search other = none → search element = none) :
    elements.eraseDups.findSome? search = elements.findSome? search := by
  induction elements using eraseDups_induction with
  | nil => rfl
  | cons first rest inductionHypothesis =>
    rw [List.eraseDups_cons, List.findSome?_cons, List.findSome?_cons]
    cases found : search first with
    | some value => rfl
    | none =>
      have repetition : ∀ element ∈ rest, (!element == first) = false → search element = none := by
        intro element member same
        have same : (element == first) = true := by simpa using same
        exact alike element (List.mem_cons_of_mem _ member) first List.mem_cons_self same found
      rw [← findSome?_filter_of_passed repetition]
      apply inductionHypothesis
      intro element member other known
      have inRest {tested : α} (kept : tested ∈ rest.filter fun other => !other == first) :
          tested ∈ first :: rest :=
        List.mem_cons_of_mem _ (List.mem_filter.mp kept).1
      exact alike element (inRest member) other (inRest known)

variable [LawfulBEq α]

/-- No element is kept twice. -/
theorem eraseDups_nodup (elements : List α) : elements.eraseDups.Nodup := by
  apply (eraseDups_pairwise elements).imp
  intro earlier later different same
  simp [same] at different

/-- Nothing is left out of a list without repetitions. -/
theorem eraseDups_of_nodup {elements : List α} (once : elements.Nodup) :
    elements.eraseDups = elements := by
  induction elements with
  | nil => rfl
  | cons first rest inductionHypothesis =>
    obtain ⟨fresh, onceRest⟩ := List.nodup_cons.mp once
    have kept : (rest.filter fun other => !other == first) = rest := by
      rw [List.filter_eq_self]
      intro element member
      have different : element ≠ first := fun same => fresh (same ▸ member)
      simpa using different
    rw [List.eraseDups_cons, kept, inductionHypothesis onceRest]

/-- First occurrences kept are kept once more. -/
theorem eraseDups_eraseDups (elements : List α) :
    elements.eraseDups.eraseDups = elements.eraseDups :=
  eraseDups_of_nodup (eraseDups_nodup elements)

/-- Elements may be left out before or after their first occurrences are kept. -/
theorem eraseDups_filter (keep : α → Bool) (elements : List α) :
    (elements.filter keep).eraseDups = elements.eraseDups.filter keep := by
  induction elements using eraseDups_induction with
  | nil => rfl
  | cons first rest inductionHypothesis =>
    cases kept : keep first with
    | true =>
      rw [List.filter_cons_of_pos kept, List.eraseDups_cons, List.eraseDups_cons,
        List.filter_cons_of_pos kept, ← inductionHypothesis, List.filter_filter,
        List.filter_filter]
      simp only [Bool.and_comm]
    | false =>
      -- The repetitions of an element that is left out are left out as well.
      have repetitions : (rest.filter keep) =
          (rest.filter fun other => !other == first).filter keep := by
        rw [List.filter_filter]
        apply List.filter_congr
        intro element member
        by_cases same : element = first
        · simp [same, kept]
        · simp [same]
      rw [List.filter_cons_of_neg (Bool.not_eq_true _ ▸ kept), List.eraseDups_cons,
        List.filter_cons_of_neg (Bool.not_eq_true _ ▸ kept), ← inductionHypothesis, repetitions]

/-- Keeping first occurrences and renaming the elements apart may change places. -/
theorem eraseDups_map {β : Type} [BEq β] [LawfulBEq β] {change : α → β}
    (injective : ∀ left right, change left = change right → left = right) (elements : List α) :
    (elements.map change).eraseDups = elements.eraseDups.map change := by
  induction elements using eraseDups_induction with
  | nil => rfl
  | cons first rest inductionHypothesis =>
    have others : (rest.map change).filter (fun other => !other == change first) =
        (rest.filter fun other => !other == first).map change := by
      rw [List.filter_map]
      congr 1
      apply List.filter_congr
      intro element member
      have same : (change element == change first) = (element == first) := by
        rw [Bool.eq_iff_iff, beq_iff_eq, beq_iff_eq]
        exact ⟨injective element first, congrArg change⟩
      exact congrArg (!·) same
    rw [List.map_cons, List.eraseDups_cons, List.eraseDups_cons, others, inductionHypothesis,
      List.map_cons]

/-- Strings with the same front are kept as they are without it. -/
theorem eraseDups_map_append (front : String) (strings : List String) :
    (strings.map (front ++ ·)).eraseDups = strings.eraseDups.map (front ++ ·) :=
  eraseDups_map (fun left right same => by simpa using same) strings

/-- The head of a list stands before all other elements, which stand as in the tail. -/
theorem idxOf_cons_lt_iff {left right first : α} {rest : List α} :
    (first :: rest).idxOf left < (first :: rest).idxOf right ↔
      right ≠ first ∧ (left = first ∨ rest.idxOf left < rest.idxOf right) := by
  rw [List.idxOf_cons, List.idxOf_cons]
  by_cases rightFirst : right = first
  · simp [rightFirst]
  · have rightLater := beq_eq_false_iff_ne.mpr (Ne.symm rightFirst)
    by_cases leftFirst : left = first
    · simp [leftFirst, rightLater, rightFirst]
    · have leftLater := beq_eq_false_iff_ne.mpr (Ne.symm leftFirst)
      simp [leftLater, rightLater, leftFirst, rightFirst]

/-- Leaving out other elements leaves the order of first occurrences. -/
theorem idxOf_filter_lt_iff {keep : α → Bool} {left right : α} (elements : List α)
    (leftKept : keep left = true) (rightKept : keep right = true) :
    (elements.filter keep).idxOf left < (elements.filter keep).idxOf right ↔
      elements.idxOf left < elements.idxOf right := by
  induction elements with
  | nil => rfl
  | cons first rest inductionHypothesis =>
    by_cases kept : keep first = true
    · rw [List.filter_cons_of_pos kept, idxOf_cons_lt_iff, idxOf_cons_lt_iff, inductionHypothesis]
    · have leftLater : left ≠ first := fun same => kept (same ▸ leftKept)
      have rightLater : right ≠ first := fun same => kept (same ▸ rightKept)
      rw [List.filter_cons_of_neg kept, idxOf_cons_lt_iff, inductionHypothesis]
      simp [leftLater, rightLater]

/-- Keeping first occurrences keeps their order. -/
theorem idxOf_eraseDups_lt_iff (elements : List α) (left right : α) :
    elements.eraseDups.idxOf left < elements.eraseDups.idxOf right ↔
      elements.idxOf left < elements.idxOf right := by
  induction elements using eraseDups_induction with
  | nil => rfl
  | cons first rest inductionHypothesis =>
    rw [List.eraseDups_cons, idxOf_cons_lt_iff, idxOf_cons_lt_iff, inductionHypothesis]
    refine and_congr_right fun rightLater => ?_
    by_cases leftFirst : left = first
    · simp [leftFirst]
    · rw [idxOf_filter_lt_iff rest (by simpa using leftFirst) (by simpa using rightLater)]

/-- A selector of the index has the position at which it stands. -/
theorem SelectorIndex.position_of_mem {index : SelectorIndex α} {selector : α}
    (member : selector ∈ index.selectors) :
    index.position selector = index.selectors.idxOf selector := by
  obtain ⟨rank, found⟩ := Option.isSome_iff_exists.mp (List.isSome_idxOf?.mpr member)
  rw [position, rank?, found, (idxOf?_eq_some_iff_firstPlace.mp found).idxOf_eq]

/-- A selector that the index does not have stands before all others. -/
theorem SelectorIndex.position_of_not_mem {index : SelectorIndex α} {selector : α}
    (missing : selector ∉ index.selectors) : index.position selector = -1 := by
  rw [position, rank?, List.idxOf?_eq_none_iff.mpr missing]

/-- Of two selectors one has the lower position when the other is known, and the one is unknown
or stands first. -/
theorem SelectorIndex.position_lt_iff {index : SelectorIndex α} {left right : α} :
    index.position left < index.position right ↔
      right ∈ index.selectors ∧ (left ∉ index.selectors ∨
        index.selectors.idxOf left < index.selectors.idxOf right) := by
  by_cases rightKnown : right ∈ index.selectors
  · by_cases leftKnown : left ∈ index.selectors
    · simp [position_of_mem, rightKnown, leftKnown]
    · have first : (-1 : Int) < index.selectors.idxOf right := by omega
      simp [position_of_mem, position_of_not_mem, rightKnown, leftKnown, first]
  · have last : (-1 : Int) ≤ index.position left := by
      by_cases leftKnown : left ∈ index.selectors
      · rw [position_of_mem leftKnown]
        omega
      · exact Int.le_of_eq (position_of_not_mem leftKnown).symm
    simp [position_of_not_mem, rightKnown, last]

/-! ## Lists put together -/

/-- Two lists put together keep what the first keeps, and from what the second keeps all that
the first does not have. -/
theorem eraseDups_append_filter (front back : List α) :
    (front ++ back).eraseDups = front.eraseDups ++
      back.eraseDups.filter fun element => !front.eraseDups.contains element := by
  have same (element : α) : front.elem element = front.eraseDups.contains element := by
    rw [Bool.eq_iff_iff, List.elem_iff, List.contains_iff_mem, List.mem_eraseDups]
  simp only [List.eraseDups_append, List.removeAll, eraseDups_filter, same]

/-- Lists that keep the same elements may take the place of one another in a longer list. -/
theorem eraseDups_append_congr {front back frontToo backToo : List α}
    (sameFront : front.eraseDups = frontToo.eraseDups)
    (sameBack : back.eraseDups = backToo.eraseDups) :
    (front ++ back).eraseDups = (frontToo ++ backToo).eraseDups := by
  rw [eraseDups_append_filter, eraseDups_append_filter, sameFront, sameBack]

/-- Elements that a list has already add nothing behind it. -/
theorem eraseDups_append_of_subset {front back : List α}
    (known : ∀ element ∈ back, element ∈ front) (behind : List α) :
    (front ++ (back ++ behind)).eraseDups = (front ++ behind).eraseDups := by
  have nothing : back.removeAll front = [] := by
    rw [List.removeAll, List.filter_eq_nil_iff]
    intro element member
    simpa using known element member
  have apart : (back ++ behind).removeAll front = back.removeAll front ++ behind.removeAll front :=
    List.filter_append ..
  rw [List.eraseDups_append, List.eraseDups_append, apart, nothing, List.nil_append]

end

end ClassOrder
