import ClassOrder.Proofs.Entries
import ClassOrder.Proofs.Occurrence

/-!
# Places, ranks and positions

An index lists its selectors, and a selector is looked up in the list. Ranks can also be given
out while the selectors come in: each gets the number of ranks that were given before, unless it
has one already. Then the ranks are counted out from zero without a gap, no selector has two of
them, and the selectors that have one are the first occurrences in their order. So looking up
a place and counting out a rank come to the same, and an index is known from its positions.
-/
namespace ClassOrder.SelectorIndex

variable {Selector : Type} [DecidableEq Selector]

/-! ## Looking up a place -/

/-- Among distinct selectors the rank of a selector is where it stands. -/
theorem rank?_eq_some_iff {index : SelectorIndex Selector} (once : index.selectors.Nodup)
    {selector : Selector} {place : Nat} :
    index.rank? selector = some place ↔ index.selectors[place]? = some selector := by
  rw [rank?, idxOf?_eq_some_iff_firstPlace]
  constructor
  · exact fun first => first.1
  · intro stands
    refine ⟨stands, ?_⟩
    intro earlier before again
    obtain ⟨inside, -⟩ := List.getElem?_eq_some_iff.mp again
    have samePlace := (List.getElem?_inj inside once).mp (again.trans stands.symm)
    omega

/-- A position that is no less than zero is a rank. -/
theorem position_eq_natCast_iff {index : SelectorIndex Selector} {selector : Selector}
    {place : Nat} : index.position selector = place ↔ index.rank? selector = some place := by
  unfold position
  cases index.rank? selector with
  | none => simp
  | some rank =>
    simp only [Option.some.injEq]
    omega

/-- An unknown selector has the position minus one, and no other one has it. -/
theorem position_eq_neg_one_iff {index : SelectorIndex Selector} {selector : Selector} :
    index.position selector = -1 ↔ selector ∉ index.selectors := by
  constructor
  · intro unknown member
    rw [position_of_mem member] at unknown
    omega
  · exact position_of_not_mem

/-- Indexes of distinct selectors with the same positions list the same selectors. -/
theorem eq_of_position_eq {index other : SelectorIndex Selector} (once : index.selectors.Nodup)
    (onceToo : other.selectors.Nodup)
    (same : ∀ selector, index.position selector = other.position selector) : index = other := by
  have stand : index.selectors = other.selectors := by
    apply List.ext_getElem?
    intro place
    apply Option.ext
    intro selector
    rw [← rank?_eq_some_iff once, ← rank?_eq_some_iff onceToo, ← position_eq_natCast_iff,
      ← position_eq_natCast_iff, same]
  cases index
  exact congrArg _ stand

/-! ## Counting out ranks -/

/-- Gives the next rank to a selector, unless it has one. -/
def giveRank (ranks : List (Selector × Nat)) (selector : Selector) : List (Selector × Nat) :=
  if Entries.contains ranks selector then ranks else ranks ++ [(selector, ranks.length)]

/-- The ranks of selectors that come in one after the other. -/
def ranksOf (selectors : List Selector) : List (Selector × Nat) :=
  selectors.foldl giveRank []

/-- No selector has two ranks, and the ranks are counted out from zero. -/
structure CountedOut (ranks : List (Selector × Nat)) : Prop where
  once : (Entries.names ranks).Nodup
  inOrder : Entries.values ranks = List.range ranks.length

/-- Giving a rank keeps the selectors that have one, and adds the new one if it has none. -/
theorem names_giveRank (ranks : List (Selector × Nat)) (selector : Selector) :
    Entries.names (giveRank ranks selector) =
      if selector ∈ Entries.names ranks then Entries.names ranks
      else Entries.names ranks ++ [selector] := by
  have known := Entries.get?_isSome_iff ranks selector
  unfold giveRank Entries.contains
  by_cases old : selector ∈ Entries.names ranks
  · rw [if_pos (known.mpr old), if_pos old]
  · rw [if_neg (mt known.mp old), if_neg old]
    exact List.map_append

/-- The number of ranks that were given is the next one. -/
theorem CountedOut.giveRank {ranks : List (Selector × Nat)} (counted : CountedOut ranks)
    (selector : Selector) : CountedOut (giveRank ranks selector) := by
  by_cases old : Entries.contains ranks selector = true
  · rw [SelectorIndex.giveRank, if_pos old]
    exact counted
  · have fresh : selector ∉ Entries.names ranks :=
      mt (Entries.get?_isSome_iff ranks selector).mpr old
    constructor
    · rw [names_giveRank, if_neg fresh, List.nodup_append]
      refine ⟨counted.once, List.pairwise_singleton _ selector, ?_⟩
      rintro name member other single rfl
      exact fresh (List.mem_singleton.mp single ▸ member)
    · rw [SelectorIndex.giveRank, if_neg old, List.length_append, List.length_singleton,
        List.range_succ, ← counted.inOrder]
      exact List.map_append

/-- Whatever comes in, the ranks are counted out. -/
theorem countedOut_ranksOf (selectors : List Selector) : CountedOut (ranksOf selectors) := by
  have onwards : ∀ ranks : List (Selector × Nat), CountedOut ranks →
      CountedOut (selectors.foldl SelectorIndex.giveRank ranks) := by
    induction selectors with
    | nil => exact fun _ counted => counted
    | cons first rest inductionHypothesis =>
      exact fun ranks counted => inductionHypothesis _ (counted.giveRank first)
  exact onwards [] ⟨List.nodup_nil, rfl⟩

/-- The selectors that have a rank are the first occurrences, in their order. -/
theorem names_ranksOf (selectors : List Selector) :
    Entries.names (ranksOf selectors) = (ofList selectors).selectors := by
  have onwards : ∀ ranks : List (Selector × Nat), CountedOut ranks →
      Entries.names (selectors.foldl giveRank ranks) =
        (Entries.names ranks ++ selectors).eraseDups := by
    induction selectors with
    | nil => exact fun ranks counted => by simp [eraseDups_of_nodup counted.once]
    | cons first rest inductionHypothesis =>
      intro ranks counted
      rw [List.foldl_cons, inductionHypothesis _ (counted.giveRank first), names_giveRank]
      split
      · rename_i old
        have known : ∀ other ∈ [first], other ∈ Entries.names ranks := by simpa using old
        exact (eraseDups_append_of_subset known rest).symm
      · rw [List.append_assoc, List.singleton_append]
  exact onwards [] ⟨List.nodup_nil, rfl⟩

/-- Where the ranks are counted out, a selector has the rank of its place. -/
theorem CountedOut.get?_eq_some_iff {ranks : List (Selector × Nat)} (counted : CountedOut ranks)
    {selector : Selector} {rank : Nat} :
    Entries.get? ranks selector = some rank ↔ (Entries.names ranks)[rank]? = some selector := by
  have place : ∀ {index : Nat} {entry : Selector × Nat}, ranks[index]? = some entry →
      entry.2 = index := by
    intro index entry stands
    have value : (Entries.values ranks)[index]? = some entry.2 := by
      rw [Entries.values, List.getElem?_map, stands, Option.map_some]
    rw [counted.inOrder] at value
    obtain ⟨inside, same⟩ := List.getElem?_eq_some_iff.mp value
    rw [← same, List.getElem_range]
  rw [Entries.get?_eq_some_iff counted.once, Entries.names, List.getElem?_map,
    Option.map_eq_some_iff]
  constructor
  · intro member
    obtain ⟨index, stands⟩ := List.mem_iff_getElem?.mp member
    obtain rfl : rank = index := place stands
    exact ⟨_, stands, rfl⟩
  · rintro ⟨⟨name, value⟩, stands, rfl⟩
    obtain rfl : value = rank := place stands
    exact List.mem_of_getElem? stands

/-- The rank that is counted out for a selector is the one that is looked up. -/
theorem get?_ranksOf (selectors : List Selector) (selector : Selector) :
    Entries.get? (ranksOf selectors) selector = (ofList selectors).rank? selector := by
  apply Option.ext
  intro rank
  have once : (ofList selectors).selectors.Nodup := eraseDups_nodup selectors
  rw [(countedOut_ranksOf selectors).get?_eq_some_iff, names_ranksOf, rank?_eq_some_iff once]

/-! ## Indexes of any selectors -/

/-- The index of any selectors lists each of them once, in the order of their first occurrences. A
selector that stands at a place has the place as its position, and a selector has the position
minus one exactly when it is not contained. The positions are the ranks that are counted out while
the selectors come in, so that of two selectors the one whose first occurrence is earlier has the
lower position. Two indexes are the same when every selector has the same position in both, and
the index of the selectors of an index is this index again.

Proof: the selectors are the first occurrences, and the place of one among them is the number of
different ones before it, which is the rank that was counted out. -/
theorem ofList_represents (selectors : List Selector) :
    let index := ofList selectors
    (index.selectors.Nodup ∧ ∀ selector, selector ∈ index.selectors ↔ selector ∈ selectors) ∧
      (∀ (place : Nat) (inside : place < index.size),
        index.position index.selectors[place] = place) ∧
      (∀ selector, index.position selector = -1 ↔ index.contains selector = false) ∧
      (Entries.names (ranksOf selectors) = index.selectors ∧
        ∀ selector, index.position selector =
          match Entries.get? (ranksOf selectors) selector with
          | some rank => rank
          | none => -1) ∧
      (∀ left right early late, FirstPlace selectors left early →
        FirstPlace selectors right late →
          (index.position left < index.position right ↔ early < late)) ∧
      (∀ others, index = ofList others ↔
        ∀ selector, index.position selector = (ofList others).position selector) ∧
      ofList index.selectors = index := by
  intro index
  have once : index.selectors.Nodup := eraseDups_nodup selectors
  have known : ∀ selector, selector ∈ index.selectors ↔ selector ∈ selectors :=
    fun _ => List.mem_eraseDups
  refine ⟨⟨once, known⟩, ?_, ?_, ⟨names_ranksOf selectors, ?_⟩, ?_, ?_, ?_⟩
  · intro place inside
    rw [position_eq_natCast_iff, rank?_eq_some_iff once]
    exact List.getElem?_eq_getElem inside
  · intro selector
    rw [position_eq_neg_one_iff, contains, ← Bool.not_eq_true, List.contains_iff_mem]
  · intro selector
    rw [get?_ranksOf]
    rfl
  · intro left right early late leftFirst rightFirst
    have leftKnown := (known left).mpr (List.mem_of_getElem? leftFirst.1)
    have rightKnown := (known right).mpr (List.mem_of_getElem? rightFirst.1)
    rw [position_of_mem leftKnown, position_of_mem rightKnown, Int.ofNat_lt]
    refine (idxOf_eraseDups_lt_iff selectors left right).trans ?_
    rw [leftFirst.idxOf_eq, rightFirst.idxOf_eq]
  · intro others
    refine ⟨fun same selector => same ▸ rfl, ?_⟩
    exact eq_of_position_eq once (eraseDups_nodup others)
  · exact congrArg SelectorIndex.mk (eraseDups_of_nodup once)

/-- Repeated selectors take no rank, and what follows them moves up. -/
theorem ofList_represents_repeated :
    let selectors := ["flex", "block", "flex", "grid", "block"]
    2 < (ofList selectors).size ∧ FirstPlace selectors "block" 1 ∧ FirstPlace selectors "grid" 3 ∧
      (ofList selectors).position "grid" = 2 ∧
      (ofList selectors).position "block" < (ofList selectors).position "grid" := by
  intro selectors
  have inside : 2 < (ofList selectors).size := by decide
  have blockFirst : FirstPlace selectors "block" 1 := ⟨rfl, by decide⟩
  have gridFirst : FirstPlace selectors "grid" 3 := ⟨rfl, by decide⟩
  obtain ⟨-, places, -, -, ordered, -⟩ := ofList_represents selectors
  refine ⟨inside, blockFirst, gridFirst, places 2 inside, ?_⟩
  exact (ordered "block" "grid" 1 3 blockFirst gridFirst).mpr (by decide)

end ClassOrder.SelectorIndex
