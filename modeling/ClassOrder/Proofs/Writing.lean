import ClassOrder.Proofs.Entries
import ClassOrder.Proofs.Occurrence

/-!
# What comes of writing pairs in turn

Pairs that are written one after the other leave each name at the place of its first pair
and with the value of its last one. This says all about the entries that result, so pairs
may be written into entries of their own first, and these over others, or over the others
straight away.
-/
namespace ClassOrder.Entries

variable {α : Type}

/-- The names of entries written over others are those of both, each where it occurs first. -/
theorem names_merge {below : Entries α} (once : (names below).Nodup) (above : Entries α) :
    names (merge below above) = (names below ++ names above).eraseDups := by
  induction above generalizing below with
  | nil =>
    rw [merge, List.foldl_nil, names.eq_def [], List.map_nil, List.append_nil,
      eraseDups_of_nodup once]
  | cons entry rest inductionHypothesis =>
    obtain ⟨first, value⟩ := entry
    have written : merge below ((first, value) :: rest) = merge (insert below first value) rest :=
      rfl
    have named : names ((first, value) :: rest) = [first] ++ names rest := rfl
    rw [written, inductionHypothesis (nodup_names_insert once first value), names_insert, named]
    split
    · rename_i known
      have known : ∀ name ∈ [first], name ∈ names below := by simpa using known
      rw [eraseDups_append_of_subset known]
    · rw [List.append_assoc]

/-- What is found after writing pairs is what the last pair of the name says, and else what stands
below. -/
theorem get?_merge_last (below : Entries α) (pairs : List (String × α)) (name : String) :
    get? (merge below pairs) name = (get? pairs.reverse name).or (get? below name) := by
  induction pairs generalizing below with
  | nil => rfl
  | cons pair rest inductionHypothesis =>
    obtain ⟨first, value⟩ := pair
    have written : merge below ((first, value) :: rest) = merge (insert below first value) rest :=
      rfl
    rw [written, inductionHypothesis, get?_insert, List.reverse_cons, get?_append, Option.or_assoc,
      get?_cons]
    by_cases same : name = first <;> simp [same, get?]

/-- Entries are determined by their names and by what is found under these. -/
theorem eq_of_get? {left right : Entries α} (once : (names left).Nodup)
    (named : names left = names right) (found : ∀ name, get? left name = get? right name) :
    left = right := by
  induction left generalizing right with
  | nil => exact (List.map_eq_nil_iff.mp named.symm).symm
  | cons entry rest inductionHypothesis =>
    obtain ⟨name, value⟩ := entry
    cases right with
    | nil => cases named
    | cons other others =>
      obtain ⟨nameToo, valueToo⟩ := other
      obtain ⟨rfl, namedRest⟩ : name = nameToo ∧ names rest = names others :=
        List.cons.inj named
      obtain ⟨fresh, onceRest⟩ := List.nodup_cons.mp once
      obtain rfl : value = valueToo := by
        have atName := found name
        simpa [get?_cons] using atName
      have foundRest : ∀ other, get? rest other = get? others other := by
        intro other
        by_cases same : other = name
        · subst same
          have freshToo : other ∉ names others := namedRest ▸ fresh
          rw [(get?_eq_none_iff rest other).mpr fresh, (get?_eq_none_iff others other).mpr freshToo]
        · have elsewhere := found other
          simpa [get?_cons, same] using elsewhere
      rw [inductionHypothesis onceRest namedRest foundRest]

/-- The names of written pairs are those of the pairs, each where it occurs first. -/
theorem names_ofPairs (pairs : List (String × α)) :
    names (ofPairs pairs) = (names pairs).eraseDups :=
  names_merge nodup_names_nil pairs

/-- What is found among written pairs is what the last pair of the name says. -/
theorem get?_ofPairs (pairs : List (String × α)) (name : String) :
    get? (ofPairs pairs) name = get? pairs.reverse name :=
  (get?_merge_last [] pairs name).trans (Option.or_none)

/-- Pairs may be written over entries straight away, or among themselves first. -/
theorem merge_ofPairs {below : Entries α} (once : (names below).Nodup)
    (pairs : List (String × α)) : merge below (ofPairs pairs) = merge below pairs := by
  refine eq_of_get? (nodup_names_merge once _) ?_ fun name => ?_
  · rw [names_merge once, names_merge once, names_ofPairs]
    exact eraseDups_append_congr rfl (eraseDups_eraseDups _)
  · rw [get?_merge (nodup_names_ofPairs pairs), get?_ofPairs, get?_merge_last]

/-- Pairs are written in turn. -/
theorem merge_append (below : Entries α) (pairs later : List (String × α)) :
    merge below (pairs ++ later) = merge (merge below pairs) later :=
  List.foldl_append

end ClassOrder.Entries
