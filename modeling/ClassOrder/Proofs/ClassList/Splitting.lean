import ClassOrder.ClassList.Sorting
import ClassOrder.Proofs.Text.Segment

/-!
# The ends of a class token

A token is split by the scan for the separator: the variant is what stands before the first
cut and the base is what stands behind the last one. Both are free of the separator, the one
with the separator behind it begins the token, and the other with the separator before it ends
the token. What lies between the two counts for nothing. For a separator of one character this
means that segments may be added and left out there; a longer one may be cut in another place
then, when it overlaps itself.
-/
namespace ClassOrder

namespace ClassToken

/-- Of several segments the first and the last count. -/
theorem ofSegments_eq {segments : List (List Char)} (token : String) (several : segments ≠ [])
    (front : List Char) :
    ofSegments token (front :: segments) =
      { base := String.ofList (segments.getLast several)
        variant := some (String.ofList front) } := by
  obtain ⟨second, rest, rfl⟩ := List.exists_cons_of_ne_nil several
  rfl

/-- A token without the separator is a base alone, and a token with it has the first and the last
segment of the scan as its parts. -/
theorem split_cases {separator : String} (nonempty : separator ≠ "") (token : String) :
    (¬ separator.toList <:+: token.toList ∧ split separator token = { base := token }) ∨
      ∃ front rest segments, ∃ onwards : Text.Scanned separator.toList rest segments,
        Text.CutsAt separator.toList token.toList front rest ∧
        Text.Scanned separator.toList token.toList (front :: segments) ∧
        split separator token =
          { base := String.ofList (segments.getLast onwards.ne_nil)
            variant := some (String.ofList front) } := by
  have solid : separator.toList ≠ [] := by simpa using nonempty
  have scanned := Text.scanned_segmentsOf solid token.toList
  unfold split
  generalize Text.segmentsOf separator.toList token.toList = segments at scanned
  cases scanned with
  | uncut absent => exact .inl ⟨absent, rfl⟩
  | cut first onwards =>
    exact .inr ⟨_, _, _, onwards, first, .cut first onwards, ofSegments_eq token onwards.ne_nil _⟩

/-- Where a separator of one character stands, the first segment before it and the last one behind
it are the parts of the token. -/
theorem split_of_mark (mark : Char) (token : String) (front back : List Char)
    (whole : token.toList = front ++ mark :: back) :
    ∃ first last, (Text.segmentsOf [mark] front).head? = some first ∧
      (Text.segmentsOf [mark] back).getLast? = some last ∧
      split (String.singleton mark) token =
        { base := String.ofList last, variant := some (String.ofList first) } := by
  have single : [mark] ≠ [] := List.cons_ne_nil mark []
  obtain ⟨first, others, cut⟩ :=
    List.exists_cons_of_ne_nil (Text.scanned_segmentsOf single front).ne_nil
  have behind : Text.segmentsOf [mark] back ≠ [] := (Text.scanned_segmentsOf single back).ne_nil
  have several : others ++ Text.segmentsOf [mark] back ≠ [] :=
    List.append_ne_nil_of_right_ne_nil _ behind
  refine ⟨first, _, by rw [cut, List.head?_cons], List.getLast?_eq_some_getLast behind, ?_⟩
  rw [split, whole, String.toList_singleton, Text.segmentsOf_append_cons, cut, List.cons_append,
    ofSegments_eq token several, List.getLast_append_of_ne_nil _ behind]

/-- With a separator of one character, what stands between the first and the last segment of a
token counts for nothing. -/
theorem split_between (mark : Char) (first middle last : String) :
    split (String.singleton mark)
        (first ++ String.singleton mark ++ middle ++ String.singleton mark ++ last) =
      split (String.singleton mark) (first ++ String.singleton mark ++ last) := by
  obtain ⟨front, back, firstLong, lastLong, splitLong⟩ := split_of_mark mark
    (first ++ String.singleton mark ++ middle ++ String.singleton mark ++ last)
    first.toList (middle.toList ++ mark :: last.toList) (by simp)
  obtain ⟨frontToo, backToo, firstShort, lastShort, splitShort⟩ := split_of_mark mark
    (first ++ String.singleton mark ++ last) first.toList last.toList (by simp)
  have solid := (Text.scanned_segmentsOf (List.cons_ne_nil mark []) last.toList).ne_nil
  rw [Text.segmentsOf_append_cons, List.getLast?_append_of_ne_nil _ solid] at lastLong
  rw [splitLong, splitShort, Option.some.inj (firstLong.symm.trans firstShort),
    Option.some.inj (lastLong.symm.trans lastShort)]

/-- Splitting a token by a separator that is not empty returns, and the segments of the scan give
the token back with the separator between them. The token is its own base, without a variant,
exactly when the separator does not occur in it. Otherwise the variant is what stands before the
first occurrence and the base is the last segment of the scan. Neither has the separator in it;
the variant and the separator begin the token, and the separator and the base end it. With a
separator of one character the key of a token does not depend on what stands between its first and
its last segment.

Proof: a separator that occurs has a first cut, and the scan of what is behind it gives the other
segments: the variant stands before that cut, and the base is what the last cut leaves. -/
theorem split?_only_ends {separator : String} (nonempty : separator ≠ "") (token : String) :
    (∃ parts segments, split? separator token = .ok parts ∧
      Text.Scanned separator.toList token.toList segments ∧
      separator.toList.intercalate segments = token.toList ∧
      (parts = { base := token, variant := none } ↔ ¬ separator.toList <:+: token.toList) ∧
      (separator.toList <:+: token.toList → ∃ variant rest, parts.variant = some variant ∧
        segments.head? = some variant.toList ∧ segments.getLast? = some parts.base.toList ∧
        Text.CutsAt separator.toList token.toList variant.toList rest ∧
        ¬ separator.toList <:+: variant.toList ∧ ¬ separator.toList <:+: parts.base.toList ∧
        variant.toList ++ separator.toList <+: token.toList ∧
        separator.toList ++ parts.base.toList <:+ token.toList)) ∧
    (separator.length = 1 → ∀ (rules : SortRules) (first middle last : String),
      rules.separator = separator →
        rules.key (first ++ separator ++ middle ++ separator ++ last) =
          rules.key (first ++ separator ++ last)) := by
  have solid : separator.toList ≠ [] := by simpa using nonempty
  have returned : split? separator token = .ok (split separator token) := by
    rw [split?, if_neg (mt beq_iff_eq.mp nonempty)]
  refine ⟨⟨split separator token, ?_⟩, ?_⟩
  · rcases split_cases nonempty token with
      ⟨absent, alone⟩ | ⟨front, rest, segments, onwards, first, scanned, parts⟩
    · refine ⟨[token.toList], returned, .uncut absent, List.intercalate_singleton, ?_, ?_⟩
      · exact iff_of_true alone absent
      · exact fun occurs => absurd occurs absent
    · have occurs : separator.toList <:+: token.toList := ⟨front, rest, first.whole.symm⟩
      have lasts : (front :: segments).getLast scanned.ne_nil = segments.getLast onwards.ne_nil :=
        List.getLast_cons onwards.ne_nil
      refine ⟨front :: segments, returned, scanned, scanned.intercalate_eq, ?_, ?_⟩
      · refine iff_of_false ?_ (not_not_intro occurs)
        rw [parts]
        exact fun same => Option.some_ne_none _ (congrArg variant same)
      · intro _
        rw [parts]
        refine ⟨String.ofList front, rest, rfl, ?_⟩
        simp only [String.toList_ofList]
        refine ⟨rfl, ?_, first, ?_, ?_, ⟨rest, first.whole.symm⟩, ?_⟩
        · rw [List.getLast?_eq_some_getLast scanned.ne_nil, lasts]
        · exact scanned.absent solid List.mem_cons_self
        · exact onwards.absent solid (List.getLast_mem onwards.ne_nil)
        · exact lasts ▸ scanned.append_getLast_suffix occurs
  · intro single rules first middle last separated
    obtain ⟨mark, isMark⟩ := List.length_eq_one_iff.mp single
    obtain rfl : separator = String.singleton mark := by
      rw [← String.toList_inj, isMark, String.toList_singleton]
    rw [SortRules.key, SortRules.key, separated, split_between]

/-- The scan cuts three colons once, at the first two of them. -/
theorem split?_only_ends_overlapping : "::" ≠ "" ∧
    ("::".toList <:+: "md:::flex".toList) ∧
    ∃ parts variant, split? "::" "md:::flex" = .ok parts ∧ parts.variant = some variant ∧
      "::".toList ++ parts.base.toList <:+ "md:::flex".toList ∧
      ¬ "::".toList <:+: parts.base.toList := by
  have nonempty : "::" ≠ "" := by decide
  have occurs : "::".toList <:+: "md:::flex".toList := ⟨['m', 'd'], ":flex".toList, by decide⟩
  obtain ⟨⟨parts, _, returned, -, -, -, ends⟩, -⟩ := split?_only_ends nonempty "md:::flex"
  obtain ⟨variant, _, named, -, -, -, -, free, -, last⟩ := ends occurs
  exact ⟨nonempty, occurs, parts, variant, returned, named, last, free⟩

end ClassToken

end ClassOrder
