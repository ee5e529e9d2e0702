import ClassOrder.Text.Segment
import Mathlib.Data.List.Infix

/-!
# Cutting from left to right

A scan for a separator finds its first occurrence, cuts there, and goes on with the text behind
the occurrence until there is none. This says what the segments of a text are without saying how
they are found: what lies between the cuts of the scan. No segment has the separator in it,
and with the separator between them the segments give the text back.

Where a separator overlaps itself, the last cut of the scan is not always its last occurrence,
and what is cut at the front of a text decides what is cut behind.
-/
namespace ClassOrder.Text

variable {separator text front rest segment : List Char} {segments : List (List Char)}

/-- The first occurrence of a separator in a text, between what stands before it and behind it. -/
structure CutsAt (separator text front rest : List Char) : Prop where
  whole : text = front ++ separator ++ rest
  leftmost : ∀ other, other ++ separator <+: text → front.length ≤ other.length

/-- The segments of a text between the cuts of a scan from left to right. -/
inductive Scanned (separator : List Char) : List Char → List (List Char) → Prop where
  | uncut {text : List Char} (absent : ¬ separator <:+: text) : Scanned separator text [text]
  | cut {text front rest : List Char} {segments : List (List Char)}
      (first : CutsAt separator text front rest) (onwards : Scanned separator rest segments) :
      Scanned separator text (front :: segments)

/-! ## What the scan finds -/

/-- Before the first occurrence there is no other one. -/
theorem CutsAt.absent (first : CutsAt separator text front rest) (nonempty : separator ≠ []) :
    ¬ separator <:+: front := by
  rintro ⟨before, after, rfl⟩
  have earlier : before ++ separator <+: text := by
    rw [first.whole]
    exact ⟨after ++ separator ++ rest, by simp⟩
  have bound := first.leftmost before earlier
  have long := List.length_pos_iff.mpr nonempty
  simp only [List.length_append] at bound
  omega

/-- There is only one first occurrence. -/
theorem CutsAt.unique {otherFront otherRest : List Char}
    (first : CutsAt separator text front rest)
    (second : CutsAt separator text otherFront otherRest) :
    front = otherFront ∧ rest = otherRest := by
  have same : front.length = otherFront.length :=
    Nat.le_antisymm (first.leftmost _ ⟨otherRest, second.whole.symm⟩)
      (second.leftmost _ ⟨rest, first.whole.symm⟩)
  have whole := first.whole.symm.trans second.whole
  rw [List.append_assoc, List.append_assoc] at whole
  obtain ⟨sameFront, sameRest⟩ := List.append_inj whole same
  exact ⟨sameFront, List.append_cancel_left sameRest⟩

/-- A scan has one outcome. -/
theorem Scanned.unique {others : List (List Char)} (scanned : Scanned separator text segments)
    (scannedToo : Scanned separator text others) : segments = others := by
  induction scanned generalizing others with
  | uncut absent =>
    cases scannedToo with
    | uncut => rfl
    | cut first => exact absurd ⟨_, _, first.whole.symm⟩ absent
  | cut first _ inductionHypothesis =>
    cases scannedToo with
    | uncut absent => exact absurd ⟨_, _, first.whole.symm⟩ absent
    | cut second onwards =>
      obtain ⟨rfl, rfl⟩ := first.unique second
      rw [inductionHypothesis onwards]

/-- There is at least one segment. -/
theorem Scanned.ne_nil (scanned : Scanned separator text segments) : segments ≠ [] := by
  cases scanned <;> exact List.cons_ne_nil _ _

/-- With the separator between them the segments give the text back. -/
theorem Scanned.intercalate_eq (scanned : Scanned separator text segments) :
    separator.intercalate segments = text := by
  induction scanned with
  | uncut => exact List.intercalate_singleton
  | cut first onwards inductionHypothesis =>
    obtain ⟨next, others, rfl⟩ := List.exists_cons_of_ne_nil onwards.ne_nil
    rw [List.intercalate_cons_cons, inductionHypothesis, first.whole]

/-- No segment has the separator in it. -/
theorem Scanned.absent (scanned : Scanned separator text segments) (nonempty : separator ≠ [])
    (member : segment ∈ segments) : ¬ separator <:+: segment := by
  induction scanned with
  | uncut absent =>
    rw [List.mem_singleton.mp member]
    exact absent
  | cut first _ inductionHypothesis =>
    rcases List.mem_cons.mp member with rfl | later
    · exact first.absent nonempty
    · exact inductionHypothesis later

/-- The last segment stands behind an occurrence of the separator, if there is one. -/
theorem Scanned.append_getLast_suffix (scanned : Scanned separator text segments)
    (occurs : separator <:+: text) : separator ++ segments.getLast scanned.ne_nil <:+ text := by
  induction scanned with
  | uncut absent => exact absurd occurs absent
  | @cut text front rest segments first onwards inductionHypothesis =>
    rw [List.getLast_cons onwards.ne_nil, first.whole]
    by_cases again : separator <:+: rest
    · exact (inductionHypothesis again).trans (List.suffix_append _ _)
    · cases onwards with
      | uncut => exact ⟨front, by rw [List.getLast_singleton, List.append_assoc]⟩
      | cut second => exact absurd ⟨_, _, second.whole.symm⟩ again

/-! ## The scan of the segments -/

/-- Skipped characters are left out. -/
theorem segmentsAfter_eq (separator : List Char) (skip : Nat) (text : List Char) :
    segmentsAfter separator skip text = segmentsOf separator (text.drop skip) := by
  induction text generalizing skip with
  | nil => cases skip <;> rfl
  | cons c rest inductionHypothesis =>
    cases skip with
    | zero => rfl
    | succ skip => exact inductionHypothesis skip

/-- An occurrence at the front of a text is cut off. -/
theorem segmentsOf_append (nonempty : separator ≠ []) (rest : List Char) :
    segmentsOf separator (separator ++ rest) = [] :: segmentsOf separator rest := by
  obtain ⟨c, others, rfl⟩ := List.exists_cons_of_ne_nil nonempty
  have atFront : (c :: others).isPrefixOf (c :: (others ++ rest)) = true :=
    List.isPrefixOf_iff_prefix.mpr (List.prefix_append (c :: others) rest)
  rw [segmentsOf, List.cons_append, segmentsAfter, if_pos atFront, segmentsAfter_eq]
  simp

/-- A character that begins no occurrence belongs to the first segment. -/
theorem segmentsOf_cons {c : Char} (elsewhere : ¬ separator <+: c :: rest) :
    segmentsOf separator (c :: rest) = (segmentsOf separator rest).modifyHead (c :: ·) := by
  rw [segmentsOf, segmentsAfter, if_neg (mt List.isPrefixOf_iff_prefix.mp elsewhere)]
  rfl

/-- A character that begins no occurrence moves the first cut by one. -/
theorem Scanned.cons {c : Char} (scanned : Scanned separator text segments)
    (elsewhere : ¬ separator <+: c :: text) :
    Scanned separator (c :: text) (segments.modifyHead (c :: ·)) := by
  cases scanned with
  | uncut absent =>
    refine .uncut fun occurs => ?_
    rcases List.infix_cons_iff.mp occurs with atFront | later
    · exact elsewhere atFront
    · exact absent later
  | cut first onwards =>
    refine .cut ⟨by simp [first.whole], ?_⟩ onwards
    intro other occurs
    cases other with
    | nil => exact absurd occurs elsewhere
    | cons d other =>
      have later := first.leftmost other (List.cons_prefix_cons.mp occurs).2
      simpa using later

/-- The segments of a text are those of the scan. -/
theorem scanned_segmentsOf (nonempty : separator ≠ []) (text : List Char) :
    Scanned separator text (segmentsOf separator text) := by
  by_cases atFront : separator <+: text
  · obtain ⟨rest, rfl⟩ := atFront
    have shorter : rest.length < (separator ++ rest).length := by
      have long := List.length_pos_iff.mpr nonempty
      simp only [List.length_append]
      omega
    rw [segmentsOf_append nonempty]
    exact .cut ⟨rfl, fun _ _ => Nat.zero_le _⟩ (scanned_segmentsOf nonempty rest)
  · cases text with
    | nil =>
      refine .uncut fun occurs => nonempty ?_
      exact List.eq_nil_of_infix_nil occurs
    | cons c rest =>
      rw [segmentsOf_cons atFront]
      exact (scanned_segmentsOf nonempty rest).cons atFront
termination_by text.length

/-- A separator of one character divides the segments before it from those after it. -/
theorem segmentsOf_append_cons (mark : Char) (front rest : List Char) :
    segmentsOf [mark] (front ++ mark :: rest) =
      segmentsOf [mark] front ++ segmentsOf [mark] rest := by
  induction front with
  | nil => exact segmentsOf_append (List.cons_ne_nil mark []) rest
  | cons c front inductionHypothesis =>
    by_cases same : mark = c
    · subst same
      have cut := segmentsOf_append (List.cons_ne_nil mark [])
      simp only [List.singleton_append] at cut
      rw [List.cons_append, cut, cut, inductionHypothesis, List.cons_append]
    · have elsewhere : ∀ behind, ¬ [mark] <+: c :: behind := by
        simp [List.cons_prefix_cons, same]
      obtain ⟨first, others, split⟩ := List.exists_cons_of_ne_nil
        (scanned_segmentsOf (List.cons_ne_nil mark []) front).ne_nil
      rw [List.cons_append, segmentsOf_cons (elsewhere _), segmentsOf_cons (elsewhere _),
        inductionHypothesis, split]
      rfl

end ClassOrder.Text
