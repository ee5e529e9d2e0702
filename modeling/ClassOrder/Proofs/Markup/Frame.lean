import ClassOrder.Proofs.Markup.Settled
import ClassOrder.Proofs.Text.Newline

/-!
# What stands outside the values

The frame of a source is what is left of it without the values of its class attributes: the
gaps of its leftmost cut, and the lead and the mark of every attribute. Sorting the classes
keeps the frame. Unifying newlines keeps it exactly when they need no unifying outside the
values: newlines inside a value do not move the cut, and no carriage return is left in the
frame of the unified source.
-/
namespace ClassOrder.Markup

namespace Attribute

/-- An attribute without its value. -/
def emptied (found : Attribute) : Attribute :=
  { found with value := [] }

/-- An attribute with a line feed at the end of every line of its value. -/
def unified (found : Attribute) : Attribute :=
  { found with value := Text.unifyNewlines found.value }

end Attribute

/-- A source without the values of its class attributes. -/
def frame (source : String) : Cut :=
  (cutOf source).mapAttributes Attribute.emptied

namespace Cut

variable {before : List Char} {cut : Cut}

/-- The attributes of a leftmost cut have the form of class attributes. -/
theorem Leftmost.wellFormed (leftmost : Leftmost before cut) :
    ∀ found ∈ cut.attributes, found.WellFormed := by
  induction leftmost with
  | last => simp [attributes]
  | next before gap found parts last clear begins rest inductionHypothesis =>
    exact List.forall_mem_cons.mpr ⟨begins.wellFormed, inductionHypothesis⟩

/-- Without the values there is nothing that was not there with them. -/
theorem mem_of_mem_emptied {c : Char} (member : c ∈ (cut.mapAttributes Attribute.emptied).text) :
    c ∈ cut.text := by
  refine mem_of_mem_mapAttributes (fun found _ inside => ?_) member
  simp only [Attribute.text, Attribute.emptied, List.mem_append, List.mem_cons, List.not_mem_nil,
    or_false] at inside ⊢
  exact inside.imp_left (Or.imp_right Or.inl)

/-- A cut without carriage returns outside the values is unified value by value. -/
theorem text_unified (wellFormed : ∀ found ∈ cut.attributes, found.WellFormed)
    (solid : '\r' ∉ (cut.mapAttributes Attribute.emptied).text) :
    (cut.mapAttributes Attribute.unified).text = Text.unifyNewlines cut.text := by
  obtain ⟨parts, last⟩ := cut
  induction parts with
  | nil =>
    have solidLast : '\r' ∉ last := by simpa [mapAttributes] using solid
    simpa [mapAttributes] using (Text.unifyNewlines_of_notMem solidLast).symm
  | cons part rest inductionHypothesis =>
    obtain ⟨gap, found⟩ := part
    obtain ⟨here, behind⟩ := List.forall_mem_cons.mp wellFormed
    simp only [mapAttributes, List.map_cons, text_cons, List.mem_append, not_or]
      at solid inductionHypothesis ⊢
    obtain ⟨solidGap, solidFound, solidRest⟩ := solid
    have solidLead : '\r' ∉ found.lead := by
      intro member
      exact solidFound (by simp [Attribute.text, Attribute.emptied, member])
    -- The mark that closes the value ends no line.
    have closing : found.mark ≠ '\r' ∧ found.mark ≠ '\n' := by
      rcases here.mark with same | same
      · rw [same]
        decide
      · rw [same]
        decide
    have inside : Text.unifyNewlines (found.text ++ text ⟨rest, last⟩) =
        found.unified.text ++ Text.unifyNewlines (text ⟨rest, last⟩) := by
      have spelled : found.text ++ text ⟨rest, last⟩ =
          (found.lead ++ [found.mark]) ++ (found.value ++ found.mark :: text ⟨rest, last⟩) := by
        simp [Attribute.text]
      have solidFront : '\r' ∉ found.lead ++ [found.mark] := by
        simp [solidLead, Ne.symm closing.1]
      rw [spelled, Text.unifyNewlines_append_of_notMem solidFront,
        Text.unifyNewlines_append_cons closing.1 closing.2]
      simp [Attribute.text, Attribute.unified]
    rw [Text.unifyNewlines_append_of_notMem solidGap, inside,
      inductionHypothesis behind solidRest]

end Cut

/-! ## The frame -/

/-- A frame holds no more than the source. -/
theorem mem_of_mem_frame {source : String} {c : Char} (member : c ∈ (frame source).text) :
    c ∈ source.toList := by
  rw [← ((leftmost_iff_eq_cutOf source _).mpr rfl).1]
  exact Cut.mem_of_mem_emptied member

/-- Sources whose cuts differ in the values only have one frame. -/
theorem frame_of_cutOf {source target : String} {change : Attribute → Attribute}
    (cut : cutOf target = (cutOf source).mapAttributes change)
    (keeps : ∀ found ∈ (cutOf source).attributes, Cut.Keeps change found) :
    frame target = frame source := by
  rw [frame, cut, Cut.mapAttributes_mapAttributes, frame]
  apply Cut.mapAttributes_congr
  intro found member
  rw [Attribute.emptied, (keeps found member).lead, (keeps found member).mark]
  rfl

/-- Sorting the classes keeps the frame. -/
theorem frame_rewritten {sort : Sorting} (settles : Settles sort) {source : String}
    {rewritten : Rewritten} (returned : rewrite sort source = .ok rewritten) :
    frame rewritten.text = frame source := by
  obtain ⟨sortable, rfl⟩ := (rewrite_eq_ok settles).mp returned
  refine frame_of_cutOf (cutOf_rewritten settles sortable) fun found member => ?_
  obtain ⟨ordered, sorted⟩ := sortable found member
  exact Attribute.keeps_settled settles sorted

/-- Unifying a value brings no mark into it. -/
theorem Attribute.keeps_unified (found : Attribute) : Cut.Keeps unified found where
  lead := rfl
  mark := rfl
  value := by
    intro mark isMark member
    rcases isMark with rfl | rfl
    · exact (Text.mem_unifyNewlines_iff (by decide) (by decide)).mp member
    · exact (Text.mem_unifyNewlines_iff (by decide) (by decide)).mp member

/-- Unifying newlines keeps the frame exactly when it has no carriage return. -/
theorem frame_unified_iff (source : String) :
    frame (Text.unified source) = frame source ↔ '\r' ∉ (frame source).text := by
  constructor
  · intro same member
    rw [← same] at member
    exact Text.return_notMem_unified source (mem_of_mem_frame member)
  · intro solid
    obtain ⟨whole, leftmost⟩ := (leftmost_iff_eq_cutOf source _).mpr rfl
    have keeps : ∀ found ∈ (cutOf source).attributes, Cut.Keeps Attribute.unified found :=
      fun found _ => found.keeps_unified
    refine frame_of_cutOf (Eq.symm ?_) keeps
    refine (leftmost_iff_eq_cutOf _ _).mp ⟨?_, leftmost.mapAttributes rfl keeps⟩
    rw [Cut.text_unified leftmost.wellFormed solid, whole, Text.unified, String.toList_ofList]

end ClassOrder.Markup
