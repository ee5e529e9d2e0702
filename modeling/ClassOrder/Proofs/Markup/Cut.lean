import ClassOrder.Proofs.Markup.Attribute

/-!
# The leftmost cut of a source

A source is cut into attributes and the gaps between them. The cut is leftmost when every
attribute begins where it stands and no attribute begins inside a gap. There is one such
cut of a source, and it is what the pieces of the source make up.

Values may change without moving the cut. An attribute that began inside a gap would have
its whole lead and its mark in the gap, since the lead has the first letter of its word only
once and the next attribute begins with that letter. So whether one begins depends on no
more than which marks come later.
-/
namespace ClassOrder.Markup

open Markup.Attribute (Begins IsLead)

/-- A source that is taken apart: its attributes, each with the gap before it, and the gap at
the end. -/
structure Cut where
  parts : List (List Char × Attribute)
  last : List Char
  deriving DecidableEq

namespace Cut

/-- The source that is taken apart. -/
def text (cut : Cut) : List Char :=
  cut.parts.flatMap (fun (gap, found) => gap ++ found.text) ++ cut.last

/-- The attributes of a cut. -/
def attributes (cut : Cut) : List Attribute :=
  cut.parts.map Prod.snd

/-- A cut with the same gaps and other attributes. -/
def mapAttributes (change : Attribute → Attribute) (cut : Cut) : Cut where
  parts := cut.parts.map fun (gap, found) => (gap, change found)
  last := cut.last

/-- No attribute begins inside a gap, given what stands before and behind it. -/
def Clear (before gap behind : List Char) : Prop :=
  ∀ front back, gap = front ++ back → back ≠ [] →
    ∀ found : Attribute, ¬ found.Begins (before ++ front) (back ++ behind)

/-- Every attribute of a cut begins where it stands, and none begins inside a gap, given what
stands before the cut. -/
inductive Leftmost : List Char → Cut → Prop where
  | last (before gap : List Char) (clear : Clear before gap []) : Leftmost before ⟨[], gap⟩
  | next (before gap : List Char) (found : Attribute) (parts : List (List Char × Attribute))
      (last : List Char) (clear : Clear before gap (found.text ++ text ⟨parts, last⟩))
      (begins : found.Begins (before ++ gap) (found.text ++ text ⟨parts, last⟩))
      (rest : Leftmost (before ++ gap ++ found.text) ⟨parts, last⟩) :
      Leftmost before ⟨(gap, found) :: parts, last⟩

variable {before gap last : List Char} {found : Attribute} {cut : Cut}

/-- A cut without attributes is its last gap. -/
@[simp]
theorem text_nil (last : List Char) : text ⟨[], last⟩ = last := by
  simp [text]

/-- A cut begins with its first gap and its first attribute. -/
@[simp]
theorem text_cons (gap : List Char) (found : Attribute) (parts : List (List Char × Attribute))
    (last : List Char) :
    text ⟨(gap, found) :: parts, last⟩ = gap ++ (found.text ++ text ⟨parts, last⟩) := by
  simp [text]

/-! ## There is only one -/

/-- No attribute begins at the end of what is put in front of a gap that is longer. -/
theorem Clear.not_begins {front back behind rest : List Char} (clear : Clear before gap behind)
    (split : gap = front ++ back) (nonempty : back ≠ []) (same : back ++ behind = rest) :
    ¬ found.Begins (before ++ front) rest :=
  same ▸ clear front back split nonempty found

/-- A source has one leftmost cut.

Follow one of the cuts. Where the other one had a shorter gap, its attribute would begin
inside the gap of the first, and the other way round. -/
theorem Leftmost.unique {other : Cut} (leftmost : Leftmost before cut)
    (otherLeftmost : Leftmost before other) (same : cut.text = other.text) : cut = other := by
  induction leftmost generalizing other with
  | last before gap clear =>
    cases otherLeftmost with
    | last before otherGap otherClear =>
      simp only [text_nil] at same
      rw [same]
    | next before otherGap found parts last otherClear begins rest =>
      rw [text_nil, text_cons] at same
      refine absurd begins (clear.not_begins same ?_ (List.append_nil _))
      simp [Attribute.text]
  | next before gap found parts last clear begins rest inductionHypothesis =>
    cases otherLeftmost with
    | last before otherGap otherClear =>
      rw [text_nil, text_cons] at same
      refine absurd begins (otherClear.not_begins same.symm ?_ (List.append_nil _))
      simp [Attribute.text]
    | next before otherGap otherFound otherParts otherLast otherClear otherBegins otherRest =>
      rw [text_cons, text_cons] at same
      have alike : gap = otherGap := by
        rcases List.append_eq_append_iff.mp same with
          ⟨back, split, whole⟩ | ⟨back, split, whole⟩
        · cases back with
          | nil => simpa using split.symm
          | cons c more =>
            exact absurd begins
              (otherClear.not_begins split (List.cons_ne_nil c more) whole.symm)
        · cases back with
          | nil => simpa using split
          | cons c more =>
            exact absurd otherBegins (clear.not_begins split (List.cons_ne_nil c more) whole.symm)
      subst alike
      obtain ⟨rfl, behind⟩ := begins.wellFormed.unique otherBegins.wellFormed
        (List.append_cancel_left same)
      have tails := inductionHypothesis otherRest behind
      simp only [Cut.mk.injEq] at tails
      rw [tails.1, tails.2]

/-! ## Pieces make it up -/

/-- A cut of a source with one more character in front, which belongs to the first gap. -/
def push (c : Char) : Cut → Cut
  | ⟨[], last⟩ => ⟨[], c :: last⟩
  | ⟨(gap, found) :: parts, last⟩ => ⟨(c :: gap, found) :: parts, last⟩

/-- The cut that pieces make up. -/
def ofPieces : List Piece → Cut
  | [] => ⟨[], []⟩
  | .plain c :: rest => (ofPieces rest).push c
  | .classes found :: rest => ⟨([], found) :: (ofPieces rest).parts, (ofPieces rest).last⟩

/-- A character that is put in front is the first one of the source. -/
@[simp]
theorem text_push (c : Char) (cut : Cut) : (cut.push c).text = c :: cut.text := by
  obtain ⟨parts, last⟩ := cut
  cases parts with
  | nil => simp [push]
  | cons part rest => simp [push, text]

/-- It belongs to a gap, so the attributes stay. -/
@[simp]
theorem attributes_push (c : Char) (cut : Cut) : (cut.push c).attributes = cut.attributes := by
  obtain ⟨parts, last⟩ := cut
  cases parts with
  | nil => rfl
  | cons part rest => rfl

/-- And they may be changed before or after. -/
@[simp]
theorem mapAttributes_push (change : Attribute → Attribute) (c : Char) (cut : Cut) :
    (cut.push c).mapAttributes change = (cut.mapAttributes change).push c := by
  obtain ⟨parts, last⟩ := cut
  cases parts with
  | nil => rfl
  | cons part rest => rfl

/-- A gap that is clear stays so with one more character in front at which no attribute
begins. -/
theorem Clear.cons {behind : List Char} {c : Char} (clear : Clear (before ++ [c]) gap behind)
    (nothing : ∀ found : Attribute, ¬ found.Begins before (c :: gap ++ behind)) :
    Clear before (c :: gap) behind := by
  intro front back split nonempty found begins
  cases front with
  | nil =>
    rw [List.nil_append] at split
    rw [List.append_nil, ← split] at begins
    exact nothing found begins
  | cons first more =>
    obtain ⟨rfl, inside⟩ := List.cons.inj split
    exact clear more back inside nonempty found (by simpa using begins)

/-- So does a leftmost cut. -/
theorem Leftmost.push {c : Char} (leftmost : Leftmost (before ++ [c]) cut)
    (nothing : ∀ found : Attribute, ¬ found.Begins before (c :: cut.text)) :
    Leftmost before (cut.push c) := by
  cases leftmost with
  | last _ gap clear =>
    rw [text_nil] at nothing
    exact .last before (c :: gap) (clear.cons (by simpa using nothing))
  | next _ gap found parts last clear begins rest =>
    rw [text_cons] at nothing
    exact .next before (c :: gap) found parts last (clear.cons nothing) (by simpa using begins)
      (by simpa using rest)

/-- A text that ends with an attribute ends with the attribute's mark. -/
theorem getLast?_append_text (before : List Char) (found : Attribute) :
    (before ++ found.text).getLast? = some found.mark := by
  have whole : before ++ found.text =
      before ++ (found.lead ++ found.mark :: found.value) ++ [found.mark] := by
    simp [Attribute.text]
  rw [whole, List.getLast?_concat]

/-- An attribute is found at a place exactly when one begins there. -/
theorem attributeAt_eq_some_iff {text rest : List Char} :
    attributeAt before.getLast? text = some (found, rest) ↔
      found.Begins before text ∧ text = found.text ++ rest := by
  have free : mayBegin before.getLast? = true ↔
      ∀ c, before.getLast? = some c → Attribute.continuesName c = false := by
    cases before.getLast? <;> simp [mayBegin]
  unfold attributeAt
  split
  · rename_i begins
    rw [Attribute.take_eq_some_iff]
    constructor
    · rintro ⟨wellFormed, rfl⟩
      exact ⟨⟨wellFormed, free.mp begins, List.prefix_append _ _⟩, rfl⟩
    · rintro ⟨begins, rfl⟩
      exact ⟨begins.wellFormed, rfl⟩
  · rename_i continues
    refine iff_of_false (by simp) ?_
    rintro ⟨begins, _⟩
    exact continues (free.mpr begins.free)

/-- The pieces of a source make up a leftmost cut of it. -/
theorem leftmost_ofPieces (before text : List Char) :
    Leftmost before (ofPieces (pieces before.getLast? text)) ∧
      (ofPieces (pieces before.getLast? text)).text = text := by
  generalize known : before.getLast? = left
  fun_induction pieces left text generalizing before with
  | case1 left =>
    refine ⟨.last before [] ?_, text_nil []⟩
    intro front back split nonempty
    exact absurd (List.append_eq_nil_iff.mp split.symm).2 nonempty
  | case2 left c rest found behind taken shorter inductionHypothesis =>
    subst known
    obtain ⟨begins, whole⟩ := attributeAt_eq_some_iff.mp taken
    obtain ⟨leftmost, cutText⟩ := inductionHypothesis (before ++ found.text)
      (getLast?_append_text before found)
    refine ⟨.next before [] found _ _ ?_ ?_ ?_, ?_⟩
    · intro front back split nonempty
      exact absurd (List.append_eq_nil_iff.mp split.symm).2 nonempty
    · simpa [cutText, ← whole] using begins
    · simpa using leftmost
    · simp only [ofPieces, text_cons, List.nil_append]
      rw [cutText, whole]
  | case3 left c rest nothing inductionHypothesis =>
    subst known
    obtain ⟨leftmost, cutText⟩ := inductionHypothesis (before ++ [c]) (by simp)
    refine ⟨leftmost.push ?_, by rw [ofPieces, text_push, cutText]⟩
    intro found begins
    rw [cutText] at begins
    obtain ⟨behind, whole⟩ := begins.stands
    have taken := attributeAt_eq_some_iff.mpr ⟨begins, whole.symm⟩
    rw [nothing] at taken
    cases taken

/-! ## Changing values -/

/-- The attributes of a changed cut are the changed attributes. -/
theorem attributes_mapAttributes (change : Attribute → Attribute) (cut : Cut) :
    (cut.mapAttributes change).attributes = cut.attributes.map change := by
  simp [Cut.attributes, Cut.mapAttributes]

/-- A change that leaves every attribute alone leaves the cut alone. -/
theorem mapAttributes_eq_self_iff {change : Attribute → Attribute} {cut : Cut} :
    cut.mapAttributes change = cut ↔ ∀ found ∈ cut.attributes, change found = found := by
  obtain ⟨parts, last⟩ := cut
  simp only [Cut.mapAttributes, Cut.attributes, Cut.mk.injEq, and_true, List.forall_mem_map]
  have pairwise := List.map_eq_map_iff (l := parts) (f := fun part => (part.1, change part.2))
    (g := id)
  rw [List.map_id] at pairwise
  rw [pairwise]
  simp [Prod.ext_iff]

/-- Two changes of all attributes are one. -/
theorem mapAttributes_mapAttributes (first second : Attribute → Attribute) (cut : Cut) :
    (cut.mapAttributes first).mapAttributes second =
      cut.mapAttributes fun found => second (first found) := by
  simp [mapAttributes]

/-- Changes that agree on the attributes of a cut change it alike. -/
theorem mapAttributes_congr {first second : Attribute → Attribute}
    (alike : ∀ found ∈ cut.attributes, first found = second found) :
    cut.mapAttributes first = cut.mapAttributes second := by
  obtain ⟨parts, last⟩ := cut
  simp only [mapAttributes, Cut.mk.injEq, and_true]
  apply List.map_congr_left
  intro part member
  rw [alike part.2 (List.mem_map_of_mem member)]

/-- What stands before a place matters only by its last character, also further on. -/
theorem getLast?_append_congr {other : List Char} (alike : before.getLast? = other.getLast?)
    (more : List Char) : (before ++ more).getLast? = (other ++ more).getLast? := by
  rw [List.getLast?_append, List.getLast?_append, alike]

/-- A lead and a mark that stand in front of a gap and a text that begins with the first
letter of the word, if at all, are in the gap. -/
theorem lead_in_gap {lead rest back changed : List Char} {mark : Char} (isLead : IsLead lead)
    (isMark : mark = '\x22' ∨ mark = '\x27') (nonempty : back ≠ [])
    (first : ∀ c, changed.head? = some c → c = 'c')
    (spelled : lead ++ mark :: rest = back ++ changed) :
    ∃ inside, back = lead ++ mark :: inside ∧ rest = inside ++ changed := by
  have split : (lead ++ [mark]) ++ rest = back ++ changed := by simpa using spelled
  rcases List.append_eq_append_iff.mp split with ⟨inside, inGap, behind⟩ | ⟨excess, beyond, behind⟩
  · exact ⟨inside, by simpa using inGap, behind⟩
  · cases excess with
    | nil => exact ⟨[], by simpa using beyond.symm, by simpa using behind.symm⟩
    | cons c excess =>
      -- The letter would be in the lead and the mark, but not as the first character.
      obtain rfl : c = 'c' := first c (by rw [behind]; rfl)
      obtain ⟨more, rfl, notAgain⟩ := isLead.first
      obtain ⟨front, others, rfl⟩ := List.exists_cons_of_ne_nil nonempty
      have tail : more ++ [mark] = others ++ 'c' :: excess := (List.cons.inj beyond).2
      have again : 'c' ∈ more ++ [mark] := by
        rw [tail]
        simp
      rcases List.mem_append.mp again with inLead | isAgain
      · exact absurd inLead notAgain
      · rw [← List.mem_singleton.mp isAgain] at isMark
        simp at isMark

/-- A gap stays clear when what stands behind it changes, as long as that begins with the
first letter of the word, if at all, and no mark comes into it. -/
theorem Clear.behind {other behind changed : List Char} (clear : Clear before gap behind)
    (alike : before.getLast? = other.getLast?)
    (first : ∀ c, changed.head? = some c → c = 'c')
    (marks : ∀ mark, mark = '\x22' ∨ mark = '\x27' → mark ∈ changed → mark ∈ behind) :
    Clear other gap changed := by
  intro front back split nonempty found begins
  obtain ⟨⟨isLead, isMark, _⟩, free, more, whole⟩ := begins
  have spelled : found.lead ++ found.mark :: (found.value ++ found.mark :: more) =
      back ++ changed := by
    rw [← whole]
    simp [Attribute.text]
  obtain ⟨inside, rfl, closing⟩ := lead_in_gap isLead isMark nonempty first spelled
  have closes : found.mark ∈ inside ++ behind := by
    have again : found.mark ∈ inside ++ changed := by
      rw [← closing]
      simp
    rcases List.mem_append.mp again with here | later
    · exact List.mem_append_left _ here
    · exact List.mem_append_right _ (marks _ isMark later)
  rw [← getLast?_append_congr alike] at free
  obtain ⟨shadow, begins⟩ := Attribute.exists_begins isLead isMark free closes
  exact clear front _ split nonempty shadow (by simpa using begins)

/-- A change of attributes that leaves their leads and marks alone and puts no mark into a
value that is not in it already. -/
structure Keeps (change : Attribute → Attribute) (found : Attribute) : Prop where
  lead : (change found).lead = found.lead
  mark : (change found).mark = found.mark
  value : ∀ mark, mark = '\x22' ∨ mark = '\x27' →
    mark ∈ (change found).value → mark ∈ found.value

/-- Changed attributes have the form of class attributes. -/
theorem Keeps.wellFormed {change : Attribute → Attribute} (keeps : Keeps change found)
    (wellFormed : found.WellFormed) : (change found).WellFormed where
  lead := keeps.lead ▸ wellFormed.lead
  mark := keeps.mark ▸ wellFormed.mark
  value := by
    rw [keeps.mark]
    exact fun inside => wellFormed.value (keeps.value _ wellFormed.mark inside)

/-- A character that does not come into an attribute of a cut does not come into the cut. -/
theorem mem_of_mem_mapAttributes {change : Attribute → Attribute} {cut : Cut} {c : Char}
    (kept : ∀ found ∈ cut.attributes, c ∈ (change found).text → c ∈ found.text)
    (member : c ∈ (cut.mapAttributes change).text) : c ∈ cut.text := by
  obtain ⟨parts, last⟩ := cut
  induction parts with
  | nil => simpa [mapAttributes] using member
  | cons part rest inductionHypothesis =>
    obtain ⟨gap, found⟩ := part
    obtain ⟨keptHere, keptRest⟩ := List.forall_mem_cons.mp kept
    have later := inductionHypothesis keptRest
    simp only [mapAttributes, List.map_cons, text_cons, List.mem_append] at member later ⊢
    exact member.imp_right (Or.imp keptHere later)

/-- No mark comes into a cut when its attributes are changed. -/
theorem mark_mem_text_mapAttributes {change : Attribute → Attribute} {cut : Cut}
    (keeps : ∀ found ∈ cut.attributes, Keeps change found) {mark : Char}
    (isMark : mark = '\x22' ∨ mark = '\x27')
    (member : mark ∈ (cut.mapAttributes change).text) : mark ∈ cut.text := by
  refine mem_of_mem_mapAttributes (fun found listed inside => ?_) member
  have keepsFound := keeps found listed
  simp only [Attribute.text, keepsFound.lead, keepsFound.mark, List.mem_append, List.mem_cons,
    List.not_mem_nil, or_false] at inside ⊢
  exact inside.imp_left (Or.imp_right (Or.imp_right (keepsFound.value mark isMark)))

/-- The leftmost cut stays where it is when attributes are changed in this way. -/
theorem Leftmost.mapAttributes {change : Attribute → Attribute} {other : List Char}
    (leftmost : Leftmost before cut) (alike : before.getLast? = other.getLast?)
    (keeps : ∀ found ∈ cut.attributes, Keeps change found) :
    Leftmost other (cut.mapAttributes change) := by
  induction leftmost generalizing other with
  | last before gap clear =>
    exact .last other gap (clear.behind alike (by simp) (by simp))
  | next before gap found parts last clear begins rest inductionHypothesis =>
    obtain ⟨keepsFound, keepsRest⟩ := List.forall_mem_cons.mp keeps
    have wellFormed := keepsFound.wellFormed begins.wellFormed
    refine .next other gap (change found) _ last (clear.behind alike ?_ ?_) ⟨wellFormed, ?_, ?_⟩ ?_
    · obtain ⟨more, isFirst, _⟩ := wellFormed.lead.first
      intro c head
      simpa [Attribute.text, isFirst, eq_comm] using head
    · intro mark isMark member
      let behind : Cut := ⟨([], found) :: parts, last⟩
      have keepsBehind : ∀ found ∈ behind.attributes, Keeps change found := keeps
      have both : mark ∈ behind.text := mark_mem_text_mapAttributes keepsBehind isMark
        (by simpa [behind, Cut.mapAttributes] using member)
      simpa [behind] using both
    · rw [← getLast?_append_congr alike]
      exact begins.free
    · exact List.prefix_append _ _
    · refine inductionHypothesis ?_ keepsRest
      rw [getLast?_append_text, getLast?_append_text, keepsFound.mark]

end Cut

end ClassOrder.Markup
