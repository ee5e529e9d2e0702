import ClassOrder.Text.Blank

/-!
# Words and the texts they are written as

A text is cut into words at its blanks, and words are written side by side with single
spaces. Writing words and cutting again gives the words back; cutting and writing only
tidies the blanks. A character that is no blank is in a text exactly when it is in one of
the words, so it does not matter to it in which order the words stand.
-/
namespace ClassOrder.Text

/-- A word is not empty and has no blank in it. -/
structure IsWord (word : String) : Prop where
  nonempty : word ≠ ""
  unbroken : ∀ c ∈ word.toList, isBlank c = false

variable {c : Char} {text word : List Char}

/-! ## Characters -/

/-- No piece of a split has in it what the text was split at. -/
theorem unbroken_of_mem_splitOnP (member : word ∈ text.splitOnP isBlank) :
    ∀ c ∈ word, isBlank c = false := by
  induction text generalizing word with
  | nil =>
    rw [List.splitOnP_nil, List.mem_singleton] at member
    simp [member]
  | cons first rest inductionHypothesis =>
    rw [List.splitOnP_cons_eq_if_modifyHead] at member
    by_cases blank : isBlank first = true
    · rw [if_pos blank] at member
      rcases List.mem_cons.mp member with rfl | later
      · simp
      · exact inductionHypothesis later
    · rw [if_neg blank] at member
      obtain ⟨piece, pieces, split⟩ :=
        List.exists_cons_of_ne_nil (List.splitOnP_ne_nil isBlank rest)
      rw [split, List.modifyHead_cons] at member
      rcases List.mem_cons.mp member with rfl | later
      · intro c inside
        rcases List.mem_cons.mp inside with rfl | inside
        · simpa using blank
        · exact inductionHypothesis (split ▸ List.mem_cons_self) c inside
      · exact inductionHypothesis (split ▸ List.mem_cons_of_mem _ later)

/-- What is cut out of a text are words. -/
theorem mem_wordsOf (member : word ∈ wordsOf text) :
    word ≠ [] ∧ ∀ c ∈ word, isBlank c = false := by
  obtain ⟨piece, nonempty⟩ := List.mem_filter.mp member
  exact ⟨by simpa using nonempty, unbroken_of_mem_splitOnP piece⟩

/-- A blank divides the words before it from those after it. -/
theorem wordsOf_append_blank (blank : isBlank c = true) (before after : List Char) :
    wordsOf (before ++ c :: after) = wordsOf before ++ wordsOf after := by
  rw [wordsOf, List.splitOnP_append_cons before after blank, List.filter_append]
  rfl

/-- A text without a blank is its own only word. -/
theorem wordsOf_unbroken (nonempty : word ≠ []) (unbroken : ∀ c ∈ word, isBlank c = false) :
    wordsOf word = [word] := by
  rw [wordsOf, List.splitOnP_eq_singleton unbroken]
  simp [nonempty]

/-- What stands before a text without a blank becomes the beginning of a word. -/
theorem wordsOf_append_unbroken (nonempty : word ≠ []) (unbroken : ∀ c ∈ word, isBlank c = false)
    (text : List Char) :
    wordsOf (word ++ text) = (word ++ text.takeWhile (fun c => !isBlank c)) ::
      wordsOf (text.dropWhile fun c => !isBlank c) := by
  have solid : ∀ c ∈ text.takeWhile (fun c => !isBlank c), isBlank c = false := by
    intro c member
    simpa using List.all_eq_true.mp List.all_takeWhile c member
  have first : wordsOf (word ++ text.takeWhile fun c => !isBlank c) =
      [word ++ text.takeWhile fun c => !isBlank c] :=
    wordsOf_unbroken (by simp [nonempty]) (List.forall_mem_append.mpr ⟨unbroken, solid⟩)
  have cut := List.takeWhile_append_dropWhile (p := fun c => !isBlank c) (l := text)
  cases behind : text.dropWhile fun c => !isBlank c with
  | nil =>
    rw [behind, List.append_nil] at cut
    rw [cut] at first ⊢
    exact first
  | cons c rest =>
    have blank : isBlank c = true := by
      have stopped := List.head?_dropWhile_not (fun c => !isBlank c) text
      rw [behind] at stopped
      simpa using stopped
    have whole : word ++ text = (word ++ text.takeWhile fun c => !isBlank c) ++ c :: rest := by
      rw [List.append_assoc, ← behind, cut]
    have afterBlank : wordsOf (c :: rest) = wordsOf rest := wordsOf_append_blank blank [] rest
    rw [whole, wordsOf_append_blank blank, first, afterBlank, List.singleton_append]

/-- The characters of a text that are no blanks are those of its words. -/
theorem mem_text_iff (solid : isBlank c = false) (text : List Char) :
    c ∈ text ↔ ∃ word ∈ wordsOf text, c ∈ word := by
  have pieces : c ∈ text ↔ ∃ piece ∈ text.splitOnP isBlank, c ∈ piece := by
    induction text with
    | nil => simp [List.splitOnP_nil]
    | cons first rest inductionHypothesis =>
      rw [List.splitOnP_cons_eq_if_modifyHead, List.mem_cons, inductionHypothesis]
      by_cases blank : isBlank first = true
      · have different : c ≠ first := by
          rintro rfl
          rw [blank] at solid
          cases solid
        simp [blank, different]
      · obtain ⟨piece, others, split⟩ :=
          List.exists_cons_of_ne_nil (List.splitOnP_ne_nil isBlank rest)
        simp [blank, split, or_assoc]
  rw [pieces]
  constructor
  · rintro ⟨piece, split, member⟩
    have nonempty : piece ≠ [] := List.ne_nil_of_mem member
    exact ⟨piece, List.mem_filter.mpr ⟨split, by simpa using nonempty⟩, member⟩
  · rintro ⟨word, cut, member⟩
    exact ⟨word, (List.mem_filter.mp cut).1, member⟩

/-! ## Strings -/

/-- What is cut out of a string are words. -/
theorem isWord_of_mem_words {text word : String} (member : word ∈ words text) : IsWord word := by
  obtain ⟨characters, cut, rfl⟩ := List.mem_map.mp member
  obtain ⟨nonempty, unbroken⟩ := mem_wordsOf cut
  refine ⟨?_, by simpa using unbroken⟩
  intro empty
  exact nonempty (by simpa using congrArg String.toList empty)

/-- Words that are written side by side are cut apart again. -/
theorem words_unwords {parts : List String} (areWords : ∀ word ∈ parts, IsWord word) :
    words (unwords parts) = parts := by
  induction parts with
  | nil => decide
  | cons first rest inductionHypothesis =>
    obtain ⟨firstIsWord, restAreWords⟩ := List.forall_mem_cons.mp areWords
    have firstSolid : first.toList ≠ [] := by
      simpa using firstIsWord.nonempty
    have single : wordsOf first.toList = [first.toList] :=
      wordsOf_unbroken firstSolid firstIsWord.unbroken
    cases rest with
    | nil => simp [words, unwords, single]
    | cons second others =>
      have written : (unwords (first :: second :: others)).toList =
          first.toList ++ ' ' :: (unwords (second :: others)).toList := by
        rw [unwords, String.intercalate_cons_cons]
        simp [unwords]
      have space : isBlank ' ' = true := by decide
      have following := inductionHypothesis restAreWords
      rw [words, written, wordsOf_append_blank space, single, List.map_append]
      simp only [words] at following
      rw [following]
      simp

/-- Words are known from how they are written. -/
theorem unwords_inj {left right : List String} (leftWords : ∀ word ∈ left, IsWord word)
    (rightWords : ∀ word ∈ right, IsWord word) : unwords left = unwords right ↔ left = right := by
  refine ⟨fun same => ?_, fun same => same ▸ rfl⟩
  rw [← words_unwords leftWords, same, words_unwords rightWords]

/-- Texts with the same words have the same characters, apart from blanks. -/
theorem mem_iff_of_words_perm {left right : String} (same : (words left).Perm (words right))
    (solid : isBlank c = false) : c ∈ left.toList ↔ c ∈ right.toList := by
  have written : ∀ text : String, c ∈ text.toList ↔ ∃ word ∈ words text, c ∈ word.toList := by
    intro text
    rw [mem_text_iff solid]
    constructor
    · rintro ⟨word, cut, member⟩
      exact ⟨_, List.mem_map_of_mem cut, by simpa using member⟩
    · rintro ⟨_, cut, member⟩
      obtain ⟨word, taken, rfl⟩ := List.mem_map.mp cut
      exact ⟨word, taken, by simpa using member⟩
  rw [written, written]
  exact exists_congr fun word => and_congr_left fun _ => same.mem_iff

/-- The only blank in words that are written side by side is the space between them. -/
theorem eq_space_of_mem_unwords {parts : List String} (areWords : ∀ word ∈ parts, IsWord word)
    (member : c ∈ (unwords parts).toList) (blank : isBlank c = true) : c = ' ' := by
  induction parts with
  | nil => simp [unwords] at member
  | cons first rest inductionHypothesis =>
    obtain ⟨firstIsWord, restAreWords⟩ := List.forall_mem_cons.mp areWords
    have notInFirst : c ∉ first.toList := by
      intro inside
      rw [firstIsWord.unbroken c inside] at blank
      cases blank
    cases rest with
    | nil => exact absurd (by simpa [unwords] using member) notInFirst
    | cons second others =>
      rw [unwords, String.intercalate_cons_cons] at member
      simp only [String.toList_append, List.mem_append, notInFirst, false_or] at member
      rcases member with between | later
      · simpa using between
      · exact inductionHypothesis restAreWords later

end ClassOrder.Text
