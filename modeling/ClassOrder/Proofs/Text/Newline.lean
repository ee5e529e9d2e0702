import ClassOrder.Text.Newline

/-!
# What unifying newlines leaves

With a line feed at the end of every line a text has no carriage returns, and a text that
has none is left as it is. All other characters stay. Parts of a text are unified on their
own, unless a carriage return at the end of the first meets a line feed.
-/
namespace ClassOrder.Text

variable {front rest text : List Char} {c : Char}

/-- A character that is no carriage return is kept. -/
theorem unifyNewlines_cons_of_ne (solid : c ≠ '\r') (rest : List Char) :
    unifyNewlines (c :: rest) = c :: unifyNewlines rest := by
  rw [unifyNewlines]
  · rintro _ rfl
    contradiction
  · rintro rfl
    contradiction

/-- A carriage return begins a text that has a line feed there. -/
theorem exists_unifyNewlines_return (rest : List Char) :
    ∃ lines, unifyNewlines ('\r' :: rest) = '\n' :: lines := by
  by_cases feed : ∃ more, rest = '\n' :: more
  · obtain ⟨more, rfl⟩ := feed
    exact ⟨_, rfl⟩
  · refine ⟨unifyNewlines rest, ?_⟩
    rw [unifyNewlines]
    exact fun more same => feed ⟨more, same⟩

/-- Only of the empty text nothing is left. -/
theorem unifyNewlines_eq_nil_iff : unifyNewlines text = [] ↔ text = [] := by
  fun_cases unifyNewlines text <;> simp

/-- No carriage return is left. -/
theorem return_notMem_unifyNewlines (text : List Char) : '\r' ∉ unifyNewlines text := by
  fun_induction unifyNewlines text with
  | case1 => simp
  | case2 rest inductionHypothesis => simpa using inductionHypothesis
  | case3 rest _ inductionHypothesis => simpa using inductionHypothesis
  | case4 c rest _ notReturn inductionHypothesis =>
    intro member
    rcases List.mem_cons.mp member with same | later
    · exact notReturn same.symm
    · exact inductionHypothesis later

/-- Without a carriage return there is nothing to unify in front of a text. -/
theorem unifyNewlines_append_of_notMem (solid : '\r' ∉ front) (rest : List Char) :
    unifyNewlines (front ++ rest) = front ++ unifyNewlines rest := by
  induction front with
  | nil => rfl
  | cons c front inductionHypothesis =>
    obtain ⟨different, solidRest⟩ := not_or.mp (mt List.mem_cons.mpr solid)
    rw [List.cons_append, unifyNewlines_cons_of_ne (Ne.symm different),
      inductionHypothesis solidRest, List.cons_append]

/-- A text without carriage returns is left as it is. -/
theorem unifyNewlines_of_notMem (solid : '\r' ∉ text) : unifyNewlines text = text := by
  have whole := unifyNewlines_append_of_notMem solid []
  rwa [List.append_nil, unifyNewlines, List.append_nil] at whole

/-- A text is unified on its own in front of a character that ends no line. -/
theorem unifyNewlines_append_cons (notReturn : c ≠ '\r') (notFeed : c ≠ '\n') (rest : List Char) :
    unifyNewlines (text ++ c :: rest) = unifyNewlines text ++ c :: unifyNewlines rest := by
  fun_induction unifyNewlines text with
  | case1 => exact unifyNewlines_cons_of_ne notReturn rest
  | case2 more inductionHypothesis => simp [unifyNewlines, inductionHypothesis]
  | case3 more alone inductionHypothesis =>
    -- What follows the carriage return is no line feed, with the rest behind it either.
    have stillAlone : ∀ others, more ++ c :: rest ≠ '\n' :: others := by
      intro others same
      cases more with
      | nil => exact notFeed (List.cons.inj same).1
      | cons first more => exact alone more (congrArg (· :: more) (List.cons.inj same).1)
    have unified : unifyNewlines ('\r' :: (more ++ c :: rest)) =
        '\n' :: unifyNewlines (more ++ c :: rest) := by
      rw [unifyNewlines]
      rintro others same
      exact stillAlone others same
    rw [List.cons_append, unified, inductionHypothesis, List.cons_append]
  | case4 first more _ solid inductionHypothesis =>
    rw [List.cons_append, unifyNewlines_cons_of_ne solid, inductionHypothesis, List.cons_append]

/-- A character that ends no line is in a text exactly when it was. -/
theorem mem_unifyNewlines_iff (notReturn : c ≠ '\r') (notFeed : c ≠ '\n') :
    c ∈ unifyNewlines text ↔ c ∈ text := by
  fun_induction unifyNewlines text with
  | case1 => simp
  | case2 rest inductionHypothesis => simp [inductionHypothesis, notReturn, notFeed]
  | case3 rest _ inductionHypothesis => simp [inductionHypothesis, notReturn, notFeed]
  | case4 first rest _ _ inductionHypothesis => simp [inductionHypothesis]

/-- A string with a line feed at the end of every line. -/
def unified (source : String) : String :=
  String.ofList (unifyNewlines source.toList)

/-- No carriage return is left in it. -/
theorem return_notMem_unified (source : String) : '\r' ∉ (unified source).toList := by
  rw [unified, String.toList_ofList]
  exact return_notMem_unifyNewlines source.toList

end ClassOrder.Text
