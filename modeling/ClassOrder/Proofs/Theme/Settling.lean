import ClassOrder.Proofs.Theme.Tracing

/-!
# What is remembered stays true

An entry is remembered at a time when most others are not resolved yet. Its value is
nevertheless the fold of its layers over the resolved theme itself: the fold asked only for
what was remembered by then, and what is remembered never changes. This holds of a memory
throughout, whatever is resolved first and from whichever rule.
-/
namespace ClassOrder.Theme

open Fallible

/-- The answers that a resolved theme gives: the value at a path of names, or the fallback
where some name is missing or the value is null. -/
def lookIn (theme : Entries Setting) : Answering := fun path fallback =>
  .ok (match walk (.mapping theme) ((Text.splitAtFirst '.' path).1 :: innerNames path) with
    | none => fallback
    | some .null => fallback
    | some value => value)

/-- What is found in a theme is answered from it. -/
theorem lookIn_of_get? {theme : Entries Setting} {path : String} {entry : Setting}
    (fallback : Setting) (found : Entries.get? theme (Text.splitAtFirst '.' path).1 = some entry) :
    lookIn theme path fallback = .ok (answer entry path fallback) := by
  cases reached : walk entry (innerNames path) with
  | none => simp only [lookIn, walk, found, answer, reached]
  | some value => cases value <;> simp only [lookIn, walk, found, answer, reached]

/-- What is not found in a theme leaves the fallback. -/
theorem lookIn_of_get?_none {theme : Entries Setting} {path : String} (fallback : Setting)
    (missing : Entries.get? theme (Text.splitAtFirst '.' path).1 = none) :
    lookIn theme path fallback = .ok fallback := by
  simp only [lookIn, walk, missing]

/-- A memory can be repeated: it is looked into. -/
theorem lookIn_repeats (memory : Memory) : Repeats (lookIn memory) memory :=
  fun _ fallback _ found => lookIn_of_get? fallback found

/-- Null answers every lookup with the fallback. -/
theorem answer_null (path : String) (fallback : Setting) :
    answer .null path fallback = fallback := by
  unfold answer
  cases innerNames path <;> rfl

/-- The fold of an entry's layers, with every lookup answered alike. -/
def Layers.settle (layers : Layers) (answers : Answering) (name : String) :
    Except Fault Setting := do
  let start ← evaluate answers ((Entries.get? layers.base name).getD .null)
  extend answers name layers.extensions start

/-- Folding with every lookup answered alike is answering the inquiry. -/
theorem Layers.settle_eq_run (layers : Layers) (answers : Answering) (name : String) :
    layers.settle answers name = (layers.inquiry name).run answers :=
  (Layers.run_inquiry (fun _ _ => rfl) answers layers name).symm

variable {layers : Layers} {memory before after : Memory} {name : String} {value : Setting}

/-- Every remembered entry is the fold of its layers, for whoever repeats what is
remembered. -/
def Settled (layers : Layers) (memory : Memory) : Prop :=
  ∀ name value, Entries.get? memory name = some value →
    ∀ answers, Repeats answers memory → layers.settle answers name = .ok value

/-- Where nothing is remembered, everything remembered is settled. -/
theorem settled_nil : Settled layers [] := by
  intro name value found
  cases found

/-- An invariant of the memory that survives remembering: wherever it holds, an entry may be
remembered with the fold of its layers, if this passes the check, and nothing is forgotten. -/
def SurvivesRemembering (scales : List String) (layers : Layers) (Holds : Memory → Prop) : Prop :=
  ∀ memory name value, Holds memory →
    (∀ answers, Repeats answers memory → layers.settle answers name = .ok value) →
    checkScale scales name value = .ok () →
    Holds (Entries.insert memory name value) ∧ Grows memory (Entries.insert memory name value)

/-- Nothing is forgotten where an entry is remembered for the first time, or with the value that
it had. -/
theorem grows_insert
    (again : ∀ known, Entries.get? memory name = some known → known = value) :
    Grows memory (Entries.insert memory name value) := by
  intro other found known
  rw [Entries.get?_insert]
  by_cases same : other = name
  · subst same
    simp [again found known]
  · simpa [same] using known

/-- Remembering the fold of an entry's layers keeps all that is remembered settled, even where the
entry had been remembered before: it had the same value. -/
theorem settled_survivesRemembering (scales : List String) (layers : Layers) :
    SurvivesRemembering scales layers (Settled layers) := by
  intro memory name value settled fold _
  have grows : Grows memory (Entries.insert memory name value) := by
    apply grows_insert
    intro known remembered
    have again := settled name known remembered _ (lookIn_repeats memory)
    exact Except.ok.inj (again.symm.trans (fold _ (lookIn_repeats memory)))
  refine ⟨?_, grows⟩
  intro other found known answers repeats
  rcases Entries.get?_insert_cases known with ⟨rfl, rfl⟩ | ⟨_, earlier⟩
  · exact fold answers (repeats.earlier grows)
  · exact settled other found earlier answers (repeats.earlier grows)

/-- A name is one of the layers' names exactly when some layer defines it. -/
theorem Layers.mem_names_iff (layers : Layers) (name : String) :
    name ∈ layers.names ↔ (Entries.get? layers.base name).isSome ∨
      ∃ extension ∈ layers.extensions, (Entries.get? extension name).isSome := by
  have gathered : ∀ (extensions : List (Entries Setting)) (known : List String),
      name ∈ extensions.foldl (fun known extension =>
        known ++ (Entries.names extension).filter fun name => !known.contains name) known ↔
        name ∈ known ∨ ∃ extension ∈ extensions, name ∈ Entries.names extension := by
    intro extensions
    induction extensions with
    | nil => simp
    | cons extension rest inductionHypothesis =>
      intro known
      rw [List.foldl_cons, inductionHypothesis]
      by_cases present : name ∈ known <;> simp [present]
  simp only [names, gathered, Entries.get?_isSome_iff]

/-- Data stands for itself. -/
theorem evaluate_of_ne_rule {answers : Answering} {value : Setting}
    (data : ∀ rule, value ≠ .rule rule) : evaluate answers value = .ok value := by
  cases value with
  | rule rule => exact absurd rfl (data rule)
  | _ => rfl

/-- Extensions without an entry leave it as it is. -/
theorem extend_of_absent {extensions : List (Entries Setting)} (answers : Answering)
    (absent : ∀ extension ∈ extensions, Entries.get? extension name = none) (value : Setting) :
    extend answers name extensions value = .ok value := by
  induction extensions with
  | nil => rfl
  | cons extension rest inductionHypothesis =>
    obtain ⟨missing, others⟩ := List.forall_mem_cons.mp absent
    rw [extend, missing]
    exact inductionHypothesis others

/-- The fold of an entry that no layer defines is null. -/
theorem Layers.settle_undefined (answers : Answering) (undefined : name ∉ layers.names) :
    layers.settle answers name = .ok .null := by
  rw [mem_names_iff, not_or] at undefined
  obtain ⟨base, extensions⟩ := undefined
  rw [settle, Option.not_isSome_iff_eq_none.mp base]
  apply extend_of_absent
  intro extension member
  apply Option.not_isSome_iff_eq_none.mp
  exact fun present => extensions ⟨extension, member, present⟩

variable {Holds : Memory → Prop} {scales : List String}

/-- A lookup is traced when resolving its entry answers what is remembered from then on. -/
theorem lookUp_traced {step : Resolving Setting} {path : String}
    (remembers : ∀ {before after : Memory} {value : Setting}, Holds before →
      step before = .ok (value, after) → Holds after ∧ Grows before after ∧
        Entries.get? after (Text.splitAtFirst '.' path).1 = some value) (fallback : Setting) :
    Traced Holds (do return answer (← step) path fallback)
      fun answers => answers path fallback := by
  intro before value after holds looked
  obtain ⟨entry, between, resolved, ⟨⟩⟩ := stateT_bind_eq_ok.mp looked
  obtain ⟨holds, grows, found⟩ := remembers holds resolved
  exact ⟨holds, grows, fun answers repeats => repeats path fallback entry found⟩

/-- Answering the inquiry of an entry and remembering the outcome answers the value that is
remembered from then on. -/
theorem resolveAfresh_remembers (survives : SurvivesRemembering scales layers Holds)
    {underWay : List String}
    (lookUps : ∀ path fallback,
      Traced Holds (lookUpUnder scales layers (name :: underWay) path fallback)
        fun answers => answers path fallback)
    (holds : Holds before)
    (resolved : resolveAfresh scales layers underWay name before = .ok (value, after)) :
    Holds after ∧ Grows before after ∧ Entries.get? after name = some value := by
  obtain ⟨total, answered, ran, resolved⟩ := stateT_bind_eq_ok.mp resolved
  obtain ⟨⟨⟩, _, checked, resolved⟩ := stateT_bind_eq_ok.mp resolved
  obtain ⟨passed, rfl⟩ := stateT_lift_eq_ok.mp checked
  cases resolved
  obtain ⟨holds, grows, again⟩ := Inquiry.run_traced lookUps _ before value answered holds ran
  have fold : ∀ answers, Repeats answers answered → layers.settle answers name = .ok value := by
    intro answers repeats
    rw [layers.settle_eq_run]
    exact again answers repeats
  obtain ⟨holds, growsFurther⟩ := survives answered name value holds fold passed
  exact ⟨holds, grows.trans growsFurther, by simp [Entries.get?_insert]⟩

/-- Resolving an entry answers the value that is remembered from then on. -/
theorem resolve_remembers (survives : SurvivesRemembering scales layers Holds)
    (underWay : List String) (name : String) {before after : Memory} {value : Setting}
    (holds : Holds before)
    (resolved : resolve scales layers underWay name before = .ok (value, after)) :
    Holds after ∧ Grows before after ∧ Entries.get? after name = some value := by
  -- The lookups of an entry's rules resolve other entries with one more of them under way.
  induction underWay, name using resolve.induct layers generalizing before after value with
  | case1 underWay name inductionHypothesis =>
    rcases resolve_cases scales layers underWay name before with
      ⟨remembered, known, step⟩ | ⟨missing, ⟨_, step⟩ | ⟨_, undefined, step⟩ |
        ⟨circular, defined, step⟩⟩
    · cases step.symm.trans resolved
      exact ⟨holds, Grows.refl _, known⟩
    · cases step.symm.trans resolved
    · cases step.symm.trans resolved
      have null := fun answers (_ : Repeats answers before) =>
        layers.settle_undefined answers undefined
      obtain ⟨holds, grows⟩ := survives before name .null holds null rfl
      exact ⟨holds, grows, by simp [Entries.get?_insert]⟩
    · have lookUps := fun path fallback =>
        lookUp_traced (inductionHypothesis circular defined path) fallback
      exact resolveAfresh_remembers survives lookUps holds (step.symm.trans resolved)

/-- Resolving entries in turn gives each of them the value that is remembered in the end. -/
theorem resolveAll_remembers (survives : SurvivesRemembering scales layers Holds)
    (names : List String) {theme : Entries Setting} {before after : Memory} (holds : Holds before)
    (resolved : resolveAll scales layers names before = .ok (theme, after)) :
    Holds after ∧ Grows before after ∧ Entries.names theme = names ∧
      ∀ name value, (name, value) ∈ theme → Entries.get? after name = some value := by
  induction names generalizing before theme with
  | nil =>
    cases resolved
    exact ⟨holds, Grows.refl _, rfl, by simp⟩
  | cons name rest inductionHypothesis =>
    obtain ⟨value, between, first, resolved⟩ := stateT_bind_eq_ok.mp resolved
    obtain ⟨others, last, following, ⟨⟩⟩ := stateT_bind_eq_ok.mp resolved
    obtain ⟨holds, grows, found⟩ := resolve_remembers survives [] name holds first
    obtain ⟨holds, growsFurther, named, remembered⟩ := inductionHypothesis holds following
    refine ⟨holds, grows.trans growsFurther, congrArg (name :: ·) named, ?_⟩
    intro other entry member
    rcases List.mem_cons.mp member with same | later
    · cases same
      exact growsFurther name value found
    · exact remembered other entry later

/-- A resolved theme has the names of its layers, and each of its values is the fold of the
entry's layers with every lookup answered from the theme itself. -/
theorem Layers.resolved_settles {scales : List String} {layers : Layers} {theme : Entries Setting}
    (resolved : layers.resolved scales = .ok theme) :
    Entries.names theme = layers.names ∧ ∀ name value, Entries.get? theme name = some value →
      layers.settle (lookIn theme) name = .ok value := by
  obtain ⟨⟨theme, memory⟩, ran, ⟨⟩⟩ := map_eq_ok.mp resolved
  obtain ⟨settled, _, named, remembered⟩ :=
    resolveAll_remembers (settled_survivesRemembering scales layers) _ settled_nil ran
  have found : ∀ name value, Entries.get? theme name = some value →
      Entries.get? memory name = some value := fun name value present =>
    remembered name value (Entries.mem_of_get? present)
  have repeats : Repeats (lookIn theme) memory := by
    intro path fallback entry known
    cases present : Entries.get? theme (Text.splitAtFirst '.' path).1 with
    | some value =>
      have same := found _ _ present
      rw [known] at same
      cases same
      exact lookIn_of_get? fallback present
    | none =>
      -- What is remembered beside the theme is null, and answers with the fallback as well.
      have undefined : (Text.splitAtFirst '.' path).1 ∉ layers.names := by
        rw [← named]
        exact (Entries.get?_eq_none_iff theme _).mp present
      have fold := settled _ entry known _ (lookIn_repeats memory)
      rw [layers.settle_undefined _ undefined] at fold
      cases fold
      rw [lookIn_of_get?_none fallback present, answer_null]
  exact ⟨named, fun name value present => settled name value (found name value present) _ repeats⟩

end ClassOrder.Theme
