import ClassOrder.Proofs.Entries
import ClassOrder.Proofs.Fallible
import ClassOrder.Proofs.Theme.Inquiry

/-!
# How resolving refuses a theme

Rules spread what they look up, so a theme whose entries have any shape could fail in the
middle of a rule. This does not happen when the rules only build on scales: a scale is
checked once it is resolved, before it is remembered or answered, and a scale that is null
leaves the fallback to the rule. Resolving such a theme either says why the configuration
cannot be used or yields scales that are null or mappings.
-/
namespace ClassOrder.Theme

open Fallible

/-- Whether a value may be that of a scale: nothing, or a mapping. -/
def IsScale : Setting → Prop
  | .null => True
  | .mapping _ => True
  | _ => False

/-- The value of a scale is no rule. -/
theorem IsScale.ne_rule {value : Setting} (scale : IsScale value) (rule : ThemeRule) :
    value ≠ .rule rule := by
  rintro rfl
  exact scale

/-- A rule that builds a mapping from scales and nothing else. -/
inductive YieldsMapping (scales : List String) : ThemeRule → Prop where
  | constant (entries : Entries Setting) : YieldsMapping scales (.constant (.mapping entries))
  | lookup {path : String} (entries : Entries Setting) (whole : innerNames path = [])
      (scale : (Text.splitAtFirst '.' path).1 ∈ scales) :
      YieldsMapping scales (.lookup path (.mapping entries))
  | merge {rules : List ThemeRule} (each : ∀ rule ∈ rules, YieldsMapping scales rule) :
      YieldsMapping scales (.merge rules)
  | negative {scale : ThemeRule} (inner : YieldsMapping scales scale) :
      YieldsMapping scales (.negative scale)

/-- A rule that builds on some scales builds on more scales as well. -/
theorem YieldsMapping.mono {some more : List String} {rule : ThemeRule}
    (among : ∀ scale ∈ some, scale ∈ more) (yields : YieldsMapping some rule) :
    YieldsMapping more rule := by
  induction yields with
  | constant entries => exact .constant entries
  | lookup entries whole scale => exact .lookup entries whole (among _ scale)
  | merge _ inductionHypothesis => exact .merge inductionHypothesis
  | negative _ inductionHypothesis => exact .negative inductionHypothesis

/-! ## Rules in any monad

A rule is run while entries are resolved, and once more from answers alone. In both cases it
yields a mapping for the same reason, which is stated once for every way to say what a step
yields. -/

/-- A way to say of the steps of a monad that they yield something described. It may be said of a
value as described and of a chain of steps, and a description may be weakened. -/
structure Assurance (m : Type → Type) [Monad m] where
  Yields : {α : Type} → (α → Prop) → m α → Prop
  pure : ∀ {α : Type} {Describes : α → Prop} {value : α}, Describes value →
    Yields Describes (Pure.pure value)
  bind : ∀ {α β : Type} {Describes : α → Prop} {Finally : β → Prop} {first : m α}
    {next : α → m β}, Yields Describes first →
      (∀ value, Describes value → Yields Finally (next value)) → Yields Finally (first >>= next)
  weaken : ∀ {α : Type} {Describes Weaker : α → Prop} {step : m α}, Yields Describes step →
    (∀ value, Describes value → Weaker value) → Yields Weaker step

namespace Assurance

variable {m : Type → Type} [Monad m] [MonadExceptOf Fault m]
  {lookUp : String → Setting → m Setting}

/-- Merging the values of rules yields a mapping when each of them does. -/
theorem mergeFrom_yields (assurance : Assurance m) {rules : List ThemeRule}
    (each : ∀ rule ∈ rules,
      assurance.Yields (fun value => ∃ entries, value = .mapping entries) (rule.run lookUp))
    (below : Entries Setting) :
    assurance.Yields (fun value => ∃ entries, value = .mapping entries)
      (ThemeRule.mergeFrom lookUp rules below) := by
  induction rules generalizing below with
  | nil => exact assurance.pure ⟨below, rfl⟩
  | cons rule rest inductionHypothesis =>
    obtain ⟨first, others⟩ := List.forall_mem_cons.mp each
    refine assurance.bind first fun value mapping => ?_
    obtain ⟨entries, rfl⟩ := mapping
    have spreads : assurance.Yields (· = entries)
        (ThemeRule.spread (.mapping entries) : m (Entries Setting)) := assurance.pure rfl
    refine assurance.bind spreads fun above same => ?_
    exact inductionHypothesis others (Entries.merge below above)

/-- A rule that builds on scales yields a mapping where each lookup of a scale is answered from a
value that a scale may have. The induction follows the rule. -/
theorem run_yields (assurance : Assurance m) {scales : List String}
    (told : ∀ path fallback, (Text.splitAtFirst '.' path).1 ∈ scales →
      assurance.Yields (fun value => ∃ entry, IsScale entry ∧ value = answer entry path fallback)
        (lookUp path fallback))
    {rule : ThemeRule} (yields : YieldsMapping scales rule) :
    assurance.Yields (fun value => ∃ entries, value = .mapping entries) (rule.run lookUp) := by
  induction yields with
  | constant entries => exact assurance.pure ⟨entries, rfl⟩
  | @lookup path entries whole scale =>
    refine assurance.weaken (told path _ scale) ?_
    rintro _ ⟨entry, shaped, rfl⟩
    -- A null leaves the fallback, which is a mapping as well.
    cases entry with
    | null => exact ⟨entries, by simp [answer, walk, whole]⟩
    | mapping found => exact ⟨found, by simp [answer, walk, whole]⟩
    | _ => exact shaped.elim
  | merge each inductionHypothesis => exact assurance.mergeFrom_yields inductionHypothesis []
  | negative inner inductionHypothesis =>
    refine assurance.bind inductionHypothesis fun value mapping => ?_
    obtain ⟨entries, rfl⟩ := mapping
    exact assurance.pure ⟨negatedEntries entries, rfl⟩

end Assurance

/-- An outcome yields what is described when it is no fault. -/
def returning : Assurance (Except Fault) where
  Yields Describes outcome := ∃ value, outcome = .ok value ∧ Describes value
  pure described := ⟨_, rfl, described⟩
  bind here behind := by
    obtain ⟨value, rfl, described⟩ := here
    exact behind value described
  weaken := by
    rintro _ _ _ _ ⟨value, returned, described⟩ weaker
    exact ⟨value, returned, weaker value described⟩

/-! ## Layers and what is remembered -/

/-- The rules among the values of a layer build mappings from scales. -/
def LayerYields (scales : List String) (layer : Entries Setting) : Prop :=
  ∀ name rule, Entries.get? layer name = some (.rule rule) → YieldsMapping scales rule

/-- The scales that are remembered are null or mappings. -/
def Shaped (scales : List String) (memory : Memory) : Prop :=
  ∀ name ∈ scales, ∀ value, Entries.get? memory name = some value → IsScale value

variable {α β : Type} {scales : List String} {Describes : α → Prop} {Finally : β → Prop}

/-- A step that fails only by refusing the configuration. Otherwise its value is as described
and the memory keeps its shape. -/
def Reports (scales : List String) (Describes : α → Prop) (step : Resolving α) : Prop :=
  ∀ before, Shaped scales before →
    (∃ cause, step before = .error (.config cause)) ∨
      ∃ value after, step before = .ok (value, after) ∧ Describes value ∧ Shaped scales after

/-- A value as described is reported. -/
theorem reports_pure {value : α} (described : Describes value) :
    Reports scales Describes (pure value) :=
  fun before shaped => .inr ⟨value, before, rfl, described, shaped⟩

/-- A chain of two steps refuses where one of them does. -/
theorem reports_bind {first : Resolving α} {next : α → Resolving β}
    (here : Reports scales Describes first)
    (behind : ∀ value, Describes value → Reports scales Finally (next value)) :
    Reports scales Finally (first >>= next) := by
  intro before shaped
  rcases here before shaped with ⟨cause, refused⟩ | ⟨value, between, ran, described, shaped⟩
  · refine .inl ⟨cause, ?_⟩
    simp only [bind, StateT.bind, refused, Except.bind]
  · have continued : (first >>= next) before = next value between := by
      simp only [bind, StateT.bind, ran, Except.bind]
    rw [continued]
    exact behind value described between shaped

/-- What is described more weakly is still described. -/
theorem Reports.weaken {Weaker : α → Prop} {step : Resolving α}
    (reports : Reports scales Describes step) (weaker : ∀ value, Describes value → Weaker value) :
    Reports scales Weaker step := by
  intro before shaped
  rcases reports before shaped with refused | ⟨value, after, ran, described, shaped⟩
  · exact .inl refused
  · exact .inr ⟨value, after, ran, weaker value described, shaped⟩

/-- Steps of resolving yield what is described unless they refuse the configuration. -/
def reporting (scales : List String) : Assurance Resolving where
  Yields := Reports scales
  pure := reports_pure
  bind := reports_bind
  weaken := Reports.weaken

/-- A lookup that starts from a scale reports what is answered from a value that a scale may
have. -/
def LooksUpScales (scales : List String) (lookUp : String → Setting → Resolving Setting) : Prop :=
  ∀ path fallback, (Text.splitAtFirst '.' path).1 ∈ scales →
    Reports scales (fun value => ∃ entry, IsScale entry ∧ value = answer entry path fallback)
      (lookUp path fallback)

/-! ## Layers -/

section

variable {lookUp : String → Setting → Resolving Setting}

/-- What a layer gives to an entry is reported. -/
theorem evaluate_reports (lookUps : LooksUpScales scales lookUp)
    {value : Setting} (yields : ∀ rule, value = .rule rule → YieldsMapping scales rule) :
    Reports scales (fun _ => True) (evaluate lookUp value) := by
  cases value with
  | rule rule =>
    exact Reports.weaken ((reporting scales).run_yields lookUps (yields rule rfl))
      fun _ _ => trivial
  | _ => exact reports_pure trivial

/-- So is what the extensions make of an entry. -/
theorem extend_reports (lookUps : LooksUpScales scales lookUp)
    (name : String) {extensions : List (Entries Setting)}
    (yields : ∀ extension ∈ extensions, LayerYields scales extension) (value : Setting) :
    Reports scales (fun _ => True) (extend lookUp name extensions value) := by
  induction extensions generalizing value with
  | nil => exact reports_pure trivial
  | cons extension rest inductionHypothesis =>
    obtain ⟨first, others⟩ := List.forall_mem_cons.mp yields
    rw [extend]
    cases layer : Entries.get? extension name with
    | none => exact inductionHypothesis others value
    | some above =>
      have evaluated := evaluate_reports lookUps fun rule same => first name rule (same ▸ layer)
      exact reports_bind evaluated fun found _ => inductionHypothesis others (overlay value found)

end

/-! ## Entries -/

/-- Checking a scale refuses it or finds it in shape. -/
theorem checkScale_cases (scales : List String) (name : String) (value : Setting) :
    (∃ cause, checkScale scales name value = .error (.config cause)) ∨
      checkScale scales name value = .ok () ∧ (name ∈ scales → IsScale value) := by
  cases value with
  | null => exact .inr ⟨rfl, fun _ => trivial⟩
  | mapping entries => exact .inr ⟨rfl, fun _ => trivial⟩
  | _ => by_cases scale : name ∈ scales <;> simp [checkScale, scale]

/-- Checking a scale in the middle of resolving refuses it or finds it in shape. -/
theorem checkScale_reports (name : String) (value : Setting) :
    Reports scales (fun _ => name ∈ scales → IsScale value)
      (liftM (checkScale scales name value) : Resolving Unit) := by
  intro before shaped
  rcases checkScale_cases scales name value with ⟨cause, refused⟩ | ⟨passed, inShape⟩
  · rw [refused]
    exact .inl ⟨cause, rfl⟩
  · rw [passed]
    exact .inr ⟨(), before, rfl, inShape, shaped⟩

/-- Remembering a value that is in shape keeps the memory in shape. -/
theorem remember_reports {name : String} {value : Setting}
    (inShape : name ∈ scales → IsScale value) :
    Reports scales (fun value => name ∈ scales → IsScale value) (remember name value) := by
  intro before shaped
  refine .inr ⟨value, Entries.insert before name value, rfl, inShape, ?_⟩
  intro other scale found known
  rcases Entries.get?_insert_cases known with ⟨rfl, rfl⟩ | ⟨_, earlier⟩
  · exact inShape scale
  · exact shaped other scale found earlier

/-- Folding the layers of an entry, checking and remembering the outcome is reported. -/
theorem fold_reports {lookUp : String → Setting → Resolving Setting}
    (lookUps : LooksUpScales scales lookUp)
    {layers : Layers} (base : LayerYields scales layers.base)
    (extensions : ∀ extension ∈ layers.extensions, LayerYields scales extension) (name : String) :
    Reports scales (fun value => name ∈ scales → IsScale value) (do
      let start ← evaluate lookUp ((Entries.get? layers.base name).getD .null)
      let value ← extend lookUp name layers.extensions start
      checkScale scales name value
      remember name value) := by
  have yields : ∀ rule, (Entries.get? layers.base name).getD .null = .rule rule →
      YieldsMapping scales rule := by
    intro rule same
    cases found : Entries.get? layers.base name with
    | none =>
      rw [found] at same
      cases same
    | some value =>
      rw [found] at same
      exact base name rule (same ▸ found)
  refine reports_bind (evaluate_reports lookUps yields) fun start _ => ?_
  refine reports_bind (extend_reports lookUps name extensions start) fun value _ => ?_
  exact reports_bind (checkScale_reports name value) fun _ inShape => remember_reports inShape

/-- Resolving an entry refuses the configuration, or yields a value that a scale may have where
the entry is one. -/
theorem resolve_reports {layers : Layers} (base : LayerYields scales layers.base)
    (extensions : ∀ extension ∈ layers.extensions, LayerYields scales extension)
    (underWay : List String) (name : String) :
    Reports scales (fun value => name ∈ scales → IsScale value)
      (resolve scales layers underWay name) := by
  -- The lookups of an entry's rules resolve other entries with one more of them under way.
  induction underWay, name using resolve.induct layers with
  | case1 underWay name inductionHypothesis =>
    intro before shaped
    rcases resolve_cases scales layers underWay name before with
      ⟨value, known, step⟩ | ⟨_, ⟨_, step⟩ | ⟨_, _, step⟩ | ⟨circular, defined, step⟩⟩
    · exact .inr ⟨value, before, step, fun scale => shaped name scale value known, shaped⟩
    · exact .inl ⟨.circularTheme name, step⟩
    · rw [step]
      have null : name ∈ scales → IsScale .null := fun _ => trivial
      exact remember_reports null before shaped
    · have lookUps : LooksUpScales scales (lookUpUnder scales layers (name :: underWay)) := by
        intro path fallback scale
        exact reports_bind (inductionHypothesis circular defined path) fun entry inShape =>
          reports_pure ⟨entry, inShape scale, rfl⟩
      have fold := fold_reports lookUps base extensions name before shaped
      rw [step, resolveAfresh, Layers.run_inquiry throw_bind, bind_assoc]
      exact fold

/-- Resolving entries in turn refuses the configuration, or yields scales in shape. -/
theorem resolveAll_reports {layers : Layers} (base : LayerYields scales layers.base)
    (extensions : ∀ extension ∈ layers.extensions, LayerYields scales extension)
    (names : List String) :
    Reports scales (fun theme => ∀ entry ∈ theme, entry.1 ∈ scales → IsScale entry.2)
      (resolveAll scales layers names) := by
  induction names with
  | nil => exact reports_pure (by simp)
  | cons name rest inductionHypothesis =>
    refine reports_bind (resolve_reports base extensions [] name) fun value inShape => ?_
    refine reports_bind inductionHypothesis fun others inShapeToo => ?_
    exact reports_pure (List.forall_mem_cons.mpr ⟨inShape, inShapeToo⟩)

/-- A theme whose rules build on scales is refused, or its scales are null or mappings. -/
theorem Layers.resolved_reports {layers : Layers} (base : LayerYields scales layers.base)
    (extensions : ∀ extension ∈ layers.extensions, LayerYields scales extension) :
    (∃ cause, layers.resolved scales = .error (.config cause)) ∨
      ∃ theme, layers.resolved scales = .ok theme ∧
        ∀ name ∈ scales, ∀ value, Entries.get? theme name = some value → IsScale value := by
  have nothing : Shaped scales [] := by
    intro name _ value found
    cases found
  rcases resolveAll_reports base extensions layers.names [] nothing with
    ⟨cause, refused⟩ | ⟨theme, after, resolved, inShape, _⟩
  · exact .inl ⟨cause, by simp [resolved, StateT.run', refused, Functor.map, Except.map]⟩
  · refine .inr ⟨theme, by simp [Layers.resolved, StateT.run', resolved, Functor.map, Except.map],
      ?_⟩
    intro name scale value found
    exact inShape _ (Entries.mem_of_get? found) scale

end ClassOrder.Theme
