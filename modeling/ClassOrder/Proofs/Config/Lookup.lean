import ClassOrder.Proofs.Config.LateBinding
import ClassOrder.Proofs.Theme.Unfolding

/-!
# Two ways to look up a path of the theme

A rule looks up a path while the theme is being resolved, and a plugin looks it up in the
resolved theme. The rule is answered from the resolved theme as well, whatever was resolved
before: every entry has one value only, and that is the one in the theme.

Two things tell the answers apart. A null is nothing to a rule, which gets its fallback, and
a value to a plugin. And a path that ends right after its first dot leads a rule to the entry
itself, and a plugin to what stands in that entry under the empty name.
-/
namespace ClassOrder

open Fallible

/-! ## The names of a path -/

namespace Text

/-- A text has the mark nowhere, or it is what stands before the first mark, the mark, and the
rest, which is cut at each further mark. -/
theorem splitAtEach_cases (mark : Char) (text : String) :
    text = (splitAtFirst mark text).1 ∧ (splitAtFirst mark text).2 = "" ∧
        splitAtEach mark text = [text] ∨
      text.toList = (splitAtFirst mark text).1.toList ++ mark :: (splitAtFirst mark text).2.toList ∧
        splitAtEach mark text =
          (splitAtFirst mark text).1 :: splitAtEach mark (splitAtFirst mark text).2 := by
  have parted : text.toList.takeWhile (· != mark) ++ text.toList.dropWhile (· != mark) =
      text.toList := List.takeWhile_append_dropWhile
  have before : mark ∉ text.toList.takeWhile (· != mark) := by
    intro member
    simpa using List.all_eq_true.mp List.all_takeWhile mark member
  simp only [splitAtFirst, splitAtEach]
  cases behind : text.toList.dropWhile (· != mark) with
  | nil =>
    rw [behind, List.append_nil] at parted
    refine .inl ⟨?_, rfl, ?_⟩
    · rw [parted, String.ofList_toList]
    · rw [List.splitOn_eq_singleton (parted ▸ before), List.map_singleton, String.ofList_toList]
  | cons first rest =>
    have marked : first = mark := by
      have stopped := List.head?_dropWhile_not (· != mark) text.toList
      rw [behind] at stopped
      simpa using stopped
    rw [behind, marked] at parted
    have cut := List.splitOn_append_cons_self_of_not_mem before rest
    rw [parted] at cut
    refine .inr ⟨?_, ?_⟩
    · simp only [String.toList_ofList, List.drop_one, List.tail_cons, parted]
    · simp only [cut, List.map_cons, List.drop_one, List.tail_cons, String.toList_ofList]

end Text

namespace Theme

/-- The first name of a path. -/
def firstName (path : String) : String :=
  (Text.splitAtFirst '.' path).1

/-- The path ends right after its first dot. -/
def EndsAtFirstDot (path : String) : Prop :=
  path = firstName path ++ "."

/-- Such a path has an empty name behind the first one, which a rule leaves out. -/
theorem EndsAtFirstDot.names {path : String} (ends : EndsAtFirstDot path) :
    innerNames path = [] ∧ Text.splitAtEach '.' path = [firstName path, ""] := by
  have characters : path.toList = (firstName path).toList ++ ['.'] :=
    (congrArg String.toList ends).trans String.toList_append
  rcases Text.splitAtEach_cases '.' path with ⟨whole, _, _⟩ | ⟨parted, cut⟩
  · have same : firstName path = path := whole.symm
    rw [same] at characters
    simp at characters
  · have nothing : (Text.splitAtFirst '.' path).2 = "" := by
      have behind := List.append_cancel_left (parted.symm.trans characters)
      exact String.toList_eq_nil_iff.mp (List.cons.inj behind).2
    refine ⟨?_, ?_⟩
    · simp [innerNames, nothing]
    · rw [cut, nothing]
      rfl

/-- Every other path has the same names for a rule and for a plugin. -/
theorem names_of_not_endsAtFirstDot {path : String} (other : ¬ EndsAtFirstDot path) :
    Text.splitAtEach '.' path = firstName path :: innerNames path := by
  rcases Text.splitAtEach_cases '.' path with ⟨whole, nothing, cut⟩ | ⟨parted, cut⟩
  · simp [innerNames, nothing, cut, firstName, ← whole]
  · have more : (Text.splitAtFirst '.' path).2 ≠ "" := by
      intro nothing
      rw [nothing] at parted
      have characters : path.toList = (firstName path ++ ".").toList := by
        rw [String.toList_append]
        exact parted
      exact other (String.toList_inj.mp characters)
    simp [innerNames, more, cut, firstName]

/-! ## Where a rule may look up -/

/-- What is remembered at some moment of resolving: nothing at first, and then what each
resolution of an entry leaves, whatever is under way. -/
inductive Reached (scales : List String) (layers : Layers) : Memory → Prop where
  | start : Reached scales layers []
  | resolved {before after : Memory} (underWay : List String) (name : String) {value : Setting}
      (reached : Reached scales layers before)
      (step : resolve scales layers underWay name before = .ok (value, after)) :
      Reached scales layers after

variable {scales : List String} {layers : Layers} {before after : Memory}
  {theme : Entries Setting}

/-- What is remembered unfolds to itself at any moment. -/
theorem Reached.unfolds (reached : Reached scales layers before) :
    Unfolds scales layers before := by
  induction reached with
  | start => exact unfolds_nil
  | resolved underWay name _ step inductionHypothesis =>
    exact (unfold_of_resolve inductionHypothesis step).1

/-- The answers that the resolved theme gives come from what the entries unfold to. -/
theorem lookIn_resolved (resolved : layers.resolved scales = .ok theme) (path : String)
    (fallback : Setting) : ∃ depth value,
      layers.unfold scales depth (Text.splitAtFirst '.' path).1 = .ok value ∧
        lookIn theme path fallback = .ok (answer value path fallback) := by
  obtain ⟨named, unfolded⟩ := Layers.resolved_eq_ok_iff.mp resolved
  cases found : Entries.get? theme (Text.splitAtFirst '.' path).1 with
  | some value =>
    obtain ⟨depth, unfolded⟩ := unfolded _ (Entries.mem_of_get? found)
    exact ⟨depth, value, unfolded, lookIn_of_get? fallback found⟩
  | none =>
    have undefined : (Text.splitAtFirst '.' path).1 ∉ layers.names := by
      rw [← named]
      exact (Entries.get?_eq_none_iff theme _).mp found
    refine ⟨1, .null, unfold_undefined undefined, ?_⟩
    rw [lookIn_of_get?_none fallback found, answer_null]

/-- A rule is answered from the resolved theme at every moment of resolving. A lookup with nothing
under way returns, and one that returns gives this answer whatever is under way. -/
theorem lookUpUnder_answers (resolved : layers.resolved scales = .ok theme)
    (reached : Reached scales layers before) (path : String) (fallback : Setting) :
    ∃ found, lookIn theme path fallback = .ok found ∧
      (∃ after, lookUpUnder scales layers [] path fallback before = .ok (found, after)) ∧
      ∀ underWay other after,
        lookUpUnder scales layers underWay path fallback before = .ok (other, after) →
          other = found := by
  obtain ⟨depth, value, unfolded, answered⟩ := lookIn_resolved resolved path fallback
  refine ⟨_, answered, ?_, ?_⟩
  · have noneUnderWay : ∀ other ∈ ([] : List String), ∀ known,
        layers.unfold scales depth other ≠ .ok known := by simp
    obtain ⟨after, step, _⟩ := resolve_of_unfold unfolded noneUnderWay reached.unfolds
    exact ⟨after, stateT_bind_eq_ok.mpr ⟨value, after, step, rfl⟩⟩
  · intro underWay other after looked
    obtain ⟨entry, between, step, ⟨⟩⟩ := stateT_bind_eq_ok.mp looked
    obtain ⟨_, further, unfoldedToo⟩ := unfold_of_resolve reached.unfolds step
    rw [unfold_unique unfoldedToo unfolded]

/-! ## Answers compared -/

/-- No value holds itself. -/
theorem get?_ne_self (entries : Entries Setting) (name : String) :
    Entries.get? entries name ≠ some (.mapping entries) := by
  intro found
  have smaller := List.sizeOf_lt_of_mem (Entries.mem_of_get? found)
  simp only [Prod.mk.sizeOf_spec, Value.mapping.sizeOf_spec] at smaller
  omega

/-- Behind the first dot of such a path a rule finds the entry itself, which is no more than a
plugin's fallback only if a plugin finds nothing there. -/
theorem lookIn_eq_iff_of_endsAtFirstDot {path : String} (ends : EndsAtFirstDot path)
    (theme : Entries Setting) (fallback : Setting) :
    lookIn theme path fallback =
        .ok ((walk (.mapping theme) (Text.splitAtEach '.' path)).getD fallback) ↔
      ∀ value, Entries.get? theme (firstName path) = some value →
        value = .null ∨ value = fallback ∧ walk value [""] = none := by
  obtain ⟨inner, names⟩ := ends.names
  rw [names]
  cases found : Entries.get? theme (firstName path) with
  | none => simp [lookIn_of_get?_none fallback found, walk, found]
  | some value =>
    have followed : walk (.mapping theme) [firstName path, ""] = walk value [""] := by
      simp only [walk, found]
    rw [lookIn_of_get? fallback found, followed, answer, inner]
    cases value with
    | null => simp [walk]
    | mapping entries =>
      cases within : Entries.get? entries "" with
      | none => simp [walk, within]
      | some inside =>
        have different : Value.mapping entries ≠ inside := by
          rintro rfl
          exact get?_ne_self entries "" within
        simp [walk, within, different]
    | _ => simp [walk]

/-- At the end of any other path both find the same, and only a null is another thing to each. -/
theorem lookIn_eq_iff_of_not_endsAtFirstDot {path : String} (other : ¬ EndsAtFirstDot path)
    (theme : Entries Setting) (fallback : Setting) :
    lookIn theme path fallback =
        .ok ((walk (.mapping theme) (Text.splitAtEach '.' path)).getD fallback) ↔
      (walk (.mapping theme) (Text.splitAtEach '.' path) = some .null → fallback = .null) := by
  rw [names_of_not_endsAtFirstDot other, lookIn, ← firstName]
  cases walk (.mapping theme) (firstName path :: innerNames path) with
  | none => simp
  | some value => cases value <;> simp

/-- When a rule and a plugin are given the same for a path. Unless the path ends right after its
first dot, nothing but a null tells them apart, and this only for a fallback that is not null.
Otherwise they are given the same only if there is no such entry, or it is null, or it is the
fallback and has nothing under the empty name. -/
def AnsweredAlike (theme : Entries Setting) (path : String) (fallback : Setting) : Prop :=
  (¬ EndsAtFirstDot path →
    walk (.mapping theme) (Text.splitAtEach '.' path) = some .null → fallback = .null) ∧
  (EndsAtFirstDot path → ∀ value, Entries.get? theme (firstName path) = some value →
    value = .null ∨ value = fallback ∧ walk value [""] = none)

/-- The answers of a theme to a rule and to a plugin are the same exactly then. -/
theorem lookIn_eq_iff_answeredAlike (theme : Entries Setting) (path : String) (fallback : Setting) :
    lookIn theme path fallback =
        .ok ((walk (.mapping theme) (Text.splitAtEach '.' path)).getD fallback) ↔
      AnsweredAlike theme path fallback := by
  rw [AnsweredAlike]
  by_cases ends : EndsAtFirstDot path
  · rw [lookIn_eq_iff_of_endsAtFirstDot ends]
    exact ⟨fun alike => ⟨fun other => absurd ends other, fun _ => alike⟩, fun alike => alike.2 ends⟩
  · rw [lookIn_eq_iff_of_not_endsAtFirstDot ends]
    exact ⟨fun alike => ⟨fun _ => alike, fun other => absurd other ends⟩, fun alike => alike.1 ends⟩

end Theme

namespace Config

open Theme

/-- When configurations are accepted, every path and every fallback give a rule one answer, at
whatever moment of resolving it asks, and a plugin one answer. Both come from the resolved theme,
and `AnsweredAlike` says exactly when they are the same. A lookup that returns finds what the name
has in the resolved theme, and with nothing under way it does return. What remains is to compare
two walks through this theme. -/
theorem lookups_agree_iff {configs : List Setting} {resolved : Setting}
    (returned : resolve configs = .ok resolved) :
    ∃ theme, entry resolved "theme" = .ok (some (.mapping theme)) ∧
      ∀ path fallback, ∃ toRule toPlugin,
        (∀ before, Reached scaleNames (layersOf configs) before →
          (∃ after, lookUpUnder scaleNames (layersOf configs) [] path fallback before =
            .ok (toRule, after)) ∧
          ∀ underWay found after,
            lookUpUnder scaleNames (layersOf configs) underWay path fallback before =
              .ok (found, after) → found = toRule) ∧
        themeAt resolved path fallback = .ok toPlugin ∧
        (toRule = toPlugin ↔ AnsweredAlike theme path fallback) := by
  obtain ⟨_, theme, settled, rfl⟩ := resolve_eq_ok_iff.mp returned
  have beside := (Entries.get?_eq_none_iff _ "theme").mpr (theme_not_mem_settings configs)
  have stands := entry_theme beside theme
  refine ⟨theme, stands, fun path fallback => ?_⟩
  obtain ⟨toRule, answered, _⟩ := lookUpUnder_answers settled .start path fallback
  refine ⟨toRule, (walk (.mapping theme) (Text.splitAtEach '.' path)).getD fallback, ?_, ?_, ?_⟩
  · intro before reached
    obtain ⟨found, answeredToo, looked⟩ := lookUpUnder_answers settled reached path fallback
    cases answered.symm.trans answeredToo
    exact looked
  · rw [themeAt, stands]
    rfl
  · rw [← lookIn_eq_iff_answeredAlike, answered, Except.ok.injEq]

/-- A null, a mapping, and a rule that looks up the null. -/
def blank : List Setting := [
  .mapping [("theme", .mapping [
    ("gap", .null),
    ("sizes", .mapping []),
    ("copy", .rule (.lookup "gap" (.text "none")))])]]

/-- The configuration with the rule's own answer. -/
def blankResolved : Setting :=
  .mapping [("theme", .mapping [("gap", .null), ("sizes", .mapping []), ("copy", .text "none")])]

/-- Where a null stands, the answers are not the same. -/
theorem lookups_agree_iff_blank : resolve blank = .ok blankResolved ∧ ∃ toRule toPlugin,
    (∃ after, lookUpUnder scaleNames (layersOf blank) [] "gap" (.text "none") [] =
      .ok (toRule, after)) ∧
    themeAt blankResolved "gap" (.text "none") = .ok toPlugin ∧ toRule ≠ toPlugin := by
  have returned : resolve blank = .ok blankResolved := by
    with_unfolding_all rfl
  obtain ⟨theme, stands, each⟩ := lookups_agree_iff returned
  cases stands
  obtain ⟨toRule, toPlugin, looked, found, same⟩ := each "gap" (.text "none")
  refine ⟨returned, toRule, toPlugin, (looked [] .start).1, found, ?_⟩
  rw [Ne, same]
  rintro ⟨null, _⟩
  have whole : ¬ EndsAtFirstDot "gap" := by
    unfold EndsAtFirstDot
    decide
  cases null whole rfl

/-- A rule gets its fallback for the null, and a plugin the null. For a path with nothing behind its
first dot a rule gets the entry, and a plugin its fallback. -/
theorem lookups_disagree : resolve blank = .ok blankResolved ∧
    (∃ after, lookUpUnder scaleNames (layersOf blank) [] "gap" (.text "none") [] =
      .ok (.text "none", after)) ∧
    themeAt blankResolved "gap" (.text "none") = .ok .null ∧
    (∃ after, lookUpUnder scaleNames (layersOf blank) [] "sizes." (.text "none") [] =
      .ok (.mapping [], after)) ∧
    themeAt blankResolved "sizes." (.text "none") = .ok (.text "none") := by
  refine ⟨?_, ⟨[("gap", .null)], ?_⟩, ?_, ⟨[("sizes", .mapping [])], ?_⟩, ?_⟩
  all_goals with_unfolding_all rfl

end Config

end ClassOrder
