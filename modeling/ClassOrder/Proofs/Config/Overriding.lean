import ClassOrder.Proofs.Config.Shape

/-!
# One scale overridden

A configuration may do no more than say what one scale of the theme holds. It is resolved
over the defaults without fail, the scale holds what it says, and every other scale is the
default one, whose rule has then looked up the scale that was overridden. So the padding and
the margin follow the spacing, and the colours of texts follow the colours.
-/
namespace ClassOrder.Config

open Fallible Theme

variable {config resolved : Setting} {scale name : String} {entries : Entries Setting}

/-- A configuration that says what one scale holds, and nothing else. -/
def overriding (scale : String) (entries : Entries Setting) : Setting :=
  .mapping [("theme", .mapping [(scale, .mapping entries)])]

/-- No scale is called like the part of a theme that extends it. -/
theorem ne_extend_of_scale (listed : name ∈ scaleNames) : name ≠ "extend" := by
  rintro rfl
  revert listed
  decide

/-- All that is defined is the scale. -/
theorem definition_overriding (listed : scale ∈ scaleNames) (entries : Entries Setting)
    (name : String) : definition name (overriding scale entries) =
      if name = scale then some (.mapping entries) else none := by
  have theme : themeOf (overriding scale entries) = [(scale, .mapping entries)] := rfl
  rw [definition, theme, Entries.get?_cons]
  by_cases reserved : name = "extend"
  · rw [if_pos reserved, if_neg (reserved ▸ (ne_extend_of_scale listed).symm)]
  · simp [reserved, Entries.get?]

/-- Nothing is extended. -/
theorem get?_extend_overriding (listed : scale ∈ scaleNames) (entries : Entries Setting) :
    Entries.get? (themeOf (overriding scale entries)) "extend" = none := by
  have theme : themeOf (overriding scale entries) = [(scale, .mapping entries)] := rfl
  have different : "extend" ≠ scale := (ne_extend_of_scale listed).symm
  rw [theme, Entries.get?_cons]
  simp [different, Entries.get?]

/-- A configuration that overrides a scale extends nothing. -/
theorem extensionOf_overriding (listed : scale ∈ scaleNames) (entries : Entries Setting) :
    extensionOf (overriding scale entries) = [] := by
  rw [extensionOf, get?_extend_overriding listed]
  rfl

/-- The scale is stated as it is, whatever it holds. -/
theorem statesData_overriding (listed : scale ∈ scaleNames) (entries : Entries Setting) :
    StatesData (overriding scale entries) where
  definitions := by
    intro name rule
    rw [definition_overriding listed]
    split <;> simp
  extensions := by
    intro name rule
    rw [extensionOf_overriding listed]
    simp [Entries.get?]

/-- The configuration is resolved over the defaults. -/
theorem exists_resolve_overriding (listed : scale ∈ scaleNames) (entries : Entries Setting) :
    ∃ resolved, resolve [overriding scale entries, defaults] = .ok resolved ∧
      SettledFor (overriding scale entries) resolved := by
  have data := statesData_overriding listed entries
  have shaped : ∀ entries : Entries Setting, ¬ Misshapen (some (.mapping entries)) := by
    rintro entries ⟨_, ⟨⟩, shapeless⟩
    exact shapeless trivial
  have absent : ¬ Misshapen none := by
    rintro ⟨_, ⟨⟩, _⟩
  have unextended :
      ¬ Misshapen (Entries.get? (themeOf (overriding scale entries)) "extend") := by
    rw [get?_extend_overriding listed]
    exact absent
  have lastWords : ∀ name ∈ scaleNames,
      ¬ Misshapen (lastWord name (overriding scale entries)) := by
    intro name _
    rw [lastWord, extensionOf_overriding listed, definition_overriding listed]
    split
    · exact shaped entries
    · exact absent
  have accepted := (exists_resolve_iff data ⟨_, rfl⟩).mpr ⟨shaped _, unextended, lastWords⟩
  obtain ⟨resolved, returned⟩ := accepted
  rcases resolve_data_cases data with ⟨cause, refused⟩ | ⟨other, returnedToo, settled⟩
  · cases refused.symm.trans returned
  · exact ⟨other, returnedToo, settled⟩

/-- The scales of a resolved configuration are those of one theme, and each is what it has to be
in this theme. -/
theorem exists_theme (returned : resolve [config, defaults] = .ok resolved) :
    ∃ theme, ∀ name ∈ scaleNames, ∃ value, Entries.get? theme name = some value ∧
      lateBound [config, defaults] theme name = .ok value ∧
        ∀ fallback, themeAt resolved name fallback = .ok value := by
  obtain ⟨gathered, read, returned⟩ := bind_eq_ok.mp returned
  obtain ⟨theme, settled, ⟨⟩⟩ := bind_eq_ok.mp returned
  exact ⟨theme, fun _ scale => scale_of_resolved read settled scale⟩

/-- The overridden scale holds what the configuration says, and any other scale is evaluated from
its default in a theme that has this one. -/
theorem exists_theme_overriding (listed : scale ∈ scaleNames)
    (returned : resolve [overriding scale entries, defaults] = .ok resolved) :
    ∃ theme, Entries.get? theme scale = some (.mapping entries) ∧
      ∀ name ∈ scaleNames, name ≠ scale → ∀ fallback,
        themeAt resolved name fallback =
          evaluate (lookIn theme) ((definition name defaults).getD .null) := by
  obtain ⟨theme, scales⟩ := exists_theme returned
  have unextended (name : String) (value : Setting) :
      extendFrom theme name value (overriding scale entries) = .ok value := by
    rw [extendFrom, extensionOf_overriding listed]
    rfl
  refine ⟨theme, ?_, fun name isScale different fallback => ?_⟩
  · obtain ⟨value, found, bound, _⟩ := scales scale listed
    rw [lateBound_over_defaults, definition_overriding listed, if_pos rfl] at bound
    obtain ⟨start, ⟨⟩, bound⟩ := bind_eq_ok.mp bound
    cases (unextended _ _).symm.trans bound
    exact found
  · obtain ⟨value, _, bound, answered⟩ := scales name isScale
    rw [lateBound_over_defaults, definition_overriding listed, if_neg different,
      Option.none_or] at bound
    obtain ⟨start, evaluated, bound⟩ := bind_eq_ok.mp bound
    cases (unextended _ _).symm.trans bound
    rw [answered, evaluated]

/-- A rule that looks a scale up finds what the configuration says about it. -/
theorem lookIn_overriding {theme : Entries Setting} (whole : innerNames scale = [])
    (single : (Text.splitAtFirst '.' scale).1 = scale)
    (found : Entries.get? theme scale = some (.mapping entries)) (fallback : Setting) :
    lookIn theme scale fallback = .ok (.mapping entries) := by
  rw [lookIn_of_get? fallback (single ▸ found)]
  simp [answer, walk, whole]

/-! ## The scales that follow -/

/-- The padding is the spacing. -/
theorem themeAt_padding
    (returned : resolve [overriding "spacing" entries, defaults] = .ok resolved)
    (fallback : Setting) : themeAt resolved "padding" fallback = .ok (.mapping entries) := by
  obtain ⟨theme, found, others⟩ := exists_theme_overriding (by decide) returned
  have byDefault : definition "padding" defaults = some (.rule (entryOf "spacing")) := by
    with_unfolding_all rfl
  rw [others "padding" (by decide) (by decide), byDefault]
  exact lookIn_overriding (by decide) (by decide) found _

/-- The margin is the automatic one, the spacing and its negation, each written over what stands
before it. -/
theorem themeAt_margin
    (returned : resolve [overriding "spacing" entries, defaults] = .ok resolved)
    (fallback : Setting) : themeAt resolved "margin" fallback =
      .ok (.mapping (Entries.merge (Entries.merge [("auto", .text "auto")] entries)
        (negatedEntries entries))) := by
  obtain ⟨theme, found, others⟩ := exists_theme_overriding (by decide) returned
  have byDefault : definition "margin" defaults = some (.rule margins) := by
    with_unfolding_all rfl
  have spacing : (entryOf "spacing").run (lookIn theme) = .ok (.mapping entries) :=
    lookIn_overriding (by decide) (by decide) found _
  have negation : (ThemeRule.negative (entryOf "spacing")).run (lookIn theme) =
      .ok (.mapping (negatedEntries entries)) :=
    bind_eq_ok.mpr ⟨_, spacing, rfl⟩
  rw [others "margin" (by decide) (by decide), byDefault]
  exact bind_eq_ok.mpr ⟨_, rfl, bind_eq_ok.mpr ⟨_, rfl, bind_eq_ok.mpr ⟨_, spacing,
    bind_eq_ok.mpr ⟨_, rfl, bind_eq_ok.mpr ⟨_, negation, bind_eq_ok.mpr ⟨_, rfl, rfl⟩⟩⟩⟩⟩⟩

/-- The colours of texts are the colours. -/
theorem themeAt_textColor
    (returned : resolve [overriding "colors" entries, defaults] = .ok resolved)
    (fallback : Setting) : themeAt resolved "textColor" fallback = .ok (.mapping entries) := by
  obtain ⟨theme, found, others⟩ := exists_theme_overriding (by decide) returned
  have byDefault : definition "textColor" defaults = some (.rule (entryOf "colors")) := by
    with_unfolding_all rfl
  rw [others "textColor" (by decide) (by decide), byDefault]
  exact lookIn_overriding (by decide) (by decide) found _

end ClassOrder.Config
