import ClassOrder.Proofs.Config.Refusal
import ClassOrder.Proofs.Theme.Unfolding

/-!
# Which configurations of plain data are refused

Laid over the defaults, a configuration of data is refused for the shape of what it says
itself, and for nothing else: its theme, the extension of the theme, and its last word on
each scale must be null or a mapping. What stands below the last word does not count. A
definition of another shape is mended by an extension that is a mapping, and a definition
that is a mapping is spoilt by an extension that is not.

The defaults never make a configuration fail. Their rules spread the spacing and the
colours, which are data and passed the check before a rule sees them, so every entry
unfolds to a depth of two.
-/
namespace ClassOrder

open Fallible Theme

/-! ## Scales that are in shape -/

namespace Theme

/-- A layer over another value has the shape of a scale exactly when it has it by itself. -/
theorem isScale_overlay_iff (below above : Setting) :
    IsScale (overlay below above) ↔ IsScale above := by
  cases below <;> cases above <;> exact Iff.rfl

/-- A value that a scale may have passes the check. -/
theorem checkScale_of_isScale {scales : List String} {name : String} {value : Setting}
    (shaped : name ∈ scales → IsScale value) : checkScale scales name value = .ok () := by
  cases value with
  | null => rfl
  | mapping entries => rfl
  | _ =>
    have beside : name ∉ scales := fun scale => shaped scale
    simp [checkScale, beside]

/-- And a scale that passes the check has such a value. -/
theorem isScale_of_checkScale {scales : List String} {name : String} {value : Setting}
    (scale : name ∈ scales) (passed : checkScale scales name value = .ok ()) : IsScale value := by
  rcases checkScale_cases scales name value with ⟨cause, refused⟩ | ⟨_, shaped⟩
  · cases refused.symm.trans passed
  · exact shaped scale

end Theme

namespace Config

/-- A part of a configuration that is there, and is neither null nor a mapping. -/
def Misshapen (part : Option Setting) : Prop :=
  ∃ value, part = some value ∧ ¬ IsScale value

variable {config : Setting} {name : String} {value : Setting}

/-- What is there and is not misshapen may be the value of a scale. -/
theorem isScale_of_not_misshapen (shaped : ¬ Misshapen (some value)) : IsScale value :=
  Classical.byContradiction fun shapeless => shaped ⟨value, rfl, shapeless⟩

/-! ## Reading the configuration -/

/-- A part is read unless it is misshapen. -/
theorem exists_part_iff (name : String) (value : Option Setting) :
    (∃ entries, part name value = .ok entries) ↔ ¬ Misshapen value := by
  cases value with
  | none => simp [part, Misshapen]
  | some value => cases value <;> simp [part, Misshapen, IsScale]

/-- A mapping can be read unless its theme or the extension of that is misshapen. -/
theorem readable_mapping_iff (entries : Entries Setting) : Readable (.mapping entries) ↔
    ¬ Misshapen (settingOf "theme" (.mapping entries)) ∧
      ¬ Misshapen (Entries.get? (themeOf (.mapping entries)) "extend") := by
  rw [← exists_part_iff "theme", ← exists_part_iff "theme.extend"]
  constructor
  · rintro ⟨_, theme, extension, ⟨⟩, read, readToo⟩
    have own : theme = themeOf (.mapping entries) := part_eq_ok read
    exact ⟨⟨theme, read⟩, extension, own ▸ readToo⟩
  · rintro ⟨⟨theme, read⟩, extension, readToo⟩
    have own : theme = themeOf (.mapping entries) := part_eq_ok read
    exact ⟨entries, theme, extension, rfl, read, own ▸ readToo⟩

/-- The defaults can be read. -/
theorem readable_defaults : Readable defaults :=
  ⟨_, _, _, rfl, rfl, rfl⟩

/-! ## What an entry comes to -/

/-- An entry over the defaults comes to its definition, with the extension laid over it. -/
theorem settle_over_defaults (data : StatesData config) (answers : Answering) (name : String) :
    (layersOf [config, defaults]).settle answers name = do
      let start ← evaluate answers
        (((definition name config).or (definition name defaults)).getD .null)
      return (Entries.get? (extensionOf config) name).elim start (overlay start) := by
  have defined : Entries.get? (layersOf [config, defaults]).base name =
      (definition name config).or (definition name defaults) := by
    rw [layersOf, get?_foldl_fillIn, findSome?_over_defaults, get?_definitionsOf,
      get?_definitionsOf]
    rfl
  have extensions : (layersOf [config, defaults]).extensions = [[], extensionOf config] := by
    change [extensionOf defaults, extensionOf config] = _
    rw [themeOf_defaults.2]
  rw [Layers.settle, defined, extensions]
  refine bind_congr fun start => ?_
  change extend answers name [extensionOf config] start = _
  rw [extend]
  cases extension : Entries.get? (extensionOf config) name with
  | none => rfl
  | some layer =>
    have kept : evaluate answers layer = .ok layer :=
      evaluate_of_ne_rule fun rule same => data.extensions name rule (same ▸ extension)
    simp only [kept]
    rfl

/-- What an entry comes to has the shape of a scale only if the last word on it has. -/
theorem not_misshapen_of_settle {answers : Answering} (data : StatesData config)
    (settled : (layersOf [config, defaults]).settle answers name = .ok value)
    (shaped : IsScale value) : ¬ Misshapen (lastWord name config) := by
  rintro ⟨last, said, shapeless⟩
  rw [settle_over_defaults data] at settled
  obtain ⟨start, evaluated, ⟨⟩⟩ := bind_eq_ok.mp settled
  cases extension : Entries.get? (extensionOf config) name with
  | some layer =>
    rw [lastWord, extension, Option.some_or] at said
    rw [extension] at shaped
    cases said
    exact shapeless ((isScale_overlay_iff start last).mp shaped)
  | none =>
    rw [lastWord, extension, Option.none_or] at said
    rw [extension] at shaped
    rw [said, Option.some_or, Option.getD_some,
      evaluate_of_ne_rule fun rule same => data.definitions name rule (same ▸ said)] at evaluated
    cases evaluated
    exact shapeless shaped

/-- An entry unfolds where the default does and is in shape, unless it is a scale and the last
word on it is misshapen. -/
theorem unfold_of_default {depth : Nat} (data : StatesData config)
    (shaped : name ∈ scaleNames → ¬ Misshapen (lastWord name config))
    (inShape : ∃ byDefault, IsScale byDefault ∧
      evaluate ((layersOf [config, defaults]).answersWithin scaleNames depth)
        ((definition name defaults).getD .null) = .ok byDefault) :
    ∃ value, (layersOf [config, defaults]).unfold scaleNames (depth + 1) name = .ok value := by
  obtain ⟨byDefault, shapedDefault, evaluated⟩ := inShape
  have started : ∃ start,
      evaluate ((layersOf [config, defaults]).answersWithin scaleNames depth)
        (((definition name config).or (definition name defaults)).getD .null) = .ok start ∧
      (name ∈ scaleNames → Entries.get? (extensionOf config) name = none → IsScale start) := by
    cases defined : definition name config with
    | some own =>
      refine ⟨own, evaluate_of_ne_rule fun rule same =>
        data.definitions name rule (same ▸ defined), fun scale missing => ?_⟩
      have said : lastWord name config = some own := by
        rw [lastWord, missing, Option.none_or, defined]
      exact isScale_of_not_misshapen (said ▸ shaped scale)
    | none => exact ⟨byDefault, evaluated, fun _ _ => shapedDefault⟩
  obtain ⟨start, evaluated, shapedStart⟩ := started
  refine ⟨(Entries.get? (extensionOf config) name).elim start (overlay start),
    unfold_succ_eq_ok.mpr ⟨?_, checkScale_of_isScale fun scale => ?_⟩⟩
  · rw [settle_over_defaults data, evaluated]
    rfl
  · cases extension : Entries.get? (extensionOf config) name with
    | some layer =>
      have said : lastWord name config = some layer := by
        rw [lastWord, extension, Option.some_or]
      exact (isScale_overlay_iff start layer).mpr (isScale_of_not_misshapen (said ▸ shaped scale))
    | none => exact shapedStart scale extension

/-- The spacing and the colours unfold to scales before any rule is run. -/
theorem unfold_foundation (data : StatesData config)
    (shaped : ∀ scale ∈ scaleNames, ¬ Misshapen (lastWord scale config))
    (foundation : name ∈ foundations) :
    ∃ value, (layersOf [config, defaults]).unfold scaleNames 1 name = .ok value := by
  have byDefault : ∃ entries, definition name defaults = some (.mapping entries) := by
    simp only [foundations, List.mem_cons, List.not_mem_nil, or_false] at foundation
    rcases foundation with rfl | rfl
    · exact ⟨_, congrArg (Entries.get? · "spacing") themeOf_defaults.1⟩
    · exact ⟨_, congrArg (Entries.get? · "colors") themeOf_defaults.1⟩
  obtain ⟨entries, defined⟩ := byDefault
  exact unfold_of_default data (shaped name) ⟨.mapping entries, trivial, by rw [defined]; rfl⟩

/-- Every entry unfolds, to a depth of two, when no last word on a scale is misshapen. -/
theorem unfold_over_defaults (data : StatesData config)
    (shaped : ∀ scale ∈ scaleNames, ¬ Misshapen (lastWord scale config)) (name : String) :
    ∃ value, (layersOf [config, defaults]).unfold scaleNames 2 name = .ok value := by
  have told : ∀ path fallback, (Text.splitAtFirst '.' path).1 ∈ foundations →
      returning.Yields (fun value => ∃ entry, IsScale entry ∧ value = answer entry path fallback)
        ((layersOf [config, defaults]).answersWithin scaleNames 1 path fallback) := by
    intro path fallback foundation
    obtain ⟨entry, unfolded⟩ := unfold_foundation data shaped foundation
    have shapedEntry : IsScale entry :=
      isScale_of_checkScale (scale_of_foundation _ foundation) (checkScale_of_unfold unfolded)
    exact ⟨_, answersWithin_eq_ok.mpr ⟨entry, unfolded, rfl⟩, entry, shapedEntry, rfl⟩
  cases defined : definition name defaults with
  | none => exact unfold_of_default data (shaped name) ⟨.null, trivial, by rw [defined]; rfl⟩
  | some value =>
    rcases defaultTheme_builds _ (mem_defaultTheme defined) with
      ⟨entries, rfl⟩ | ⟨rule, rfl, yields⟩
    · exact unfold_of_default data (shaped name) ⟨.mapping entries, trivial, by rw [defined]; rfl⟩
    · obtain ⟨_, ran, entries, rfl⟩ := returning.run_yields told yields
      exact unfold_of_default data (shaped name)
        ⟨.mapping entries, trivial, by rw [defined]; exact ran⟩

/-! ## What is refused -/

/-- A mapping of data is resolved over the defaults exactly when nothing in it is misshapen. -/
theorem exists_resolve_iff (data : StatesData config)
    (mapping : ∃ entries, config = .mapping entries) :
    (∃ resolved, resolve [config, defaults] = .ok resolved) ↔
      ¬ Misshapen (settingOf "theme" config) ∧
      ¬ Misshapen (Entries.get? (themeOf config) "extend") ∧
      ∀ scale ∈ scaleNames, ¬ Misshapen (lastWord scale config) := by
  have readable_iff : Readable config ↔ ¬ Misshapen (settingOf "theme" config) ∧
      ¬ Misshapen (Entries.get? (themeOf config) "extend") := by
    obtain ⟨entries, rfl⟩ := mapping
    exact readable_mapping_iff entries
  rw [← and_assoc, ← readable_iff]
  constructor
  · rintro ⟨resolved, returned⟩
    obtain ⟨readable, theme, settled, _⟩ := resolve_eq_ok_iff.mp returned
    refine ⟨readable _ List.mem_cons_self, fun scale member => ?_⟩
    obtain ⟨named, unfolded⟩ := Layers.resolved_eq_ok_iff.mp settled
    obtain ⟨gathered, read, same⟩ := exists_gather readable
    obtain ⟨byDefault, defined, _⟩ := definition_defaults member
    have listed : scale ∈ Entries.names theme := by
      rw [named, ← same, mem_layers_names_iff read]
      exact ⟨defaults, by simp, .inl (by simp [defined])⟩
    obtain ⟨value, found⟩ := Option.isSome_iff_exists.mp
      ((Entries.get?_isSome_iff theme scale).mpr listed)
    obtain ⟨depth, unfolded⟩ := unfolded _ (Entries.mem_of_get? found)
    have inShape : IsScale value := isScale_of_checkScale member (checkScale_of_unfold unfolded)
    cases depth with
    | zero => cases unfolded
    | succ depth => exact not_misshapen_of_settle data (unfold_succ_eq_ok.mp unfolded).1 inShape
  · rintro ⟨readable, shaped⟩
    obtain ⟨valueOf, unfolded⟩ := Classical.skolem.mp (unfold_over_defaults data shaped)
    have readableToo : ∀ reading ∈ [config, defaults], Readable reading := by
      simp [readable, readable_defaults]
    have settled : (layersOf [config, defaults]).resolved scaleNames =
        .ok ((layersOf [config, defaults]).names.map fun name => (name, valueOf name)) := by
      refine Layers.resolved_eq_ok_iff.mpr ⟨?_, ?_⟩
      · simp [Entries.names, Function.comp_def]
      · simp only [List.forall_mem_map]
        exact fun name _ => ⟨2, unfolded name⟩
    exact ⟨_, resolve_eq_ok_iff.mpr ⟨readableToo, _, settled, rfl⟩⟩

/-- A configuration of data over the defaults is refused exactly when its theme, or the extension
of the theme, or its last word on some scale is neither null nor a mapping. The fault is then
always one of the configuration, and never one of a default rule that could not be run. A default
rule only looks up entries that are no rules, so every entry unfolds to a depth of two when
nothing is misshapen. What data resolves to is never another fault than one of the configuration. -/
theorem resolve_refuses_misshapen (user : Entries Plain) :
    ((∃ fault, resolve [.ofPlain (.mapping user), defaults] = .error fault) ↔
      Misshapen (settingOf "theme" (.ofPlain (.mapping user))) ∨
      Misshapen (Entries.get? (themeOf (.ofPlain (.mapping user))) "extend") ∨
      ∃ scale ∈ scaleNames, Misshapen (lastWord scale (.ofPlain (.mapping user)))) ∧
    ∀ fault, resolve [.ofPlain (.mapping user), defaults] = .error fault →
      ∃ cause, fault = .config cause := by
  have data : StatesData (.ofPlain (.mapping user)) := statesData_ofPlain _
  have accepted := exists_resolve_iff data ⟨_, rfl⟩
  rcases resolve_data_cases data with ⟨cause, refused⟩ | ⟨resolved, returned, _⟩
  · refine ⟨⟨fun _ => ?_, fun _ => ⟨_, refused⟩⟩, fun fault known => ?_⟩
    · refine Classical.byContradiction fun shaped => ?_
      simp only [not_or, not_exists, not_and] at shaped
      obtain ⟨resolved, returned⟩ := accepted.mpr shaped
      cases refused.symm.trans returned
    · exact ⟨cause, Except.error.inj (known.symm.trans refused)⟩
  · have shaped := accepted.mp ⟨resolved, returned⟩
    refine ⟨⟨?_, ?_⟩, ?_⟩
    · rintro ⟨fault, refused⟩
      cases returned.symm.trans refused
    · rintro (theme | extension | ⟨scale, member, last⟩)
      · exact absurd theme shaped.1
      · exact absurd extension shaped.2.1
      · exact absurd last (shaped.2.2 scale member)
    · intro fault refused
      cases returned.symm.trans refused

/-- Colours that are no mapping, mended by an extension. -/
def mended : Entries Plain :=
  [("theme", .mapping [("colors", .text "none"), ("extend", .mapping [("colors", .mapping [])])])]

/-- Colours that are a mapping, spoilt by an extension. -/
def spoilt : Entries Plain :=
  [("theme", .mapping [("colors", .mapping []), ("extend", .mapping [("colors", .text "none")])])]

/-- The extension has the last word: the former is resolved, and the latter is refused. -/
theorem resolve_refuses_misshapen_last_word :
    (∃ resolved, resolve [.ofPlain (.mapping mended), defaults] = .ok resolved) ∧
      ∃ cause, resolve [.ofPlain (.mapping spoilt), defaults] = .error (.config cause) := by
  obtain ⟨mendedRefused, _⟩ := resolve_refuses_misshapen mended
  obtain ⟨spoiltRefused, spoiltFaults⟩ := resolve_refuses_misshapen spoilt
  have colors : lastWord "colors" (.ofPlain (.mapping mended)) = some (.mapping []) := rfl
  have others : ∀ name, name ≠ "colors" → lastWord name (.ofPlain (.mapping mended)) = none := by
    intro name other
    have extension : extensionOf (.ofPlain (.mapping mended)) = [("colors", .mapping [])] := rfl
    have theme : themeOf (.ofPlain (.mapping mended)) =
      [("colors", .text "none"), ("extend", .mapping [("colors", .mapping [])])] := rfl
    by_cases reserved : name = "extend" <;>
      simp [lastWord, definition, extension, theme, Entries.get?, other, reserved]
  have accepted : ¬ ∃ fault, resolve [.ofPlain (.mapping mended), defaults] = .error fault := by
    rw [mendedRefused]
    rintro (⟨theme, stands, shapeless⟩ | ⟨extension, stands, shapeless⟩ |
      ⟨scale, _, value, said, shapeless⟩)
    · cases stands
      exact shapeless trivial
    · cases stands
      exact shapeless trivial
    · by_cases same : scale = "colors"
      · cases colors.symm.trans (same ▸ said)
        exact shapeless trivial
      · cases (others scale same).symm.trans said
  refine ⟨?_, ?_⟩
  · cases outcome : resolve [.ofPlain (.mapping mended), defaults] with
    | error fault => exact absurd ⟨fault, outcome⟩ accepted
    | ok resolved => exact ⟨resolved, rfl⟩
  · obtain ⟨fault, refused⟩ := spoiltRefused.mpr
      (.inr (.inr ⟨"colors", by decide, .text "none", rfl, id⟩))
    obtain ⟨cause, rfl⟩ := spoiltFaults fault refused
    exact ⟨cause, refused⟩

end Config

end ClassOrder
