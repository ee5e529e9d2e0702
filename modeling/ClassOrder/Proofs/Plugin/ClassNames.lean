import Mathlib.Data.List.Nodup
import ClassOrder.Proofs.Style.Escaping
import ClassOrder.Proofs.Style.Traversal

/-!
# Class names that tell their entry

The class name of an entry is put together from the base of the plugin and the name of the
entry. Where the base has no minus of its own, both can be read off again: a leading minus
is that of the entry, the base goes up to the next minus, and the entry follows it. So
entries with different names have different classes, and so have entries of different bases,
whatever the names are: empty, `default`, or made of minus signs.

A class name without blanks and backslashes is what its selector names, and therefore what
the rule for it puts into the index.
-/
namespace ClassOrder

/-- Neither a blank nor a backslash is in a name. -/
def Selector.Whole (name : String) : Prop :=
  ∀ c ∈ name.toList, Text.isBlank c = false ∧ c ≠ '\\'

/-- Whether a name is whole is decided by its characters. -/
instance : DecidablePred Selector.Whole := fun name =>
  List.decidableBAll (fun c => Text.isBlank c = false ∧ c ≠ '\\') name.toList

/-- Two names put together are whole exactly when both are. -/
theorem Selector.whole_append_iff {front back : String} :
    Whole (front ++ back) ↔ Whole front ∧ Whole back := by
  rw [Whole, String.toList_append, List.forall_mem_append]
  rfl

namespace Plugin

open Selector

variable {base other name key : String}

/-- A base that can be told from the entry behind it. -/
structure IsBase (base : String) : Prop where
  nonempty : base ≠ ""
  unsigned : '-' ∉ base.toList
  whole : Whole base

/-- A base stays one with more letters behind it. -/
theorem IsBase.append (isBase : IsBase base) {letters : String} (unsigned : '-' ∉ letters.toList)
    (whole : Whole letters) : IsBase (base ++ letters) where
  nonempty := by simp [isBase.nonempty]
  unsigned := by simp [isBase.unsigned, unsigned]
  whole := whole_append_iff.mpr ⟨isBase.whole, whole⟩

/-! ## How class names are put together -/

/-- The default key leaves the base as it is. -/
theorem className_default (base : String) : className base "default" = base :=
  if_pos rfl

/-- A key that begins with a minus gives it to the base. -/
theorem className_minus (base rest : String) :
    className base ("-" ++ rest) = "-" ++ base ++ "-" ++ rest := by
  have signed : ("-" ++ rest).toList = '-' :: rest.toList := String.toList_append
  have different : ("-" ++ rest == "default") = false := by
    rw [beq_eq_false_iff_ne]
    intro same
    have characters := congrArg String.toList same
    rw [signed] at characters
    exact absurd (List.cons.inj characters).1 (by decide)
  rw [className, different, if_neg Bool.false_ne_true, signed]
  simp

/-- Any other key follows the base behind a hyphen. -/
theorem className_plain (different : name ≠ "default") (unsigned : ∀ rest, name ≠ "-" ++ rest)
    (base : String) : className base name = base ++ "-" ++ name := by
  rw [className, if_neg (by simpa using different)]
  split
  · rename_i rest characters
    refine absurd ?_ (unsigned (String.ofList rest))
    rw [← String.toList_inj, characters, String.toList_append, String.toList_ofList]
    simp
  · rfl

/-- An entry is the default one, or has a leading minus, or is plain. -/
theorem className_cases (name : String) :
    name = "default" ∨ (∃ rest, name = "-" ++ rest) ∨
      (name ≠ "default" ∧ ∀ rest, name ≠ "-" ++ rest) := by
  by_cases default : name = "default"
  · exact .inl default
  · by_cases signed : ∃ rest, name = "-" ++ rest
    · exact .inr (.inl signed)
    · exact .inr (.inr ⟨default, not_exists.mp signed⟩)

/-! ## How they are read -/

/-- The base and the entry as which a class name is read. -/
def baseAndEntry : List Char → List Char × List Char
  | '-' :: rest => (rest.takeWhile (· != '-'), rest.dropWhile (· != '-'))
  | characters =>
    (characters.takeWhile (· != '-'),
      match characters.dropWhile (· != '-') with
      | [] => "default".toList
      | _ :: entry => entry)

/-- Up to the first minus stands the base, where it has none itself. -/
theorem span_unsigned {front : List Char} (unsigned : '-' ∉ front) (rest : List Char) :
    (front ++ '-' :: rest).takeWhile (· != '-') = front ∧
      (front ++ '-' :: rest).dropWhile (· != '-') = '-' :: rest := by
  have passed : ∀ c ∈ front, (c != '-') = true := by
    intro c member
    simpa using fun same : c = '-' => unsigned (same ▸ member)
  constructor
  · rw [List.takeWhile_append_of_pos passed]
    simp
  · rw [List.dropWhile_append_of_pos passed]
    simp

/-- The class name of an entry is read as the base and the entry. -/
theorem baseAndEntry_className (isBase : IsBase base) (name : String) :
    baseAndEntry (className base name).toList = (base.toList, name.toList) := by
  obtain ⟨first, others, characters⟩ := List.exists_cons_of_ne_nil
    (mt String.toList_eq_nil_iff.mp isBase.nonempty)
  have unsigned : '-' ∉ first :: others := characters ▸ isBase.unsigned
  have firstUnsigned : first ≠ '-' := fun same => unsigned (same ▸ List.mem_cons_self)
  -- A base in front is not taken for the sign of an entry.
  have plain (rest : List Char) : baseAndEntry (base.toList ++ rest) =
      ((base.toList ++ rest).takeWhile (· != '-'),
        match (base.toList ++ rest).dropWhile (· != '-') with
        | [] => "default".toList
        | _ :: entry => entry) := by
    rw [characters, List.cons_append, baseAndEntry]
    exact fun _ same => firstUnsigned (List.cons.inj same).1
  rcases className_cases name with rfl | ⟨rest, rfl⟩ | ⟨different, unsignedName⟩
  · have passed : ∀ c ∈ base.toList, (c != '-') = true := by
      intro c member
      simpa using fun same : c = '-' => isBase.unsigned (same ▸ member)
    have read := plain []
    rw [List.append_nil, List.takeWhile_eq_self_iff.mpr passed,
      List.dropWhile_eq_nil_iff.mpr passed] at read
    rw [className_default, read]
  · obtain ⟨taken, dropped⟩ := span_unsigned isBase.unsigned rest.toList
    have written : (className base ("-" ++ rest)).toList =
        '-' :: (base.toList ++ '-' :: rest.toList) := by
      simp [className_minus]
    rw [written, baseAndEntry, taken, dropped]
    simp
  · obtain ⟨taken, dropped⟩ := span_unsigned isBase.unsigned name.toList
    have written : (className base name).toList = base.toList ++ '-' :: name.toList := by
      simp [className_plain different unsignedName]
    rw [written, plain, taken, dropped]

/-- Only one entry of only one base has a class name. -/
theorem className_inj (isBase : IsBase base) (isBaseToo : IsBase other)
    (same : className base name = className other key) : base = other ∧ name = key := by
  have read := baseAndEntry_className isBase name
  rw [same, baseAndEntry_className isBaseToo, Prod.mk.injEq, String.toList_inj,
    String.toList_inj] at read
  exact ⟨read.1.symm, read.2.symm⟩

/-! ## The rules for classes -/

/-- A class name has no blanks and no backslashes unless the entry has. -/
theorem whole_className (isBase : IsBase base) (whole : Whole name) :
    Whole (className base name) := by
  have inBase := isBase.whole
  have minus : Whole "-" := by decide
  rcases className_cases name with rfl | ⟨rest, rfl⟩ | ⟨different, unsigned⟩
  · rwa [className_default]
  · simp only [className_minus, whole_append_iff] at whole ⊢
    exact ⟨⟨⟨minus, inBase⟩, minus⟩, whole.2⟩
  · simp only [className_plain different unsigned, whole_append_iff]
    exact ⟨⟨inBase, minus⟩, whole⟩

/-- No class name is empty. -/
theorem className_ne_empty (isBase : IsBase base) (name : String) : className base name ≠ "" := by
  have nonempty := isBase.nonempty
  rcases className_cases name with rfl | ⟨rest, rfl⟩ | ⟨different, unsigned⟩
  · rwa [className_default]
  · simp [className_minus]
  · simp [className_plain different unsigned]

/-- The selector of a class name without blanks and backslashes names this class. -/
theorem clean_classSelector (whole : Whole name) : clean (classSelector name) = name := by
  have written : (classSelector name).toList = '.' :: escapeCharacters name.toList := by
    simp [classSelector, escape]
  have cleaned : cleanCharacters ('.' :: escapeCharacters name.toList) =
      legible (escapeCharacters name.toList) :=
    cleanCharacters_dot [] (by simp) _
  rw [clean, written, cleaned, legible_escapeCharacters, (legible_eq_self_iff _).mpr whole,
    String.ofList_toList]

/-- Each rule names its class and nothing else. -/
theorem classNamesOfEntries_rules {Rule Item : Type} {items : List Item} {nameOf : Item → String}
    (whole : ∀ item ∈ items, nameOf item ≠ "" ∧ Whole (nameOf item))
    (inside : Item → Entries (Value Rule)) :
    StyleObject.classNamesOfEntries (items.map fun item =>
      (classSelector (nameOf item), (.mapping (inside item) : Value Rule))) =
        items.map nameOf := by
  induction items with
  | nil => rfl
  | cons item rest inductionHypothesis =>
    obtain ⟨⟨nonempty, wholeHere⟩, wholeBehind⟩ := List.forall_mem_cons.mp whole
    have still : StyleObject.isKeyframesEntry (classSelector (nameOf item)) = false := by
      simp [StyleObject.isKeyframesEntry, classSelector, List.isPrefixOf]
    have plain : StyleObject.isAtRule (classSelector (nameOf item)) = false := by
      simp [StyleObject.isAtRule, classSelector]
    have named : (classSelector (nameOf item) == "") = false := by
      simp [classSelector]
    rw [List.map_cons, StyleObject.classNamesOfEntries, StyleObject.classNamesOfEntry, still,
      plain, named, clean_classSelector wholeHere, inductionHypothesis wholeBehind]
    simp [nonempty]

/-- Rules for different classes have different selectors. -/
theorem nodup_classSelectors {names : List String} (whole : ∀ name ∈ names, Whole name)
    (once : names.Nodup) : (names.map classSelector).Nodup := by
  have cleaned : (names.map classSelector).map clean = names := by
    rw [List.map_map]
    exact (List.map_congr_left fun name member => clean_classSelector (whole name member)).trans
      (List.map_id names)
  exact List.Nodup.of_map clean (cleaned.symm ▸ once)

/-- Rules for different classes, written one after the other, have the names of the classes. -/
theorem classNames_rules {Rule Item : Type} {items : List Item} {nameOf : Item → String}
    (whole : ∀ item ∈ items, nameOf item ≠ "" ∧ Whole (nameOf item))
    (once : (items.map nameOf).Nodup) (inside : Item → Entries (Value Rule)) :
    StyleObject.classNames (.mapping (Entries.ofPairs (items.map fun item =>
      (classSelector (nameOf item), .mapping (inside item)))) : Value Rule) =
        items.map nameOf := by
  have wholeNames : ∀ name ∈ items.map nameOf, Whole name :=
    List.forall_mem_map.mpr fun item member => (whole item member).2
  have selectors : (Entries.names (items.map fun item =>
      (classSelector (nameOf item), (.mapping (inside item) : Value Rule)))).Nodup := by
    simpa [Entries.names, Function.comp_def] using nodup_classSelectors wholeNames once
  rw [Entries.ofPairs_of_nodup selectors, StyleObject.classNames,
    classNamesOfEntries_rules whole inside]

/-- The classes of a scale are those of its entries, in the order of these. -/
theorem classNames_scaleClasses (isBase : IsBase base) (properties : List String)
    {scale : Entries Setting} (once : (Entries.names scale).Nodup)
    (whole : ∀ key ∈ Entries.names scale, Whole key) :
    StyleObject.classNames (.mapping (scaleClasses base properties scale)) =
      (Entries.names scale).map (className base) := by
  have named : scale.map (fun entry => className base entry.1) =
      (Entries.names scale).map (className base) := by
    simp [Entries.names]
  have onceNamed : (scale.map fun entry => className base entry.1).Nodup := by
    rw [named]
    exact once.map fun left right same => (className_inj isBase isBase same).2
  have wholeNames : ∀ entry ∈ scale, className base entry.1 ≠ "" ∧
      Whole (className base entry.1) := fun entry member =>
    ⟨className_ne_empty isBase _, whole_className isBase (whole _ (List.mem_map_of_mem member))⟩
  exact (classNames_rules wholeNames onceNamed _).trans named

end Plugin

end ClassOrder
