import ClassOrder.Plugin.Prefixed
import ClassOrder.Proofs.Entries
import ClassOrder.Proofs.Fallible
import ClassOrder.Style.Extraction

/-!
# A prefix renames rules and nothing else

A prefix is put into a style object before the object is converted. The trees that come of
it are those of the object as it was, with the class selectors renamed that stand outside of
rules and keyframes. It takes that the names of such an object differ and that no
declaration goes by the name of a class, for then no two entries come to the same name.
-/
namespace ClassOrder

open Fallible

namespace StyleTree

mutual
/-- A tree with the prefix on its class selectors, other than those inside of rules and
keyframes. -/
def renamed (classPrefix : String) : StyleTree → StyleTree
  | rule selector children => rule (StyleObject.prefixedSelector classPrefix selector) children
  | declaration name value => declaration name value
  | atRule name params children =>
    if StyleNode.isKeyframes name then atRule name params children
    else atRule name params (renamedAll classPrefix children)
  | root children => root (renamedAll classPrefix children)

/-- Several trees with the prefix on their class selectors. -/
def renamedAll (classPrefix : String) : List StyleTree → List StyleTree
  | [] => []
  | tree :: rest => renamed classPrefix tree :: renamedAll classPrefix rest
end

/-- Trees are renamed one by one. -/
theorem renamedAll_eq_map (classPrefix : String) (trees : List StyleTree) :
    renamedAll classPrefix trees = trees.map (renamed classPrefix) := by
  induction trees with
  | nil => rfl
  | cons tree rest inductionHypothesis => rw [renamedAll, inductionHypothesis, List.map_cons]

/-- So two lists of trees are renamed apart. -/
theorem renamedAll_append (classPrefix : String) (front back : List StyleTree) :
    renamedAll classPrefix (front ++ back) =
      renamedAll classPrefix front ++ renamedAll classPrefix back := by
  simp only [renamedAll_eq_map, List.map_append]

end StyleTree

namespace StyleObject

open StyleTree

variable {Rule : Type} {classPrefix name : String}

mutual
/-- Whether a prefix can go into an entry: if it is a declaration, it must not have the name
of a class, and if it is an at-rule that is entered, its own entries must allow it. -/
def EntryTakesPrefix (name : String) : Value Rule → Prop
  | .mapping entries => isAtRule name = true → isKeyframesEntry name = false →
      (Entries.names entries).Nodup ∧ EntriesTakePrefix entries
  | _ => name.toList.head? ≠ some '.'

/-- Whether a prefix can go into all of the entries. -/
def EntriesTakePrefix : List (String × Value Rule) → Prop
  | [] => True
  | (name, value) :: rest => EntryTakesPrefix name value ∧ EntriesTakePrefix rest
end

mutual
/-- Whether a prefix can go into a style object, that is, into a mapping or the mappings of
a list: their names differ, and their entries allow it. -/
def TakesPrefix : Value Rule → Prop
  | .mapping entries => (Entries.names entries).Nodup ∧ EntriesTakePrefix entries
  | .list items => ItemsTakePrefix items
  | _ => False

/-- Whether a prefix can go into all of the style objects. -/
def ItemsTakePrefix : List (Value Rule) → Prop
  | [] => True
  | item :: rest => TakesPrefix item ∧ ItemsTakePrefix rest
end

/-! ## Names under a prefix -/

/-- The name of a class gets the prefix after its dot. -/
theorem prefixedSelector_of_dot {rest : List Char} (dotted : name.toList = '.' :: rest) :
    prefixedSelector classPrefix name = "." ++ classPrefix ++ String.ofList rest := by
  simp only [prefixedSelector, dotted]

/-- A name that is not one of a class stays. -/
theorem prefixedSelector_of_not_dot (undotted : name.toList.head? ≠ some '.') :
    prefixedSelector classPrefix name = name := by
  unfold prefixedSelector
  split
  · rename_i dotted
    rw [dotted] at undotted
    exact absurd rfl undotted
  · rfl

/-- A name of a class stays one, and so does any other name. -/
theorem head?_prefixedSelector (classPrefix name : String) :
    (prefixedSelector classPrefix name).toList.head? = some '.' ↔ name.toList.head? = some '.' := by
  by_cases dotted : name.toList.head? = some '.'
  · obtain ⟨rest, named⟩ := List.head?_eq_some_iff.mp dotted
    simp [prefixedSelector_of_dot named, dotted]
  · rw [prefixedSelector_of_not_dot dotted]

/-- Different names stay different. -/
theorem prefixedSelector_inj {left right : String} :
    prefixedSelector classPrefix left = prefixedSelector classPrefix right ↔ left = right := by
  refine ⟨fun same => ?_, fun same => same ▸ rfl⟩
  by_cases dotted : left.toList.head? = some '.'
  · have dottedToo : right.toList.head? = some '.' := by
      rwa [← head?_prefixedSelector classPrefix, ← same, head?_prefixedSelector]
    obtain ⟨rest, named⟩ := List.head?_eq_some_iff.mp dotted
    obtain ⟨others, namedToo⟩ := List.head?_eq_some_iff.mp dottedToo
    rw [prefixedSelector_of_dot named, prefixedSelector_of_dot namedToo] at same
    have characters := congrArg String.toList same
    simp only [String.toList_append, String.toList_ofList, List.append_assoc,
      List.append_cancel_left_eq] at characters
    rw [← String.toList_inj, named, namedToo, characters]
  · have undottedToo : right.toList.head? ≠ some '.' := by
      rwa [Ne, ← head?_prefixedSelector classPrefix, ← same, head?_prefixedSelector]
    rwa [prefixedSelector_of_not_dot dotted, prefixedSelector_of_not_dot undottedToo] at same

/-- An at-rule stays one, and nothing becomes one. -/
theorem isAtRule_prefixedSelector (classPrefix name : String) :
    isAtRule (prefixedSelector classPrefix name) = isAtRule name := by
  by_cases dotted : name.toList.head? = some '.'
  · obtain ⟨rest, named⟩ := List.head?_eq_some_iff.mp dotted
    simp [isAtRule, prefixedSelector_of_dot named, dotted]
  · rw [prefixedSelector_of_not_dot dotted]

/-- The name of an at-rule is no name of a class. -/
theorem prefixedSelector_of_isAtRule (around : isAtRule name = true) :
    prefixedSelector classPrefix name = name := by
  apply prefixedSelector_of_not_dot
  rw [isAtRule, beq_iff_eq] at around
  simp [around]

/-- Entries keep their order under a prefix, and each name is renamed on its own. -/
theorem names_prefixedPairs (entries : List (String × Value Rule))
    (takes : EntriesTakePrefix entries) :
    Entries.names (prefixedPairs classPrefix entries) =
      (Entries.names entries).map (prefixedSelector classPrefix) := by
  induction entries with
  | nil => simp [prefixedPairs, Entries.names]
  | cons entry rest inductionHypothesis =>
    obtain ⟨name, value⟩ := entry
    obtain ⟨takesHere, takesRest⟩ := takes
    have here : (prefixedEntry classPrefix name value).1 = prefixedSelector classPrefix name := by
      cases value with
      | mapping entries =>
        rw [prefixedEntry]
        by_cases around : isAtRule name = true
        · simp only [around, Bool.not_true, Bool.false_eq_true, if_false,
            prefixedSelector_of_isAtRule around]
          split <;> rfl
        · simp [around]
      | _ => exact (prefixedSelector_of_not_dot takesHere).symm
    have behind := inductionHypothesis takesRest
    simp only [Entries.names] at behind ⊢
    simp [prefixedPairs, here, behind]

/-- No two entries come to the same name under a prefix. -/
theorem prefixedEntries_eq {entries : Entries (Value Rule)}
    (unique : (Entries.names entries).Nodup) (takes : EntriesTakePrefix entries) :
    prefixedEntries classPrefix entries = prefixedPairs classPrefix entries := by
  apply Entries.ofPairs_of_nodup
  rw [names_prefixedPairs entries takes]
  exact List.Pairwise.map _ (fun _ _ different same => different (prefixedSelector_inj.mp same))
    unique

/-! ## Conversion -/

/-- Cutting a text off at the first character that is not kept leaves its prefixes of kept
characters. -/
theorem isPrefixOf_takeWhile {front text : List Char} {keep : Char → Bool}
    (kept : ∀ c ∈ front, keep c = true) :
    front.isPrefixOf (text.takeWhile keep) = front.isPrefixOf text := by
  induction front generalizing text with
  | nil => simp
  | cons first rest inductionHypothesis =>
    obtain ⟨keptFirst, keptRest⟩ := List.forall_mem_cons.mp kept
    cases text with
    | nil => rfl
    | cons c others =>
      cases goesOn : keep c with
      | true => simp [List.isPrefixOf, goesOn, inductionHypothesis keptRest]
      | false =>
        have different : first ≠ c := by
          rintro rfl
          rw [goesOn] at keptFirst
          cases keptFirst
        simp [List.isPrefixOf, goesOn, different]

/-- Whether an at-rule holds the stages of an animation shows in its name, with and without
the at sign. -/
theorem isKeyframes_atRuleParts (around : isAtRule name = true) :
    StyleNode.isKeyframes (atRuleParts name).1 = isKeyframesEntry name := by
  rw [isAtRule, beq_iff_eq] at around
  obtain ⟨rest, named⟩ := List.head?_eq_some_iff.mp around
  have noSpace : ∀ c ∈ "keyframes".toList, (c != ' ') = true := by simp
  have title : (atRuleParts name).1.toList = rest.takeWhile (· != ' ') := by
    simp [atRuleParts, Text.splitAtFirst, named]
  rw [StyleNode.isKeyframes, isKeyframesEntry, title, named, isPrefixOf_takeWhile noSpace]
  rfl

/-- A prefix leaves declarations as they are. -/
theorem renamedAll_declarations (classPrefix name : String) (value : Value Rule) :
    renamedAll classPrefix (declarations name value) = declarations name value := by
  rw [renamedAll_eq_map]
  cases value with
  | list items =>
    rw [declarations, List.map_map]
    exact List.map_congr_left fun _ _ => rfl
  | _ => rfl

mutual
/-- An entry under a prefix is converted to the renamed trees of the entry. -/
theorem parseEntry_prefixedEntry (classPrefix name : String) (value : Value Rule)
    (takes : EntryTakesPrefix name value) :
    parseEntry (prefixedEntry classPrefix name value).1 (prefixedEntry classPrefix name value).2 =
      renamedAll classPrefix (parseEntry name value) := by
  cases value with
  | mapping entries =>
    -- A rule is renamed and not entered, keyframes are left alone, other at-rules are entered.
    cases around : isAtRule name with
    | false =>
      simp [prefixedEntry, parseEntry, around, isAtRule_prefixedSelector, renamedAll, renamed]
    | true =>
      have animates := isKeyframes_atRuleParts around
      cases animated : isKeyframesEntry name with
      | true =>
        rw [animated] at animates
        simp [prefixedEntry, parseEntry, around, animated, animates, renamedAll, renamed]
      | false =>
        rw [animated] at animates
        obtain ⟨unique, takesInside⟩ := takes around animated
        have written : Entries.ofPairs (prefixedPairs classPrefix entries) =
            prefixedPairs classPrefix entries := prefixedEntries_eq unique takesInside
        have inside := parseEntries_prefixedPairs classPrefix entries takesInside
        simp [prefixedEntry, parseEntry, around, animated, animates, renamedAll, renamed, written,
          inside]
  | _ =>
    cases around : isAtRule name with
    | false =>
      simp [prefixedEntry, parseEntry, around, renamedAll_declarations]
    | true =>
      simp [prefixedEntry, parseEntry, around, renamedAll, renamed]

/-- Entries under a prefix are converted to the renamed trees of the entries. -/
theorem parseEntries_prefixedPairs (classPrefix : String) (entries : List (String × Value Rule))
    (takes : EntriesTakePrefix entries) :
    parseEntries (prefixedPairs classPrefix entries) =
      renamedAll classPrefix (parseEntries entries) := by
  cases entries with
  | nil => simp [prefixedPairs, parseEntries, renamedAll]
  | cons entry rest =>
    obtain ⟨name, value⟩ := entry
    obtain ⟨takesHere, takesRest⟩ := takes
    rw [prefixedPairs, parseEntries, parseEntries, renamedAll_append,
      parseEntry_prefixedEntry classPrefix name value takesHere,
      parseEntries_prefixedPairs classPrefix rest takesRest]
end

mutual
/-- A style object that takes a prefix is converted with and without it, and with it to the
renamed trees. -/
theorem parse_prefixed (classPrefix : String) (object : Value Rule) (takes : TakesPrefix object) :
    ∃ trees, parse object = .ok trees ∧
      prefixed classPrefix object >>= parse = .ok (renamedAll classPrefix trees) := by
  cases object with
  | mapping entries =>
    obtain ⟨unique, takesInside⟩ := takes
    refine ⟨parseEntries entries, by rw [parse], ?_⟩
    rw [prefixed, prefixedEntries_eq unique takesInside,
      ← parseEntries_prefixedPairs classPrefix entries takesInside]
    exact bind_eq_ok.mpr ⟨_, rfl, by rw [parse]⟩
  | list items =>
    obtain ⟨trees, converted, convertedPrefixed⟩ := parseItems_prefixedItems classPrefix items takes
    obtain ⟨renamedItems, written, convertedItems⟩ := bind_eq_ok.mp convertedPrefixed
    refine ⟨trees, by rw [parse, converted], bind_eq_ok.mpr ⟨.list renamedItems, ?_, ?_⟩⟩
    · rw [prefixed, written]
      rfl
    · rw [parse, convertedItems]
  | _ => exact takes.elim

/-- Several style objects that take a prefix are converted with and without it. -/
theorem parseItems_prefixedItems (classPrefix : String) (items : List (Value Rule))
    (takes : ItemsTakePrefix items) :
    ∃ trees, parseItems items = .ok trees ∧
      prefixedItems classPrefix items >>= parseItems = .ok (renamedAll classPrefix trees) := by
  cases items with
  | nil =>
    exact ⟨[], by rw [parseItems],
      bind_eq_ok.mpr ⟨[], by rw [prefixedItems], by rw [parseItems, renamedAll]⟩⟩
  | cons item rest =>
    obtain ⟨takesHere, takesRest⟩ := takes
    obtain ⟨first, converted, convertedPrefixed⟩ := parse_prefixed classPrefix item takesHere
    obtain ⟨others, convertedRest, convertedRestPrefixed⟩ :=
      parseItems_prefixedItems classPrefix rest takesRest
    obtain ⟨renamedItem, written, convertedItem⟩ := bind_eq_ok.mp convertedPrefixed
    obtain ⟨renamedRest, writtenRest, convertedItems⟩ := bind_eq_ok.mp convertedRestPrefixed
    refine ⟨first ++ others, ?_, bind_eq_ok.mpr ⟨renamedItem :: renamedRest, ?_, ?_⟩⟩
    · rw [parseItems, converted, convertedRest]
      rfl
    · rw [prefixedItems, written, writtenRest]
      rfl
    · rw [parseItems, convertedItem, convertedItems, renamedAll_append]
      rfl
end

end StyleObject

end ClassOrder
