import ClassOrder.Proofs.Style.Prefixing

/-!
# The class names of a style object

A style object is converted into trees, and the walk over the trees yields class names. They
can be read off the object itself, entry by entry. The conversion cuts the name of an at-rule
into its title and its parameters, and the walk recognises keyframes by the title alone, where
the object shows the whole name; the two tests agree, since no title is cut off before its
keyword. An entry without a name becomes a rule without a selector, which the walk enters, and
an entry whose name is blank becomes a rule that names no class and is not entered.
-/
namespace ClassOrder.StyleObject

open Fallible

variable {Rule : Type} {object : Value Rule}

/-- A style object is a mapping, or a list of style objects. -/
inductive IsStyles : Value Rule → Prop where
  | mapping (entries : List (String × Value Rule)) : IsStyles (.mapping entries)
  | list {items : List (Value Rule)} (each : ∀ item ∈ items, IsStyles item) :
      IsStyles (.list items)

mutual
/-- The class names of an entry. Only a mapping has any. Keyframes have none, any other at-rule
and an entry without a name have those of the entries inside, and any other name is a selector,
behind which nothing is looked at. -/
def classNamesOfEntry (name : String) : Value Rule → List String
  | .mapping entries =>
    if isKeyframesEntry name then []
    else if isAtRule name || name == "" then classNamesOfEntries entries
    else if Selector.clean name = "" then [] else [Selector.clean name]
  | _ => []

/-- The class names of several entries in turn. -/
def classNamesOfEntries : List (String × Value Rule) → List String
  | [] => []
  | (name, value) :: rest => classNamesOfEntry name value ++ classNamesOfEntries rest
end

mutual
/-- The class names of a style object, in the order in which they are written. -/
def classNames : Value Rule → List String
  | .mapping entries => classNamesOfEntries entries
  | .list items => classNamesOfItems items
  | _ => []

/-- The class names of several style objects in turn. -/
def classNamesOfItems : List (Value Rule) → List String
  | [] => []
  | item :: rest => classNames item ++ classNamesOfItems rest
end

/-! ## Entries -/

/-- Declarations have no class names. -/
theorem classNamesOfAll_declarations (name : String) (value : Value Rule) :
    StyleTree.classNamesOfAll (declarations name value) = [] := by
  have declared : ∀ tree ∈ declarations name value, tree.classNames = [] := by
    intro tree member
    cases value with
    | list items =>
      obtain ⟨item, _, rfl⟩ := List.mem_map.mp member
      rw [StyleTree.classNames]
    | _ =>
      rw [List.mem_singleton.mp member, StyleTree.classNames]
  rw [StyleTree.classNamesOfAll_eq_flatMap]
  exact List.flatMap_eq_nil_iff.mpr declared

mutual
/-- The trees of an entry have the class names of the entry. -/
theorem classNamesOfAll_parseEntry (name : String) (value : Value Rule) :
    StyleTree.classNamesOfAll (parseEntry name value) = classNamesOfEntry name value := by
  cases value with
  | mapping entries =>
    have inside := classNamesOfAll_parseEntries entries
    cases around : isAtRule name with
    | true =>
      rw [parseEntry, if_pos around, StyleTree.classNamesOfAll_singleton, StyleTree.classNames,
        isKeyframes_atRuleParts around, inside, classNamesOfEntry, around, Bool.true_or,
        if_pos rfl]
    | false =>
      have still : isKeyframesEntry name = false := by
        cases animated : isKeyframesEntry name with
        | false => rfl
        | true => exact (isAtRule_of_isKeyframesEntry animated).symm.trans around
      rw [parseEntry, around, if_neg Bool.false_ne_true, StyleTree.classNamesOfAll_singleton,
        StyleTree.classNames, inside, classNamesOfEntry, still, if_neg Bool.false_ne_true, around]
      by_cases unnamed : name = "" <;> simp [unnamed]
  | _ =>
    cases around : isAtRule name with
    | true =>
      simp [parseEntry, around, StyleTree.classNamesOfAll, StyleTree.classNames,
        classNamesOfEntry]
    | false => simp [parseEntry, around, classNamesOfAll_declarations, classNamesOfEntry]

/-- The trees of entries have the class names of the entries. -/
theorem classNamesOfAll_parseEntries (entries : List (String × Value Rule)) :
    StyleTree.classNamesOfAll (parseEntries entries) = classNamesOfEntries entries := by
  cases entries with
  | nil => rw [parseEntries, StyleTree.classNamesOfAll, classNamesOfEntries]
  | cons entry rest =>
    obtain ⟨name, value⟩ := entry
    rw [parseEntries, StyleTree.classNamesOfAll_append, classNamesOfEntries,
      classNamesOfAll_parseEntry name value, classNamesOfAll_parseEntries rest]
end

/-! ## Style objects -/

mutual
/-- What is converted is a style object, and its trees have the class names of the object. -/
theorem classNamesOfAll_parse (object : Value Rule) (trees : List StyleTree)
    (converted : parse object = .ok trees) :
    IsStyles object ∧ StyleTree.classNamesOfAll trees = classNames object := by
  cases object with
  | mapping entries =>
    rw [parse] at converted
    cases converted
    exact ⟨.mapping entries, classNamesOfAll_parseEntries entries⟩
  | list items =>
    rw [parse] at converted
    obtain ⟨each, named⟩ := classNamesOfAll_parseItems items trees converted
    exact ⟨.list each, named⟩
  | _ => simp [parse] at converted

/-- What is converted in turn are style objects, and their trees have their class names. -/
theorem classNamesOfAll_parseItems (items : List (Value Rule)) (trees : List StyleTree)
    (converted : parseItems items = .ok trees) :
    (∀ item ∈ items, IsStyles item) ∧
      StyleTree.classNamesOfAll trees = classNamesOfItems items := by
  cases items with
  | nil =>
    rw [parseItems] at converted
    cases converted
    exact ⟨by simp, rfl⟩
  | cons item rest =>
    rw [parseItems] at converted
    obtain ⟨first, here, converted⟩ := bind_eq_ok.mp converted
    obtain ⟨others, behind, ⟨⟩⟩ := bind_eq_ok.mp converted
    obtain ⟨styles, named⟩ := classNamesOfAll_parse item first here
    obtain ⟨each, namedBehind⟩ := classNamesOfAll_parseItems rest others behind
    refine ⟨List.forall_mem_cons.mpr ⟨styles, each⟩, ?_⟩
    rw [StyleTree.classNamesOfAll_append, named, namedBehind, classNamesOfItems]
end

/-- Values that are converted one by one are converted in turn. -/
theorem exists_parseItems {items : List (Value Rule)}
    (each : ∀ item ∈ items, ∃ trees, parse item = .ok trees) :
    ∃ trees, parseItems items = .ok trees := by
  induction items with
  | nil => exact ⟨[], by rw [parseItems]⟩
  | cons item rest inductionHypothesis =>
    obtain ⟨⟨first, here⟩, eachBehind⟩ := List.forall_mem_cons.mp each
    obtain ⟨others, behind⟩ := inductionHypothesis eachBehind
    refine ⟨first ++ others, ?_⟩
    rw [parseItems, here, behind]
    rfl

/-- Every style object is converted. -/
theorem IsStyles.exists_parse (styles : IsStyles object) : ∃ trees, parse object = .ok trees := by
  induction styles with
  | mapping entries => exact ⟨parseEntries entries, by rw [parse]⟩
  | list each inductionHypothesis =>
    rw [parse]
    exact exists_parseItems inductionHypothesis

/-- A value is converted and the selectors of its trees are extracted exactly when it is a style
object, and then the selectors are the class names of the object, each where it occurs first, or
in alphabetical order. Both halves are inductions over the object that treat its entries along
with it: a conversion that returns was given a style object and has its class names, and every
style object is converted. -/
theorem extract_parse_eq_ok_iff (object : Value Rule) (sorted : Bool) (selectors : List String) :
    (do
      let trees ← parse object
      (StyleForest.ofTrees trees).extract sorted) = .ok selectors ↔
    IsStyles object ∧ selectors =
      if sorted then alphabetical (classNames object).eraseDups
      else (classNames object).eraseDups := by
  have extracted : ∀ trees, parse object = .ok trees →
      (StyleForest.ofTrees trees).extract sorted = .ok
        (if sorted then alphabetical (classNames object).eraseDups
          else (classNames object).eraseDups) := by
    intro trees converted
    rw [StyleForest.extract, StyleForest.fault?_ofTrees, StyleForest.selectors,
      StyleForest.classNames_ofTrees, (classNamesOfAll_parse object trees converted).2]
  constructor
  · intro found
    obtain ⟨trees, converted, found⟩ := bind_eq_ok.mp found
    rw [extracted trees converted] at found
    cases found
    exact ⟨(classNamesOfAll_parse object trees converted).1, rfl⟩
  · rintro ⟨styles, rfl⟩
    obtain ⟨trees, converted⟩ := styles.exists_parse
    exact bind_eq_ok.mpr ⟨trees, converted, extracted trees converted⟩

-- What is inside a rule or keyframes is not looked at, and neither is what is inside a blank name.
example :
    classNames (.list [
      .mapping [("@media print", .mapping [(".m-1 p", .mapping [(".deep", .mapping [])])])],
      .mapping [("@keyframes spin", .mapping [("from", .mapping [])]),
        (" ", .mapping [(".lost", .mapping [])]), ("", .mapping [(".m-2:hover", .mapping [])]),
        (".color", .text "red")]] : Value Empty) = ["m-1", "m-2:hover"] := by
  decide +kernel

end ClassOrder.StyleObject
