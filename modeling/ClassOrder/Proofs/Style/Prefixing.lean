import ClassOrder.Proofs.Blocks
import ClassOrder.Proofs.Style.Renaming
import ClassOrder.Proofs.Style.Trees
import ClassOrder.Proofs.Text.Words

/-!
# Class names under a prefix

A selector is cleaned after the prefix went into it: it is cut at blanks, and backslashes
are dropped. A prefix without either of them comes through, so the class names of style
trees get the prefix and nothing else changes, not even their order. It takes that the
selectors name classes in the first place, as those of the core plugins do.
-/
namespace ClassOrder

/-- A prefix of class names that is written as it reads. -/
structure IsClassPrefix (classPrefix : String) : Prop where
  nonempty : classPrefix ≠ ""
  unbroken : ∀ c ∈ classPrefix.toList, Text.isBlank c = false
  unescaped : '\\' ∉ classPrefix.toList

namespace Selector

/-- A selector names a class when its dot is followed by the beginning of a name. -/
def NamesClass (selector : String) : Prop :=
  ∃ first rest, selector.toList = '.' :: first :: rest ∧ Text.isBlank first = false ∧ first ≠ '\\'

variable {classPrefix selector : String}

/-- The class name is what follows the dot of the first word, without its backslashes. -/
theorem cleanCharacters_dot (front : List Char)
    (unbroken : ∀ c ∈ front, Text.isBlank c = false) (rest : List Char) :
    cleanCharacters ('.' :: (front ++ rest)) =
      (front ++ rest.takeWhile fun c => !Text.isBlank c).filter (· != '\\') := by
  have dotted : ∀ c ∈ '.' :: front, Text.isBlank c = false :=
    List.forall_mem_cons.mpr ⟨by decide, unbroken⟩
  rw [← List.cons_append, cleanCharacters,
    Text.wordsOf_append_unbroken (List.cons_ne_nil _ _) dotted]
  simp [dropDot]

/-- A selector that names a class is not empty, and neither is the name. -/
theorem NamesClass.nonempty (named : NamesClass selector) :
    selector ≠ "" ∧ clean selector ≠ "" := by
  obtain ⟨first, rest, characters, solid, escapeless⟩ := named
  have cleaned := cleanCharacters_dot [first] (by simpa using solid) rest
  constructor
  · rintro rfl
    cases characters
  · intro empty
    have nothing : cleanCharacters selector.toList = [] := by
      simpa [clean] using congrArg String.toList empty
    rw [characters] at nothing
    rw [List.singleton_append, nothing] at cleaned
    simp [escapeless] at cleaned

/-- Under a prefix a selector still names a class, and its name has the prefix before it. -/
theorem NamesClass.prefixedSelector (named : NamesClass selector)
    (usable : IsClassPrefix classPrefix) :
    NamesClass (StyleObject.prefixedSelector classPrefix selector) ∧
      clean (StyleObject.prefixedSelector classPrefix selector) =
        classPrefix ++ clean selector := by
  obtain ⟨first, rest, characters, solid, escapeless⟩ := named
  have written : (StyleObject.prefixedSelector classPrefix selector).toList =
      '.' :: (classPrefix.toList ++ first :: rest) := by
    simp [StyleObject.prefixedSelector_of_dot characters]
  constructor
  · obtain ⟨start, others, split⟩ := List.exists_cons_of_ne_nil
      (fun nothing => usable.nonempty (by simpa using nothing) : classPrefix.toList ≠ [])
    have member : start ∈ classPrefix.toList := by simp [split]
    refine ⟨start, others ++ first :: rest, ?_, usable.unbroken start member, ?_⟩
    · rw [written, split, List.cons_append]
    · rintro rfl
      exact usable.unescaped member
  -- The prefix and the beginning of the name are one piece, which no blank cuts.
  · have unbroken : ∀ c ∈ classPrefix.toList ++ [first], Text.isBlank c = false :=
      List.forall_mem_append.mpr ⟨usable.unbroken, by simpa using solid⟩
    have kept : classPrefix.toList.filter (· != '\\') = classPrefix.toList := by
      rw [List.filter_eq_self]
      intro c member
      have different : c ≠ '\\' := fun same => usable.unescaped (same ▸ member)
      simpa using different
    have bare := cleanCharacters_dot [first] (by simpa using solid) rest
    have whole := cleanCharacters_dot _ unbroken rest
    rw [List.append_assoc, List.singleton_append, List.append_assoc, List.filter_append, kept,
      ← bare, List.singleton_append] at whole
    rw [clean, written, whole, clean, characters, String.ofList_append, String.ofList_toList]

end Selector

namespace StyleTree

open StyleNode

mutual
/-- The rules of a tree at which the walk stops name classes. -/
def NamesClasses : StyleTree → Prop
  | rule selector _ => Selector.NamesClass selector
  | declaration _ _ => True
  | atRule name _ children => isKeyframes name = false → AllNameClasses children
  | root children => AllNameClasses children

/-- The rules of several trees at which the walk stops name classes. -/
def AllNameClasses : List StyleTree → Prop
  | [] => True
  | tree :: rest => NamesClasses tree ∧ AllNameClasses rest
end

/-- The rules of two lists of trees name classes when those of both do. -/
theorem allNameClasses_append {front back : List StyleTree} :
    AllNameClasses (front ++ back) ↔ AllNameClasses front ∧ AllNameClasses back := by
  induction front with
  | nil => simp [AllNameClasses]
  | cons tree rest inductionHypothesis =>
    rw [List.cons_append, AllNameClasses, AllNameClasses, inductionHypothesis, and_assoc]

variable {classPrefix : String}

mutual
/-- The class names of a renamed tree have the prefix. -/
theorem classNames_renamed (usable : IsClassPrefix classPrefix) (tree : StyleTree)
    (named : tree.NamesClasses) :
    (renamed classPrefix tree).classNames = tree.classNames.map (classPrefix ++ ·) := by
  cases tree with
  | rule selector children =>
    have marked : Selector.NamesClass selector := named
    obtain ⟨stillNamed, cleaned⟩ := marked.prefixedSelector usable
    simp [renamed, classNames, marked.nonempty, stillNamed.nonempty, cleaned]
  | declaration name value => rw [renamed, classNames, List.map_nil]
  | atRule name params children =>
    cases animated : isKeyframes name with
    | true => simp [renamed, classNames, animated]
    | false =>
      simp [renamed, classNames, animated, classNames_renamedAll usable children (named animated)]
  | root children =>
    rw [renamed, classNames, classNames, classNames_renamedAll usable children named]

/-- The class names of renamed trees have the prefix. -/
theorem classNames_renamedAll (usable : IsClassPrefix classPrefix) (trees : List StyleTree)
    (named : AllNameClasses trees) :
    classNamesOfAll (renamedAll classPrefix trees) =
      (classNamesOfAll trees).map (classPrefix ++ ·) := by
  cases trees with
  | nil => rw [renamedAll, classNamesOfAll, List.map_nil]
  | cons tree rest =>
    rw [renamedAll, classNamesOfAll, classNamesOfAll, List.map_append,
      classNames_renamed usable tree named.1, classNames_renamedAll usable rest named.2]
end

end StyleTree

namespace StyleObject

open Fallible StyleTree

variable {Rule : Type} {name : String} {value : Value Rule}

/-- An entry that defines classes and nothing else that has a name: a rule for a class,
keyframes, or an at-rule around such entries. -/
inductive ClassEntry : String → Value Rule → Prop where
  | rule {name : String} {body : List (String × Value Rule)} (named : Selector.NamesClass name) :
      ClassEntry name (.mapping body)
  | keyframes {name : String} {value : Value Rule} (animated : isKeyframesEntry name = true) :
      ClassEntry name value
  | atRule {name : String} {body : List (String × Value Rule)} (around : isAtRule name = true)
      (unique : (Entries.names body).Nodup)
      (inside : ∀ entry ∈ body, ClassEntry entry.1 entry.2) : ClassEntry name (.mapping body)

/-- A style object that defines classes and nothing else that has a name. -/
inductive ClassObject : Value Rule → Prop where
  | mapping {entries : List (String × Value Rule)} (unique : (Entries.names entries).Nodup)
      (each : ∀ entry ∈ entries, ClassEntry entry.1 entry.2) : ClassObject (.mapping entries)
  | list {items : List (Value Rule)} (each : ∀ item ∈ items, ClassObject item) :
      ClassObject (.list items)

/-- The name of a class is not that of an at-rule. -/
theorem isAtRule_of_namesClass (named : Selector.NamesClass name) : isAtRule name = false := by
  obtain ⟨first, rest, characters, _⟩ := named
  simp [isAtRule, characters]

/-- Keyframes are an at-rule. -/
theorem isAtRule_of_isKeyframesEntry (animated : isKeyframesEntry name = true) :
    isAtRule name = true := by
  obtain ⟨rest, named⟩ := List.isPrefixOf_iff_prefix.mp animated
  simp [isAtRule, ← named]

/-- Entries take a prefix when each of them does. -/
theorem entriesTakePrefix_iff (entries : List (String × Value Rule)) :
    EntriesTakePrefix entries ↔ ∀ entry ∈ entries, EntryTakesPrefix entry.1 entry.2 := by
  induction entries with
  | nil => simp [EntriesTakePrefix]
  | cons entry rest inductionHypothesis =>
    rw [EntriesTakePrefix, inductionHypothesis, List.forall_mem_cons]

/-- Items take a prefix when each of them does. -/
theorem itemsTakePrefix_iff (items : List (Value Rule)) :
    ItemsTakePrefix items ↔ ∀ item ∈ items, TakesPrefix item := by
  induction items with
  | nil => simp [ItemsTakePrefix]
  | cons item rest inductionHypothesis =>
    rw [ItemsTakePrefix, inductionHypothesis, List.forall_mem_cons]

/-- A prefix can go into an entry that defines classes. -/
theorem ClassEntry.takesPrefix (entry : ClassEntry name value) : EntryTakesPrefix name value := by
  induction entry with
  | rule named =>
    intro around
    rw [isAtRule_of_namesClass named] at around
    cases around
  | @keyframes name value animated =>
    have around := isAtRule_of_isKeyframesEntry animated
    have undotted : name.toList.head? ≠ some '.' := by
      rw [isAtRule, beq_iff_eq] at around
      rw [around]
      decide
    cases value with
    | mapping entries =>
      intro _ still
      rw [animated] at still
      cases still
    | _ => exact undotted
  | atRule around unique inside inductionHypothesis =>
    intro _ _
    exact ⟨unique, (entriesTakePrefix_iff _).mpr inductionHypothesis⟩

/-- The trees of entries name classes when those of each entry do. -/
theorem allNameClasses_parseEntries {entries : List (String × Value Rule)}
    (each : ∀ entry ∈ entries, AllNameClasses (parseEntry entry.1 entry.2)) :
    AllNameClasses (parseEntries entries) := by
  induction entries with
  | nil => exact trivial
  | cons entry rest inductionHypothesis =>
    obtain ⟨first, others⟩ := List.forall_mem_cons.mp each
    rw [parseEntries, allNameClasses_append]
    exact ⟨first, inductionHypothesis others⟩

/-- An entry with the name of an at-rule becomes one, whatever is inside it. -/
theorem parseEntry_of_isAtRule (around : isAtRule name = true) (value : Value Rule) :
    ∃ children, parseEntry name value =
      [.atRule (atRuleParts name).1 (atRuleParts name).2 children] := by
  cases value with
  | mapping entries => exact ⟨parseEntries entries, by rw [parseEntry, if_pos around]⟩
  | _ => exact ⟨[], by simp [parseEntry, around]⟩

/-- The rules of an entry that defines classes name classes. -/
theorem ClassEntry.namesClasses (entry : ClassEntry name value) :
    AllNameClasses (parseEntry name value) := by
  induction entry with
  | @rule name body named =>
    rw [parseEntry, isAtRule_of_namesClass named, if_neg Bool.false_ne_true]
    exact ⟨named, trivial⟩
  | @keyframes name value animated =>
    have around := isAtRule_of_isKeyframesEntry animated
    obtain ⟨children, converted⟩ := parseEntry_of_isAtRule around value
    rw [converted]
    refine ⟨fun still => ?_, trivial⟩
    rw [isKeyframes_atRuleParts around, animated] at still
    cases still
  | @atRule name body around unique inside inductionHypothesis =>
    rw [parseEntry, if_pos around]
    exact ⟨fun _ => allNameClasses_parseEntries inductionHypothesis, trivial⟩

/-- A prefix can go into a style object that defines classes. -/
theorem ClassObject.takesPrefix (object : ClassObject value) : TakesPrefix value := by
  induction object with
  | mapping unique each =>
    exact ⟨unique, (entriesTakePrefix_iff _).mpr fun entry member =>
      (each entry member).takesPrefix⟩
  | list each inductionHypothesis => exact (itemsTakePrefix_iff _).mpr inductionHypothesis

/-- The trees of several style objects name classes when those of each object do. -/
theorem allNameClasses_parseItems {items : List (Value Rule)} {trees : List StyleTree}
    (each : ∀ item ∈ items, ∀ trees, parse item = .ok trees → AllNameClasses trees)
    (converted : parseItems items = .ok trees) : AllNameClasses trees := by
  induction items generalizing trees with
  | nil =>
    rw [parseItems] at converted
    cases converted
    exact trivial
  | cons item rest inductionHypothesis =>
    obtain ⟨eachHere, eachBehind⟩ := List.forall_mem_cons.mp each
    rw [parseItems] at converted
    obtain ⟨first, here, converted⟩ := bind_eq_ok.mp converted
    obtain ⟨others, behind, ⟨⟩⟩ := bind_eq_ok.mp converted
    exact allNameClasses_append.mpr ⟨eachHere first here, inductionHypothesis eachBehind behind⟩

/-- The rules of a style object that defines classes name classes. -/
theorem ClassObject.namesClasses (object : ClassObject value) {trees : List StyleTree}
    (converted : parse value = .ok trees) : AllNameClasses trees := by
  induction object generalizing trees with
  | mapping unique each =>
    rw [parse] at converted
    cases converted
    exact allNameClasses_parseEntries fun entry member => (each entry member).namesClasses
  | list each inductionHypothesis =>
    rw [parse] at converted
    exact allNameClasses_parseItems (fun item member _ => inductionHypothesis item member) converted

end StyleObject

/-- The selectors of renamed trees have the prefix and are in the same order, be it that of
their emission or the alphabetical one. -/
theorem StyleForest.selectors_renamedAll {classPrefix : String}
    (usable : IsClassPrefix classPrefix) {trees : List StyleTree}
    (named : StyleTree.AllNameClasses trees) (sorted : Bool) :
    (ofTrees (StyleTree.renamedAll classPrefix trees)).selectors sorted =
      ((ofTrees trees).selectors sorted).map (classPrefix ++ ·) := by
  have kept : (ofTrees (StyleTree.renamedAll classPrefix trees)).classNames.eraseDups =
      (ofTrees trees).classNames.eraseDups.map (classPrefix ++ ·) := by
    rw [classNames_ofTrees, classNames_ofTrees, StyleTree.classNames_renamedAll usable trees named,
      eraseDups_map_append]
  cases sorted with
  | false => exact kept
  | true =>
    change alphabetical _ = (alphabetical _).map _
    rw [kept, alphabetical_map_append]

end ClassOrder
