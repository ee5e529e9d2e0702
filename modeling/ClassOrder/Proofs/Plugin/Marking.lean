import ClassOrder.Proofs.Plugin.Prefix

/-!
# Where a prefix goes

A configured prefix is put into the names of a style object, and then the object is converted.
In the trees that come of it one can see where the prefix went. They have the shape of the trees
without it, node for node, and the labels of the nodes are the same, save for the selectors of the
rules that stand inside no other rule and inside no keyframes. These are what the configuration
makes of the selectors. No entry of the object is lost on the way, at whatever depth, and no two
entries become one.
-/
namespace ClassOrder

open Fallible

namespace StyleTree

/-! ## Nodes and their places -/

/-- What a node says by itself, whatever is inside it. -/
inductive Label where
  | rule (selector : String)
  | declaration (name value : String)
  | atRule (name params : String)
  | root
  deriving DecidableEq

/-- The same label with another selector, if it is that of a rule. -/
def Label.mapSelector (change : String → String) : Label → Label
  | .rule selector => .rule (change selector)
  | label => label

/-- The label of the outermost node of a tree. -/
def label : StyleTree → Label
  | rule selector _ => .rule selector
  | declaration name value => .declaration name value
  | atRule name params _ => .atRule name params
  | root _ => .root

/-- The trees right inside the outermost node of a tree. -/
def children : StyleTree → List StyleTree
  | rule _ children => children
  | declaration _ _ => []
  | atRule _ _ children => children
  | root children => children

/-- Whether no prefix goes to what is inside the outermost node of a tree: a rule, or an at-rule
with the stages of an animation. -/
def shields : StyleTree → Bool
  | rule _ _ => true
  | declaration _ _ => false
  | atRule name _ _ => StyleNode.isKeyframes name
  | root _ => false

/-- The tree at the end of a path. A path says at each node which of the trees inside is next. -/
def subtreeAt : StyleTree → List Nat → Option StyleTree
  | tree, [] => some tree
  | tree, place :: path => tree.children[place]?.bind fun inside => subtreeAt inside path

/-- The label of the node at the end of a path. -/
def labelAt (tree : StyleTree) (path : List Nat) : Option Label :=
  (tree.subtreeAt path).map label

/-- The trees around the node at the end of a path, from the outermost one on. -/
def around : StyleTree → List Nat → List StyleTree
  | _, [] => []
  | tree, place :: path => tree :: tree.children[place]?.elim [] fun inside => around inside path

variable {classPrefix : String}

/-- At the end of a path stands the label of the tree. -/
theorem labelAt_nil (tree : StyleTree) : tree.labelAt [] = some tree.label :=
  rfl

/-- A path goes on below the child at its first place. -/
theorem labelAt_cons (tree : StyleTree) (place : Nat) (path : List Nat) :
    tree.labelAt (place :: path) =
      tree.children[place]?.bind fun inside => inside.labelAt path := by
  rw [labelAt, subtreeAt, Option.map_bind]
  rfl

/-- The outermost node of a renamed tree has the changed selector, if it is a rule. -/
theorem label_renamed (tree : StyleTree) : (renamed classPrefix tree).label =
    tree.label.mapSelector (StyleObject.prefixedSelector classPrefix) := by
  cases tree with
  | atRule name params children =>
    rw [renamed]
    split <;> rfl
  | rule | declaration | root =>
    rw [renamed]
    rfl

/-- What is inside the outermost node is renamed, unless the node shields it. -/
theorem children_renamed (tree : StyleTree) : (renamed classPrefix tree).children =
    if tree.shields then tree.children else tree.children.map (renamed classPrefix) := by
  cases tree with
  | rule selector children =>
    rw [renamed]
    rfl
  | declaration name value =>
    rw [renamed]
    rfl
  | atRule name params children =>
    rw [renamed, renamedAll_eq_map]
    cases animated : StyleNode.isKeyframes name <;> simp [shields, animated, StyleTree.children]
  | root children =>
    rw [renamed, renamedAll_eq_map]
    rfl

/-- A renamed tree has a node at the end of a path where the tree has one, with the same label or,
if nothing around it shields it, with the changed selector. -/
theorem labelAt_renamed (tree : StyleTree) (path : List Nat) :
    (renamed classPrefix tree).labelAt path = (tree.labelAt path).map fun label =>
      if (tree.around path).any shields then label
      else label.mapSelector (StyleObject.prefixedSelector classPrefix) := by
  induction path generalizing tree with
  | nil => rw [labelAt_nil, labelAt_nil, label_renamed]; rfl
  | cons place path inductionHypothesis =>
    rw [labelAt_cons, labelAt_cons, children_renamed, around]
    cases shielded : tree.shields with
    | true => simp [shielded]
    | false =>
      rw [if_neg Bool.false_ne_true, List.getElem?_map]
      cases tree.children[place]? with
      | none => rfl
      | some inside => simp [shielded, inductionHypothesis]

end StyleTree

/-! ## Entries at all depths -/

namespace Value

variable {Rule : Type}

mutual
/-- The number of entries of a value, those inside its entries and items included. -/
def entryCount : Value Rule → Nat
  | mapping entries => entryCountOfEntries entries
  | list items => entryCountOfItems items
  | _ => 0

/-- The number of entries of the items of a list. -/
def entryCountOfItems : List (Value Rule) → Nat
  | [] => 0
  | item :: rest => entryCount item + entryCountOfItems rest

/-- The number of entries of a mapping and of the values in it. -/
def entryCountOfEntries : List (String × Value Rule) → Nat
  | [] => 0
  | (_, value) :: rest => 1 + entryCount value + entryCountOfEntries rest
end

end Value

namespace StyleObject

open Value

variable {Rule : Type} {classPrefix : String}

mutual
/-- An entry has as many entries inside it with a prefix as without. -/
theorem entryCount_prefixedEntry (name : String) (value : Value Rule)
    (takes : EntryTakesPrefix name value) :
    (prefixedEntry classPrefix name value).2.entryCount = value.entryCount := by
  cases value with
  | mapping entries =>
    cases outside : !isAtRule name with
    | true => simp [prefixedEntry, outside]
    | false =>
      cases animated : isKeyframesEntry name with
      | true => simp [prefixedEntry, outside, animated]
      | false =>
        obtain ⟨unique, takesInside⟩ := takes (by simpa using outside) animated
        have written : Entries.ofPairs (prefixedPairs classPrefix entries) =
            prefixedPairs classPrefix entries := prefixedEntries_eq unique takesInside
        have inside := entryCount_prefixedPairs entries takesInside
        simp [prefixedEntry, outside, animated, written, entryCount, inside]
  | _ => simp [prefixedEntry]

/-- Entries have as many entries inside them with a prefix as without. -/
theorem entryCount_prefixedPairs (entries : List (String × Value Rule))
    (takes : EntriesTakePrefix entries) :
    entryCountOfEntries (prefixedPairs classPrefix entries) = entryCountOfEntries entries := by
  cases entries with
  | nil => rw [prefixedPairs]
  | cons entry rest =>
    obtain ⟨name, value⟩ := entry
    rw [prefixedPairs, entryCountOfEntries, entryCountOfEntries,
      entryCount_prefixedEntry name value takes.1, entryCount_prefixedPairs rest takes.2]
end

mutual
/-- A prefix neither takes an entry away from a style object nor makes one of two. -/
theorem entryCount_prefixed (object : Value Rule) (takes : TakesPrefix object)
    {marked : Value Rule} (written : prefixed classPrefix object = .ok marked) :
    marked.entryCount = object.entryCount := by
  cases object with
  | mapping entries =>
    obtain ⟨unique, takesInside⟩ := takes
    rw [prefixed, prefixedEntries_eq unique takesInside] at written
    cases written
    rw [entryCount, entryCount, entryCount_prefixedPairs entries takesInside]
  | list items =>
    rw [prefixed] at written
    obtain ⟨others, writtenItems, ⟨⟩⟩ := bind_eq_ok.mp written
    rw [entryCount, entryCount, entryCount_prefixedItems items takes writtenItems]
  | _ => exact takes.elim

/-- Nor does it do so to several style objects. -/
theorem entryCount_prefixedItems (items : List (Value Rule)) (takes : ItemsTakePrefix items)
    {others : List (Value Rule)} (written : prefixedItems classPrefix items = .ok others) :
    entryCountOfItems others = entryCountOfItems items := by
  cases items with
  | nil =>
    rw [prefixedItems] at written
    cases written
    rfl
  | cons item rest =>
    rw [prefixedItems] at written
    obtain ⟨first, here, written⟩ := bind_eq_ok.mp written
    obtain ⟨behind, writtenBehind, ⟨⟩⟩ := bind_eq_ok.mp written
    rw [entryCountOfItems, entryCountOfItems, entryCount_prefixed item takes.1 here,
      entryCount_prefixedItems rest takes.2 writtenBehind]
end

end StyleObject

namespace Config

variable {config : Setting} {classPrefix : String}

/-- A configuration that gives a prefix puts it behind the dot of a selector. -/
theorem prefixSelector_text (given : classPrefix? config = .ok (some classPrefix))
    (selector : String) : prefixSelector config (.text selector) =
      .ok (.text (StyleObject.prefixedSelector classPrefix selector)) := by
  rw [prefixSelector, given]
  rfl

/-- A style object in which a prefix can be put is converted with a prefix and without one. With
the prefix of a configuration it has as many entries as before. Its trees have a node wherever
those of the object without a prefix have one, with the same label, except for the selectors of
the rules that stand inside no rule and no keyframes, and these are what the configuration makes
of the selectors. Keyframes are the at-rules whose entries say so.

Proof: by induction over the object, converting what the prefix makes of it renames the trees that
are converted without a prefix. What renaming does to the label of a node depends only on the
labels around it. -/
theorem stylesOf_marks_outer_rules {config object : Setting} {classPrefix : String}
    (given : entry config "prefix" = .ok (some (.text classPrefix))) (nonempty : classPrefix ≠ "")
    (takes : StyleObject.TakesPrefix object) :
    ∃ trees marked others,
      StyleObject.parse object = .ok trees ∧
      StyleObject.prefixed classPrefix object = .ok marked ∧
      marked.entryCount = object.entryCount ∧
      StyleObject.parse marked = .ok others ∧ stylesOf config object = .ok others ∧
      (∀ path, (StyleTree.root others).labelAt path =
        ((StyleTree.root trees).labelAt path).map fun label =>
          if ((StyleTree.root trees).around path).any StyleTree.shields then label
          else label.mapSelector (StyleObject.prefixedSelector classPrefix)) ∧
      (∀ selector, prefixSelector config (.text selector) =
        .ok (.text (StyleObject.prefixedSelector classPrefix selector))) ∧
      ∀ name, StyleObject.isAtRule name = true →
        StyleNode.isKeyframes (StyleObject.atRuleParts name).1 =
          StyleObject.isKeyframesEntry name := by
  have found : classPrefix? config = .ok (some classPrefix) := by
    rw [classPrefix?_of_entry given, if_neg nonempty]
  obtain ⟨trees, converted, convertedPrefixed⟩ :=
    StyleObject.parse_prefixed classPrefix object takes
  obtain ⟨marked, written, convertedMarked⟩ := bind_eq_ok.mp convertedPrefixed
  refine ⟨trees, marked, StyleTree.renamedAll classPrefix trees, converted, written,
    StyleObject.entryCount_prefixed object takes written, convertedMarked, ?_, ?_,
    prefixSelector_text found, fun name around => StyleObject.isKeyframes_atRuleParts around⟩
  · rw [stylesOf, found]
    exact convertedPrefixed
  · intro path
    have outermost : StyleTree.root (StyleTree.renamedAll classPrefix trees) =
        StyleTree.renamed classPrefix (.root trees) := by
      rw [StyleTree.renamed]
    rw [outermost]
    exact StyleTree.labelAt_renamed (.root trees) path

/-- Rules in rules, in a media query, in keyframes and beside an entry without a name, in two nested
lists. -/
def nestedCards : Setting :=
  .list [
    .mapping [
      (".card", .mapping [("color", .text "red"), (".badge", .mapping [])]),
      ("@media print", .mapping [
        (".card", .mapping []),
        ("@keyframes spin", .mapping [(".card", .mapping [])]),
        ("src", .list [.text "a", .text "b"])]),
      ("", .mapping [(".card", .mapping [])])],
    .list [.mapping [("div", .mapping []), (".card", .mapping [])]]]

/-- Three of the eight rules are outermost and name a class, one of them in the media query. The
badge, the stage of the keyframes and the rule in the rule without a name stay. -/
theorem stylesOf_marks_outer_rules_nested :
    let config : Setting := .mapping [("prefix", .text "tw-")]
    entry config "prefix" = .ok (some (.text "tw-")) ∧ "tw-" ≠ "" ∧
      StyleObject.TakesPrefix nestedCards ∧
      ∃ others, stylesOf config nestedCards = .ok others ∧
        [[0], [0, 1], [1, 0], [1, 1, 0], [1, 3], [2, 0], [3], [4], [5]].map
            (StyleTree.root others).labelAt =
          [some (.rule ".tw-card"), some (.rule ".badge"), some (.rule ".tw-card"),
            some (.rule ".card"), some (.declaration "src" "b"), some (.rule ".card"),
            some (.rule "div"), some (.rule ".tw-card"), none] := by
  intro config
  have given : entry config "prefix" = .ok (some (.text "tw-")) := rfl
  have takes : StyleObject.TakesPrefix nestedCards := by
    simp [nestedCards, StyleObject.TakesPrefix, StyleObject.ItemsTakePrefix,
      StyleObject.EntriesTakePrefix, StyleObject.EntryTakesPrefix, Entries.names,
      StyleObject.isAtRule, StyleObject.isKeyframesEntry]
  obtain ⟨trees, marked, others, converted, _, _, _, styles, labels, _⟩ :=
    stylesOf_marks_outer_rules given (by decide) takes
  refine ⟨given, by decide, takes, others, styles, ?_⟩
  have plain : StyleObject.parse nestedCards = .ok [
      .rule ".card" [.declaration "color" "red", .rule ".badge" []],
      .atRule "media" "print" [.rule ".card" [],
        .atRule "keyframes" "spin" [.rule ".card" []],
        .declaration "src" "a", .declaration "src" "b"],
      .rule "" [.rule ".card" []],
      .rule "div" [], .rule ".card" []] := by
    with_unfolding_all rfl
  rw [plain] at converted
  cases converted
  simp only [List.map_cons, List.map_nil, labels]
  decide +kernel

end Config

end ClassOrder
