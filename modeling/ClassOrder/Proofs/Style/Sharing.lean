import Mathlib.Data.Fintype.Card
import Mathlib.Logic.Relation
import ClassOrder.Proofs.Style.Stack

/-!
# Shared nodes without cycles

In a graph without cycles every node can be unfolded into a tree, in which a node that is
shared stands once for each path that leads to it. What such trees define is a plain
recursion that remembers nothing: a node yields its own class, or what the nodes inside it
yield, one after the other.

The walk visits a shared node once. That is not to be seen in what it yields: when the walk
comes to the node again, all that is below the node was visited, since the walk cannot be
below it any more without a cycle. So the walk visits the nodes of the unfolded trees in
their order, each where it stands first.
-/
namespace ClassOrder

/-- A style node with the nodes inside it, unfolded. -/
inductive NodeTree where
  | node (kind : NodeKind) (name selector : Attribute String)
    (children : Attribute (List NodeTree))

namespace NodeTree

mutual
/-- The class names that a tree defines, up to the first fault: none for a declaration and
the stages of an animation, the class of a rule with a selector, and for every other node
what is inside it. -/
def classNames : NodeTree → Except Fault (List String)
  | node kind name selector children =>
    match kind, name, selector with
    | .declaration, _, _ => .ok []
    | .atRule, .given name, _ =>
      if "keyframes".toList.isPrefixOf name.toList then .ok [] else classNamesInside children
    | .atRule, .foreign held, _ => .error (.lacks .text held)
    | .rule, _, .given selector =>
      if selector = "" then classNamesInside children
      else if Selector.clean selector = "" then .ok []
      else .ok [Selector.clean selector]
    | .rule, _, .foreign held => .error (.lacks .text held)
    | _, _, _ => classNamesInside children

/-- The class names of what is inside a node. -/
def classNamesInside : Attribute (List NodeTree) → Except Fault (List String)
  | .absent => .ok []
  | .given children => classNamesOfAll children
  | .foreign held => .error (.misused .iterated held)

/-- The class names of trees, one tree after the other. -/
def classNamesOfAll : List NodeTree → Except Fault (List String)
  | [] => .ok []
  | tree :: rest => do
    let front ← classNames tree
    let back ← classNamesOfAll rest
    return front ++ back
end

end NodeTree

/-- What comes of the value of an attribute that is there. -/
def Attribute.map {α β : Type} (change : α → β) : Attribute α → Attribute β
  | .absent => .absent
  | .given value => .given (change value)
  | .foreign kind => .foreign kind

/-- The walk enters a node, or it does not go on to anything from there. -/
theorem StyleNode.encounter_cases (node : StyleNode) :
    node.encounter.entered = [] ∨ node.encounter = node.enter := by
  cases kind : node.kind with
  | declaration => exact .inl (by simp [encounter, kind, Encounter.entered])
  | atRule =>
    cases name : node.name with
    | absent => exact .inr (by simp [encounter, kind, name])
    | given text =>
      by_cases animated : isKeyframes text = true
      · exact .inl (by simp [encounter, kind, name, animated, Encounter.entered])
      · exact .inr (by simp [encounter, kind, name, animated])
    | foreign held => exact .inl (by simp [encounter, kind, name, Encounter.entered])
  | rule =>
    cases selector : node.selector with
    | absent => exact .inr (by simp [encounter, kind, selector])
    | given text =>
      by_cases empty : text = ""
      · exact .inr (by simp [encounter, kind, selector, empty])
      · exact .inl (by simp [encounter, kind, selector, empty, Encounter.entered])
    | foreign held => exact .inl (by simp [encounter, kind, selector, Encounter.entered])
  | other => exact .inr (by simp [encounter, kind])

namespace StyleGraph

variable {graph : StyleGraph} {number : Nat}

/-- A node has another one inside it. -/
def Holds (graph : StyleGraph) (number child : Nat) : Prop :=
  ∃ children, (graph.node number).children = .given children ∧ child ∈ children

/-- No path leads from a node back to it. -/
def Acyclic (graph : StyleGraph) : Prop :=
  ∀ number, ¬ Relation.TransGen graph.Holds number number

/-- Only nodes of the table have something inside them. -/
theorem Holds.lt_size {child : Nat} (holds : graph.Holds number child) :
    number < graph.nodes.size := by
  obtain ⟨children, given, member⟩ := holds
  refine Nat.lt_of_not_le fun beyond => ?_
  rw [node_of_size_le beyond] at given
  cases given

/-- What the walk goes on to is inside the node. -/
theorem holds_of_mem_leads {child : Nat} (member : child ∈ graph.leads number) :
    graph.Holds number child := by
  rw [leads, encounter] at member
  rcases (graph.node number).encounter_cases with stopped | entered
  · rw [stopped] at member
    cases member
  · rw [entered, StyleNode.enter] at member
    cases given : (graph.node number).children with
    | absent | foreign held =>
      rw [given] at member
      cases member
    | given children =>
      rw [given] at member
      exact ⟨children, given, member⟩

/-- A node of the table is below another one when a path leads down to it. -/
def Below (graph : StyleGraph) (child number : Fin graph.nodes.size) : Prop :=
  Relation.TransGen graph.Holds number child

/-- Without a cycle there is no infinite way down through the table, which is finite. -/
theorem Acyclic.wellFounded_below (acyclic : graph.Acyclic) : WellFounded graph.Below := by
  have finite : Finite (Fin graph.nodes.size) := ⟨.refl _⟩
  have trans : IsTrans _ graph.Below := ⟨fun _ _ _ first second => second.trans first⟩
  have irrefl : Std.Irrefl graph.Below := ⟨fun number => acyclic number⟩
  exact Finite.wellFounded_of_trans_of_irrefl graph.Below

/-- Nor is there one through all nodes, since what is beyond the table has nothing inside. -/
theorem Acyclic.wellFounded (acyclic : graph.Acyclic) :
    WellFounded fun child number => graph.Holds number child := by
  have inTable : ∀ number : Fin graph.nodes.size,
      Acc (fun child number => graph.Holds number child) number.val := by
    intro number
    induction number using acyclic.wellFounded_below.induction with
    | h number inductionHypothesis =>
      refine ⟨_, fun child holds => ?_⟩
      by_cases bound : child < graph.nodes.size
      · exact inductionHypothesis ⟨child, bound⟩ (.single holds)
      · exact ⟨_, fun _ inside => absurd inside.lt_size bound⟩
  refine ⟨fun number => ?_⟩
  by_cases bound : number < graph.nodes.size
  · exact inTable ⟨number, bound⟩
  · exact ⟨_, fun _ inside => absurd inside.lt_size bound⟩

/-- There is no cycle where every node stands before what is inside it. -/
theorem acyclic_of_lt (rising : ∀ number child, graph.Holds number child → number < child) :
    graph.Acyclic := by
  have below : ∀ first last, Relation.TransGen graph.Holds first last → first < last := by
    intro first last path
    induction path with
    | single holds => exact rising _ _ holds
    | tail _ holds before => exact before.trans (rising _ _ holds)
  exact fun number path => Nat.lt_irrefl _ (below number number path)

/-- The tree that a node is with all that is inside it. -/
def unfold (graph : StyleGraph) (acyclic : graph.Acyclic) (number : Nat) : NodeTree :=
  .node (graph.node number).kind (graph.node number).name (graph.node number).selector
    (match given : (graph.node number).children with
    | .absent => .absent
    | .given children => .given (children.attach.map fun ⟨child, member⟩ =>
        have : graph.Holds number child := ⟨children, given, member⟩
        unfold graph acyclic child)
    | .foreign kind => .foreign kind)
termination_by acyclic.wellFounded.wrap number
decreasing_by
  assumption

/-- A node is unfolded with what is inside it. -/
theorem unfold_eq (acyclic : graph.Acyclic) (number : Nat) :
    graph.unfold acyclic number = .node (graph.node number).kind (graph.node number).name
      (graph.node number).selector
      ((graph.node number).children.map fun children => children.map (graph.unfold acyclic)) := by
  rw [unfold]
  congr 1
  split
  · rename_i given
    rw [given]
    rfl
  · rename_i children given
    have unfolded : ((graph.node number).children.map fun inside =>
        inside.map (graph.unfold acyclic)) = .given (children.map (graph.unfold acyclic)) := by
      rw [given]
      rfl
    rw [unfolded]
    exact congrArg Attribute.given List.attach_map_val
  · rename_i given
    rw [given]
    rfl

/-! ## What a node defines -/

/-- What a node defines depends on what the walk does at the node. -/
theorem classNames_node (node : StyleNode) (unfolded : Nat → NodeTree) :
    (NodeTree.node node.kind node.name node.selector
      (node.children.map fun children => children.map unfolded)).classNames =
      match node.encounter with
      | .skip => .ok []
      | .emit name => .ok (if name = "" then [] else [name])
      | .enter children => NodeTree.classNamesOfAll (children.map unfolded)
      | .fail fault => .error fault := by
  have inside : NodeTree.classNamesInside
      (node.children.map fun children => children.map unfolded) =
      match node.enter with
      | .skip => .ok []
      | .emit name => .ok (if name = "" then [] else [name])
      | .enter children => NodeTree.classNamesOfAll (children.map unfolded)
      | .fail fault => .error fault := by
    cases children : node.children with
    | absent =>
      simp [Attribute.map, StyleNode.enter, children, NodeTree.classNamesInside,
        NodeTree.classNamesOfAll]
    | given numbers => simp [Attribute.map, StyleNode.enter, children, NodeTree.classNamesInside]
    | foreign held => simp [Attribute.map, StyleNode.enter, children, NodeTree.classNamesInside]
  cases kind : node.kind with
  | declaration => simp [NodeTree.classNames, StyleNode.encounter, kind]
  | atRule =>
    cases name : node.name with
    | absent => simp [NodeTree.classNames, StyleNode.encounter, kind, name, inside]
    | given text =>
      by_cases animated : StyleNode.isKeyframes text = true
      · have skipped : "keyframes".toList.isPrefixOf text.toList = true := animated
        simp only [NodeTree.classNames, StyleNode.encounter, kind, name, animated, skipped, if_true]
      · have entered : ¬ "keyframes".toList.isPrefixOf text.toList = true := animated
        simp only [NodeTree.classNames, StyleNode.encounter, kind, name, animated, entered, inside,
          if_false, Bool.false_eq_true]
    | foreign held => simp [NodeTree.classNames, StyleNode.encounter, kind, name]
  | rule =>
    cases selector : node.selector with
    | absent => simp [NodeTree.classNames, StyleNode.encounter, kind, selector, inside]
    | given text =>
      by_cases empty : text = ""
      · simp [NodeTree.classNames, StyleNode.encounter, kind, selector, inside, empty]
      · by_cases nothing : Selector.clean text = "" <;>
          simp [NodeTree.classNames, StyleNode.encounter, kind, selector, empty, nothing]
    | foreign held => simp [NodeTree.classNames, StyleNode.encounter, kind, selector]
  | other => simp [NodeTree.classNames, StyleNode.encounter, kind, inside]

/-- A tree defines what its node yields, and then what the trees inside it define as far as
the walk goes on to them. -/
theorem classNames_unfold (acyclic : graph.Acyclic) (number : Nat) :
    (graph.unfold acyclic number).classNames = do
      let own ← graph.yields [number]
      let inside ← NodeTree.classNamesOfAll
        ((graph.leads number).map (graph.unfold acyclic))
      return own ++ inside := by
  have same : (graph.node number).encounter = graph.encounter number := rfl
  rw [unfold_eq, classNames_node, yields_singleton, leads, same]
  cases graph.encounter number with
  | skip => rfl
  | emit name => exact congrArg Except.ok (List.append_nil _).symm
  | enter children =>
    simp only [Encounter.entered]
    cases NodeTree.classNamesOfAll (children.map (graph.unfold acyclic)) <;> rfl
  | fail fault => rfl

/-- The walk visits only nodes that paths lead to. -/
theorem path_of_mem_walk {seen waiting : List Nat} (visited : number ∈ graph.walk seen waiting) :
    ∃ start ∈ waiting, Relation.ReflTransGen graph.Holds start number := by
  fun_induction walk graph seen waiting with
  | case1 seen => cases visited
  | case2 seen first rest fresh pathBehind =>
    rcases List.mem_cons.mp visited with rfl | behind
    · exact ⟨number, List.mem_cons_self, .refl⟩
    · obtain ⟨start, waits, path⟩ := pathBehind behind
      rcases List.mem_append.mp waits with inside | later
      · exact ⟨first, List.mem_cons_self, path.head (holds_of_mem_leads inside)⟩
      · exact ⟨start, List.mem_cons_of_mem _ later, path⟩
  | case3 seen first rest passed pathBehind =>
    obtain ⟨start, waits, path⟩ := pathBehind visited
    exact ⟨start, List.mem_cons_of_mem _ waits, path⟩

/-- Without a cycle the walk through what is inside a node does not come to the node again,
and goes as it would if the node had not been visited. -/
theorem walk_single (acyclic : graph.Acyclic) (bound : number < graph.nodes.size) :
    graph.walk [] [number] = number :: graph.walk [] (graph.leads number) := by
  have unmet : ∀ visited ∈ [number], visited ∉ graph.walk [] (graph.leads number) := by
    intro visited here again
    rw [List.mem_singleton] at here
    subst here
    obtain ⟨start, inside, path⟩ := path_of_mem_walk again
    exact acyclic visited (.head' (holds_of_mem_leads inside) path)
  rw [walk_cons_of_fresh [] ⟨bound, List.not_mem_nil⟩, List.append_nil, List.nil_append,
    ← walk_of_unmet unmet, List.append_nil]

/-- The walk yields what the unfolded trees of some nodes define, if it does so for each of
the nodes on its own. -/
theorem yields_walk_of_each (acyclic : graph.Acyclic) {numbers : List Nat}
    (each : ∀ number ∈ numbers, List.eraseDups <$> graph.yields (graph.walk [] [number]) =
      List.eraseDups <$> (graph.unfold acyclic number).classNames) :
    List.eraseDups <$> graph.yields (graph.walk [] numbers) =
      List.eraseDups <$> NodeTree.classNamesOfAll (numbers.map (graph.unfold acyclic)) := by
  induction numbers with
  | nil =>
    rw [walk_nil]
    rfl
  | cons number rest inductionHypothesis =>
    obtain ⟨eachFirst, eachRest⟩ := List.forall_mem_cons.mp each
    rw [← List.singleton_append, walk_append_eq_eraseDups, yields_eraseDups, yields_append,
      eraseDups_both, eachFirst, inductionHypothesis eachRest, ← eraseDups_both]
    rfl

/-- The walk from one node yields what its unfolded tree defines. -/
theorem yields_walk_single (acyclic : graph.Acyclic) (number : Nat) :
    List.eraseDups <$> graph.yields (graph.walk [] [number]) =
      List.eraseDups <$> (graph.unfold acyclic number).classNames := by
  induction number using acyclic.wellFounded.induction with
  | h number inductionHypothesis =>
    have inside : List.eraseDups <$> graph.yields (graph.walk [] (graph.leads number)) =
        List.eraseDups <$> NodeTree.classNamesOfAll
          ((graph.leads number).map (graph.unfold acyclic)) :=
      yields_walk_of_each acyclic fun child member =>
        inductionHypothesis child (holds_of_mem_leads member)
    by_cases bound : number < graph.nodes.size
    · rw [walk_single acyclic bound, ← List.singleton_append, yields_append, classNames_unfold,
        eraseDups_both, inside, ← eraseDups_both]
    · have passed : ¬ graph.Fresh [] number := fun fresh => bound fresh.1
      have nothing : graph.encounter number = .enter [] := by
        rw [encounter, node_of_size_le (Nat.le_of_not_lt bound)]
        rfl
      rw [walk_cons_of_not_fresh [] passed, walk_nil, classNames_unfold, leads, yields_singleton,
        nothing]
      rfl

end StyleGraph

/-! ## What a forest defines -/

namespace StyleForest

/-- In a graph without cycles it is not to be seen that nodes are shared: extraction yields what
the recursion defines that goes through the unfolded trees of the roots and remembers nothing,
without repetitions, in the order of the first occurrences or alphabetically. When the recursion
meets a fault, extraction meets the same fault.

Proof: by induction along the edges, the walk from a single node yields the names of its unfolded
tree up to repetitions. The walk from several nodes visits less than the walks from each, but it
leaves out only nodes whose names came before. -/
theorem extract_eq_unfolded (forest : StyleForest) (acyclic : forest.graph.Acyclic)
    (sorted : Bool) :
    forest.extract sorted = do
      let names ← NodeTree.classNamesOfAll (forest.roots.map (forest.graph.unfold acyclic))
      return if sorted then alphabetical names.eraseDups else names.eraseDups := by
  have same : List.eraseDups <$> forest.graph.yields (forest.graph.walk [] forest.roots) =
      List.eraseDups <$>
        NodeTree.classNamesOfAll (forest.roots.map (forest.graph.unfold acyclic)) :=
    StyleGraph.yields_walk_of_each acyclic fun number _ =>
      StyleGraph.yields_walk_single acyclic number
  have order : ∀ names : Except Fault (List String), (do
      let names ← names
      return if sorted then alphabetical names.eraseDups else names.eraseDups) =
      (fun names => if sorted then alphabetical names else names) <$> List.eraseDups <$> names := by
    intro names
    cases names <;> rfl
  rw [extract_eq_yields, order, order, same]

/-- A rule that stands in two nodes, one of which stands in the other and is a root twice. -/
def woven : StyleForest where
  graph := ⟨#[
    { kind := .atRule, name := .given "media", children := .given [2, 1] },
    { children := .given [3, 2] },
    { kind := .rule, selector := .given ".card" },
    { kind := .rule, selector := .given ".badge" }]⟩
  roots := [1, 0, 1]

/-- The unfolded trees define the classes seven times, and extraction yields each once. -/
theorem extract_eq_unfolded_woven : ∃ acyclic : woven.graph.Acyclic,
    NodeTree.classNamesOfAll (woven.roots.map (woven.graph.unfold acyclic)) =
      .ok ["badge", "card", "card", "badge", "card", "badge", "card"] ∧
    woven.extract false = .ok ["badge", "card"] := by
  have acyclic : woven.graph.Acyclic := by
    apply StyleGraph.acyclic_of_lt
    intro number child holds
    have bound : number < 4 := holds.lt_size
    obtain ⟨children, given, member⟩ := holds
    match number, bound with
    | 0, _ | 1, _ =>
      cases given
      simp only [List.mem_cons, List.not_mem_nil, or_false] at member
      omega
    | 2, _ | 3, _ => cases given
  have unfolded : NodeTree.classNamesOfAll (woven.roots.map (woven.graph.unfold acyclic)) =
      .ok ["badge", "card", "card", "badge", "card", "badge", "card"] := by
    have badge : Selector.clean ".badge" = "badge" := by decide +kernel
    have card : Selector.clean ".card" = "card" := by decide +kernel
    have roots : woven.roots = [1, 0, 1] := rfl
    have outer : woven.graph.node 0 =
      { kind := .atRule, name := .given "media", children := .given [2, 1] } := rfl
    have inner : woven.graph.node 1 = { children := .given [3, 2] } := rfl
    have first : woven.graph.node 2 = { kind := .rule, selector := .given ".card" } := rfl
    have second : woven.graph.node 3 = { kind := .rule, selector := .given ".badge" } := rfl
    simp only [roots, List.map_cons, List.map_nil, StyleGraph.unfold_eq, outer, inner, first,
      second, Attribute.map, NodeTree.classNamesOfAll, NodeTree.classNames,
      NodeTree.classNamesInside, badge, card]
    rfl
  refine ⟨acyclic, unfolded, ?_⟩
  rw [extract_eq_unfolded woven acyclic false, unfolded]
  have kept : ["badge", "card", "card", "badge", "card", "badge", "card"].eraseDups =
      ["badge", "card"] := by decide
  exact congrArg Except.ok kept

end StyleForest

end ClassOrder
