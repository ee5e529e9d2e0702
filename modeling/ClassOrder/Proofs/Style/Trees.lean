import ClassOrder.Proofs.Style.Walk

/-!
# The walk over style trees

The nodes of style trees are numbered in the order in which they are written, so nothing
is shared among them and the walk comes to the nodes in rising order. What it yields is
what a plain recursion over the trees yields.
-/
namespace ClassOrder

namespace StyleTree

mutual
/-- The class names of a tree, in the order in which they are written. What is inside a
rule with a selector, or inside keyframes, yields none. -/
def classNames : StyleTree → List String
  | rule selector children =>
    if selector = "" then classNamesOfAll children
    else if Selector.clean selector = "" then [] else [Selector.clean selector]
  | declaration _ _ => []
  | atRule name _ children =>
    if StyleNode.isKeyframes name then [] else classNamesOfAll children
  | root children => classNamesOfAll children

/-- The class names of several trees in turn. -/
def classNamesOfAll : List StyleTree → List String
  | [] => []
  | tree :: rest => tree.classNames ++ classNamesOfAll rest
end

/-- The class names of several trees are those of each of them in turn. -/
theorem classNamesOfAll_eq_flatMap (trees : List StyleTree) :
    classNamesOfAll trees = trees.flatMap classNames := by
  induction trees with
  | nil => rfl
  | cons tree rest inductionHypothesis =>
    rw [classNamesOfAll, inductionHypothesis, List.flatMap_cons]

/-- One tree has its own class names. -/
theorem classNamesOfAll_singleton (tree : StyleTree) :
    classNamesOfAll [tree] = tree.classNames := by
  rw [classNamesOfAll_eq_flatMap, List.flatMap_singleton]

/-- Trees in two lists have the class names of the first list and then those of the second. -/
theorem classNamesOfAll_append (trees later : List StyleTree) :
    classNamesOfAll (trees ++ later) = classNamesOfAll trees ++ classNamesOfAll later := by
  simp only [classNamesOfAll_eq_flatMap, List.flatMap_append]

mutual
/-- A tree has as many nodes as its size says. -/
theorem length_nodes (start : Nat) (tree : StyleTree) : (tree.nodes start).length = tree.size := by
  cases tree with
  | rule selector children => simp [nodes, size, length_nodesOfAll]
  | declaration name value => rfl
  | atRule name params children => simp [nodes, size, length_nodesOfAll]
  | root children => simp [nodes, size, length_nodesOfAll]

/-- Trees have as many nodes as their size says. -/
theorem length_nodesOfAll (start : Nat) (trees : List StyleTree) :
    (nodesOfAll start trees).length = sizeOfAll trees := by
  cases trees with
  | nil => rfl
  | cons tree rest => simp [nodesOfAll, sizeOfAll, length_nodes, length_nodesOfAll]
end

mutual
/-- The attributes of a tree's nodes hold what belongs there. -/
theorem documented_nodes (start : Nat) (tree : StyleTree) :
    ∀ node ∈ tree.nodes start, node.Documented := by
  cases tree with
  | rule selector children =>
    exact List.forall_mem_cons.mpr
      ⟨⟨trivial, trivial, trivial⟩, documented_nodesOfAll (start + 1) children⟩
  | declaration name value =>
    exact List.forall_mem_cons.mpr ⟨⟨trivial, trivial, trivial⟩, by simp⟩
  | atRule name params children =>
    exact List.forall_mem_cons.mpr
      ⟨⟨trivial, trivial, trivial⟩, documented_nodesOfAll (start + 1) children⟩
  | root children =>
    exact List.forall_mem_cons.mpr
      ⟨⟨trivial, trivial, trivial⟩, documented_nodesOfAll (start + 1) children⟩

/-- The attributes of the nodes of trees hold what belongs there. -/
theorem documented_nodesOfAll (start : Nat) (trees : List StyleTree) :
    ∀ node ∈ nodesOfAll start trees, node.Documented := by
  cases trees with
  | nil => simp [nodesOfAll]
  | cons tree rest =>
    exact List.forall_mem_append.mpr
      ⟨documented_nodes start tree, documented_nodesOfAll (start + tree.size) rest⟩
end

end StyleTree

namespace StyleGraph

variable {graph : StyleGraph} {start : Nat} {seen : List Nat}

/-- The nodes stand in the table one after the other, the first of them under the number
`start`. -/
def HoldsFrom (graph : StyleGraph) (start : Nat) (nodes : List StyleNode) : Prop :=
  ∃ before after, graph.nodes.toList = before ++ nodes ++ after ∧ before.length = start

/-- The first of several nodes has the number `start`, and the others come after it. -/
theorem HoldsFrom.cons {node : StyleNode} {rest : List StyleNode}
    (held : graph.HoldsFrom start (node :: rest)) :
    graph.node start = node ∧ start < graph.nodes.size ∧ graph.HoldsFrom (start + 1) rest := by
  obtain ⟨before, after, table, rfl⟩ := held
  have found : graph.nodes[before.length]? = some node := by
    rw [← Array.getElem?_toList, table]
    simp
  obtain ⟨bound, _⟩ := Array.getElem?_eq_some_iff.mp found
  refine ⟨?_, bound, before ++ [node], after, ?_, by simp⟩
  · rw [StyleGraph.node, Array.getD_eq_getD_getElem?, found, Option.getD_some]
  · rw [table]
    simp

/-- Nodes that stand in the table stand there part by part. -/
theorem HoldsFrom.append {front back : List StyleNode}
    (held : graph.HoldsFrom start (front ++ back)) :
    graph.HoldsFrom start front ∧ graph.HoldsFrom (start + front.length) back := by
  obtain ⟨before, after, table, rfl⟩ := held
  refine ⟨⟨before, back ++ after, ?_, rfl⟩, before ++ front, after, ?_, by simp⟩
  · rw [table]
    simp
  · rw [table]
    simp

/-- The class names of nodes. -/
def namesAt (graph : StyleGraph) (numbers : List Nat) : List String :=
  numbers.filterMap fun number => (graph.node number).className?

/-- A visit to the first node comes before the visits to what is inside it, and these come
before all others. -/
theorem preorder_cons_of_fresh {number : Nat} (rest : List Nat)
    (fresh : number < graph.nodes.size ∧ number ∉ seen) :
    graph.preorder seen (number :: rest) =
      (number :: graph.preorder (seen ++ [number]) (graph.node number).inside) ++
        graph.preorder (seen ++
          number :: graph.preorder (seen ++ [number]) (graph.node number).inside) rest := by
  rw [preorder, dif_pos fresh]

/-- The names at several nodes are the one at the first node, if any, and those at the others. -/
theorem namesAt_cons (number : Nat) (rest : List Nat) :
    graph.namesAt (number :: rest) =
      (graph.node number).className?.toList ++ graph.namesAt rest := by
  rw [namesAt, List.filterMap_cons]
  cases (graph.node number).className? <;> rfl

/-- A visit to a node at which the walk stops yields the class of the node. -/
theorem visit_of_stopped {names : List String} {bound : Nat}
    (stopped : (graph.node start).inside = [])
    (named : (graph.node start).className?.toList = names) :
    graph.namesAt (start :: graph.preorder (seen ++ [start]) (graph.node start).inside) = names ∧
      ∀ number ∈ graph.preorder (seen ++ [start]) (graph.node start).inside, number < bound := by
  rw [stopped, preorder, namesAt_cons, named]
  exact ⟨by simp [namesAt], by simp⟩

/-- A visit to a node without a class yields what is inside it. -/
theorem visit_of_entered {numbers : List Nat} {names : List String} {size : Nat}
    (entered : (graph.node start).inside = numbers)
    (unnamed : (graph.node start).className? = none)
    (visits : graph.namesAt (graph.preorder (seen ++ [start]) numbers) = names ∧
      ∀ number ∈ graph.preorder (seen ++ [start]) numbers, number < start + 1 + size) :
    graph.namesAt (start :: graph.preorder (seen ++ [start]) (graph.node start).inside) = names ∧
      ∀ number ∈ graph.preorder (seen ++ [start]) (graph.node start).inside,
        number < start + (size + 1) := by
  obtain ⟨yielded, bounded⟩ := visits
  rw [entered, namesAt_cons, unnamed, yielded]
  refine ⟨rfl, fun number member => ?_⟩
  have bound := bounded number member
  omega

mutual
/-- The walk at the root of a tree that comes after all visited nodes yields the names of the
tree and stays inside the tree. -/
theorem preorder_tree (tree : StyleTree) (start : Nat) (seen : List Nat)
    (held : graph.HoldsFrom start (tree.nodes start))
    (visited : ∀ number ∈ seen, number < start) :
    graph.namesAt (start :: graph.preorder (seen ++ [start]) (graph.node start).inside) =
        tree.classNames ∧
      ∀ number ∈ graph.preorder (seen ++ [start]) (graph.node start).inside,
        number < start + tree.size := by
  have visitedNext : ∀ number ∈ seen ++ [start], number < start + 1 := by
    intro number member
    rcases List.mem_append.mp member with old | new
    · exact Nat.lt_succ_of_lt (visited number old)
    · exact List.mem_singleton.mp new ▸ Nat.lt_succ_self start
  -- Whatever the kind of the root, the walk stops there or enters it.
  cases tree with
  | rule selector children =>
    obtain ⟨found, _, below⟩ := held.cons
    rw [StyleTree.classNames]
    by_cases empty : selector = ""
    · have cleaned : Selector.clean "" = "" := by decide
      rw [if_pos empty]
      exact visit_of_entered (by simp [found, StyleNode.inside, StyleNode.isClosed, empty])
        (by simp [found, StyleNode.className?, empty, cleaned])
        (preorder_trees children (start + 1) (seen ++ [start]) below visitedNext)
    · rw [if_neg empty]
      refine visit_of_stopped (by simp [found, StyleNode.inside, StyleNode.isClosed, empty]) ?_
      simp only [found, StyleNode.className?]
      split <;> rfl
  | declaration name value =>
    obtain ⟨found, _⟩ := held.cons
    exact visit_of_stopped (by simp [found, StyleNode.inside, StyleNode.isClosed])
      (by simp [found, StyleNode.className?, StyleTree.classNames])
  | atRule name params children =>
    obtain ⟨found, _, below⟩ := held.cons
    rw [StyleTree.classNames]
    by_cases animated : StyleNode.isKeyframes name = true
    · have closed : (graph.node start).isClosed = true := by
        rw [found]
        exact animated
      rw [if_pos animated]
      exact visit_of_stopped (by simp [StyleNode.inside, closed])
        (by simp [found, StyleNode.className?])
    · have opened : (graph.node start).isClosed = false := by
        rw [found]
        exact Bool.eq_false_iff.mpr animated
      have holds : (graph.node start).children =
          .given (StyleTree.numbers (start + 1) children) := by
        rw [found]
      rw [if_neg animated]
      exact visit_of_entered (by simp [StyleNode.inside, opened, holds])
        (by simp [found, StyleNode.className?])
        (preorder_trees children (start + 1) (seen ++ [start]) below visitedNext)
  | root children =>
    obtain ⟨found, _, below⟩ := held.cons
    exact visit_of_entered (by simp [found, StyleNode.inside, StyleNode.isClosed])
      (by simp [found, StyleNode.className?])
      (preorder_trees children (start + 1) (seen ++ [start]) below visitedNext)

/-- The walk over trees that come after all visited nodes yields the names of the trees and
stays inside them. -/
theorem preorder_trees (trees : List StyleTree) (start : Nat) (seen : List Nat)
    (held : graph.HoldsFrom start (StyleTree.nodesOfAll start trees))
    (visited : ∀ number ∈ seen, number < start) :
    graph.namesAt (graph.preorder seen (StyleTree.numbers start trees)) =
        StyleTree.classNamesOfAll trees ∧
      ∀ number ∈ graph.preorder seen (StyleTree.numbers start trees),
        number < start + StyleTree.sizeOfAll trees := by
  cases trees with
  | nil => simp [StyleTree.numbers, preorder, namesAt, StyleTree.classNamesOfAll]
  | cons tree rest =>
    obtain ⟨front, back⟩ := held.append
    rw [StyleTree.length_nodes] at back
    have inTable : start < graph.nodes.size := by
      cases tree <;> exact front.cons.2.1
    have unseen : start ∉ seen := fun old => Nat.lt_irrefl start (visited start old)
    obtain ⟨names, bounded⟩ := preorder_tree tree start seen front visited
    have sized : 0 < tree.size := by
      cases tree <;> simp [StyleTree.size]
    -- Where the walk goes on behind a tree, it has visited nothing beyond that tree.
    have visitedNext : ∀ number ∈
        seen ++ start :: graph.preorder (seen ++ [start]) (graph.node start).inside,
        number < start + tree.size := by
      intro number member
      rcases List.mem_append.mp member with old | new
      · exact Nat.lt_add_right _ (visited number old)
      · rcases List.mem_cons.mp new with rfl | inner
        · omega
        · exact bounded number inner
    obtain ⟨namesBehind, boundedBehind⟩ :=
      preorder_trees rest (start + tree.size) _ back visitedNext
    rw [StyleTree.numbers, preorder_cons_of_fresh _ ⟨inTable, unseen⟩, StyleTree.classNamesOfAll,
      StyleTree.sizeOfAll]
    refine ⟨?_, fun number member => ?_⟩
    · rw [← names, ← namesBehind, namesAt, List.filterMap_append]
      rfl
    · rcases List.mem_append.mp member with inFront | behind
      · have bound := visitedNext number (List.mem_append_right _ inFront)
        omega
      · have bound := boundedBehind number behind
        omega
end

end StyleGraph

namespace StyleForest

/-- The attributes of the nodes of style trees hold what belongs there. -/
theorem documented_ofTrees (trees : List StyleTree) : (ofTrees trees).graph.Documented := by
  intro node member
  have listed : node ∈ (StyleTree.nodesOfAll 0 trees).toArray := member
  exact StyleTree.documented_nodesOfAll 0 trees node (by simpa using listed)

/-- The walk over style trees meets no fault. -/
theorem fault?_ofTrees (trees : List StyleTree) : (ofTrees trees).fault? = none :=
  fault?_eq_none (documented_ofTrees trees)

/-- The walk over style trees yields the class names of the trees. -/
theorem classNames_ofTrees (trees : List StyleTree) :
    (ofTrees trees).classNames = StyleTree.classNamesOfAll trees := by
  have held : (ofTrees trees).graph.HoldsFrom 0 (StyleTree.nodesOfAll 0 trees) :=
    ⟨[], [], by simp [ofTrees], rfl⟩
  rw [classNames_eq_preorderNames (documented_ofTrees trees)]
  exact (StyleGraph.preorder_trees trees 0 [] held (by simp)).1

end StyleForest

end ClassOrder
