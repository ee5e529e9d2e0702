import ClassOrder.Style.Tree

/-!
# Style graphs

An engine of another make may hand over nodes that are shared between parents, that
contain themselves, that lack some attributes, or that hold something foreign in them.
Such nodes form a graph: a table of nodes, each with the numbers of the nodes inside it.
A number beyond the table names a node without attributes. Style trees form a graph in
which nothing is shared, numbered in the order in which the nodes are written.
-/
namespace ClassOrder

/-- What a node is. -/
inductive NodeKind where
  | rule
  | declaration
  | atRule
  | other
  deriving DecidableEq

/-- An attribute of a node. -/
inductive Attribute (α : Type) where
  /-- The node lacks the attribute, or nothing is in it. -/
  | absent
  | given (value : α)
  /-- The attribute holds a value of a kind that does not belong there. -/
  | foreign (kind : String)

/-- A node of a style graph. -/
structure StyleNode where
  kind : NodeKind := .other
  name : Attribute String := .absent
  selector : Attribute String := .absent
  children : Attribute (List Nat) := .absent

/-- A table of style nodes. A node is named by its place in the table. -/
structure StyleGraph where
  nodes : Array StyleNode := #[]

/-- A style graph and the nodes to start from. -/
structure StyleForest where
  graph : StyleGraph := {}
  roots : List Nat := []

namespace StyleGraph

/-- The node with a number. A number beyond the table names a node without attributes. -/
def node (graph : StyleGraph) (number : Nat) : StyleNode :=
  graph.nodes.getD number {}

end StyleGraph

namespace StyleTree

mutual
/-- The number of nodes of a tree. -/
def size : StyleTree → Nat
  | rule _ children => sizeOfAll children + 1
  | declaration _ _ => 1
  | atRule _ _ children => sizeOfAll children + 1
  | root children => sizeOfAll children + 1

/-- The number of nodes of several trees. -/
def sizeOfAll : List StyleTree → Nat
  | [] => 0
  | tree :: rest => tree.size + sizeOfAll rest
end

/-- The numbers of several trees that are written one after the other. -/
def numbers (start : Nat) : List StyleTree → List Nat
  | [] => []
  | tree :: rest => start :: numbers (start + tree.size) rest

mutual
/-- The nodes of a tree whose own number is `start`. -/
def nodes (start : Nat) : StyleTree → List StyleNode
  | rule selector children =>
    { kind := .rule, selector := .given selector,
      children := .given (numbers (start + 1) children) } :: nodesOfAll (start + 1) children
  | declaration name _ => [{ kind := .declaration, name := .given name }]
  | atRule name _ children =>
    { kind := .atRule, name := .given name,
      children := .given (numbers (start + 1) children) } :: nodesOfAll (start + 1) children
  | root children =>
    { children := .given (numbers (start + 1) children) } :: nodesOfAll (start + 1) children

/-- The nodes of several trees, the first of which has the number `start`. -/
def nodesOfAll (start : Nat) : List StyleTree → List StyleNode
  | [] => []
  | tree :: rest => nodes start tree ++ nodesOfAll (start + tree.size) rest
end

end StyleTree

/-- The forest of some style trees, in which nothing is shared. -/
def StyleForest.ofTrees (trees : List StyleTree) : StyleForest where
  graph := ⟨(StyleTree.nodesOfAll 0 trees).toArray⟩
  roots := StyleTree.numbers 0 trees

/-- The style graphs of one or more plugins, apart by group. -/
structure StyleForests where
  components : StyleForest := {}
  utilities : StyleForest := {}

/-- The forests of styles. -/
def StyleForests.ofStyles (styles : Styles) : StyleForests where
  components := .ofTrees styles.components
  utilities := .ofTrees styles.utilities

end ClassOrder
