import ClassOrder.Fault
import ClassOrder.Selector
import ClassOrder.Style.Graph

/-!
# The selectors that styles define

The walk visits the nodes of a graph depth first, in the order in which they are
written, and every node at most once. A rule with a selector yields the class name of
that selector and is not entered. Declarations and keyframes yield nothing and are not
entered either. Everything else is entered. A foreign attribute is a fault where the
walk needs it, and the first fault met ends the extraction.

Nodes wait on a stack, and a node may wait there several times before its first visit.
Each node of the table has a mark until it is visited, and the walk ends because each
visit takes a mark away.
-/
namespace ClassOrder

/-- What the walk does at a node. -/
inductive Encounter where
  /-- The node is passed over. -/
  | skip
  /-- The node names a class and is not entered. -/
  | emit (name : String)
  /-- The node is entered. -/
  | enter (children : List Nat)
  /-- The node cannot be dealt with. -/
  | fail (fault : Fault)

namespace Encounter

/-- The class name that an encounter yields, unless it is empty. -/
def name? : Encounter → Option String
  | emit name => if name == "" then none else some name
  | _ => none

/-- The nodes that an encounter leads to. -/
def entered : Encounter → List Nat
  | enter children => children
  | _ => []

/-- The fault of an encounter. -/
def fault? : Encounter → Option Fault
  | fail fault => some fault
  | _ => none

end Encounter

namespace StyleNode

/-- Whether an at-rule of this name holds the stages of an animation. -/
def isKeyframes (name : String) : Bool :=
  "keyframes".toList.isPrefixOf name.toList

/-- Entering a node. -/
def enter (node : StyleNode) : Encounter :=
  match node.children with
  | .absent => .enter []
  | .given children => .enter children
  | .foreign kind => .fail (.misused .iterated kind)

/-- What the walk does at a node: a matter of its kind, its name and its selector. -/
def encounter (node : StyleNode) : Encounter :=
  match node.kind with
  | .declaration => .skip
  | .atRule =>
    match node.name with
    | .absent => node.enter
    | .given name => if isKeyframes name then .skip else node.enter
    | .foreign kind => .fail (.lacks .text kind)
  | .rule =>
    match node.selector with
    | .absent => node.enter
    | .given selector => if selector == "" then node.enter else .emit (Selector.clean selector)
    | .foreign kind => .fail (.lacks .text kind)
  | .other => node.enter

end StyleNode

/-- Which nodes of a table are not visited yet: a mark for each of them, by its number. -/
structure Unvisited where
  marks : Array Bool

namespace Unvisited

/-- All nodes of a table. -/
def all (size : Nat) : Unvisited where
  marks := Array.replicate size true

/-- Whether a node is not visited yet. A number beyond the table names none that could be. -/
def holds (unvisited : Unvisited) (number : Nat) : Bool :=
  unvisited.marks.getD number false

/-- The nodes that are left after a visit. -/
def visit (unvisited : Unvisited) (number : Nat) : Unvisited where
  marks := unvisited.marks.setIfInBounds number false

/-- How many nodes are left. -/
def count (unvisited : Unvisited) : Nat :=
  unvisited.marks.count true

/-- A node that is left is in the table. -/
theorem marked_of_holds {unvisited : Unvisited} {number : Nat}
    (left : unvisited.holds number = true) :
    ∃ bound : number < unvisited.marks.size, unvisited.marks[number] = true := by
  unfold holds Array.getD at left
  split at left
  · exact ⟨_, left⟩
  · cases left

/-- A visit leaves fewer nodes to visit. -/
theorem count_visit_lt {unvisited : Unvisited} {number : Nat}
    (left : unvisited.holds number = true) :
    (unvisited.visit number).count < unvisited.count := by
  obtain ⟨bound, marked⟩ := marked_of_holds left
  have fewer : (unvisited.visit number).count = unvisited.count - 1 := by
    simp [count, visit, Array.setIfInBounds, bound, Array.count_set bound, marked]
  have nonempty : 0 < unvisited.count := Array.count_pos_iff.mpr (Array.mem_of_getElem marked)
  omega

end Unvisited

namespace StyleGraph

/-- What the walk does at the node with a number. -/
def encounter (graph : StyleGraph) (number : Nat) : Encounter :=
  (graph.node number).encounter

/-- The waiting nodes from the first one on that may still be visited. -/
def nextUnvisited (unvisited : Unvisited) (waiting : List Nat) : List Nat :=
  waiting.dropWhile fun number => !unvisited.holds number

/-- The node that is reached next may still be visited. -/
theorem holds_of_nextUnvisited {unvisited : Unvisited} {waiting rest : List Nat} {number : Nat}
    (reached : nextUnvisited unvisited waiting = number :: rest) :
    unvisited.holds number = true := by
  have stopped := List.head?_dropWhile_not (fun number => !unvisited.holds number) waiting
  unfold nextUnvisited at reached
  rw [reached] at stopped
  simpa using stopped

/-- The nodes in the order in which a walk visits them, given the nodes that may still be
visited and those that wait. -/
def visits (graph : StyleGraph) (unvisited : Unvisited) (waiting : List Nat) : List Nat :=
  match reached : nextUnvisited unvisited waiting with
  | [] => []
  | number :: rest =>
    have := Unvisited.count_visit_lt (holds_of_nextUnvisited reached)
    number :: visits graph (unvisited.visit number) ((graph.encounter number).entered ++ rest)
termination_by unvisited.count
decreasing_by
  assumption

end StyleGraph

/-- Strings in the order of their characters' code points. -/
def alphabetical (strings : List String) : List String :=
  strings.mergeSort fun left right => left ≤ right

namespace StyleForest

/-- The nodes of a forest in the order in which the walk visits them. -/
def visits (forest : StyleForest) : List Nat :=
  forest.graph.visits (.all forest.graph.nodes.size) forest.roots

/-- The class names met on the walk, in order. -/
def classNames (forest : StyleForest) : List String :=
  forest.visits.filterMap fun number => (forest.graph.encounter number).name?

/-- The first fault met on the walk. -/
def fault? (forest : StyleForest) : Option Fault :=
  forest.visits.findSome? fun number => (forest.graph.encounter number).fault?

/-- The distinct class names met on the walk: in the order of their first emission, or
alphabetically. -/
def selectors (forest : StyleForest) (sorted : Bool) : List String :=
  let names := forest.classNames.eraseDups
  if sorted then alphabetical names else names

/-- The distinct class names that a forest defines, unless the walk meets a fault. -/
def extract (forest : StyleForest) (sorted : Bool) : Except Fault (List String) :=
  match forest.fault? with
  | some fault => .error fault
  | none => .ok (forest.selectors sorted)

end StyleForest

end ClassOrder
