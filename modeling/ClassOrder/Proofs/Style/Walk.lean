import ClassOrder.Proofs.Occurrence
import ClassOrder.Style.Extraction

/-!
# What the walk over a style graph visits

The walk keeps the nodes that wait on a stack, and a node may wait there several times.
The same nodes are visited, in the same order, by a recursion that hands the set of
visited nodes from one node on to the next. Passing over nodes that were visited loses
nothing: whatever a visited node leads to is visited too, so the walk comes to every node
that a path leads to, whether the paths meet, divide or go round.
-/
namespace ClassOrder

/-- An attribute that is there holds a value of the kind that belongs there. -/
def Attribute.Documented {α : Type} : Attribute α → Prop
  | .absent => True
  | .given _ => True
  | .foreign _ => False

/-- All attributes of a node hold what belongs there, as far as they are there. -/
structure StyleNode.Documented (node : StyleNode) : Prop where
  name : node.name.Documented
  selector : node.selector.Documented
  children : node.children.Documented

/-- All attributes of the nodes of a graph hold what belongs there. -/
def StyleGraph.Documented (graph : StyleGraph) : Prop :=
  ∀ node ∈ graph.nodes, node.Documented

namespace StyleNode

/-- Whether a walk stops at a node: at a declaration, at an at-rule with the stages of an
animation, and at a rule with a selector. -/
def isClosed (node : StyleNode) : Bool :=
  match node.kind, node.name, node.selector with
  | .declaration, _, _ => true
  | .atRule, .given name, _ => "keyframes".toList.isPrefixOf name.toList
  | .rule, _, .given selector => selector != ""
  | _, _, _ => false

/-- The nodes inside a node at which a walk does not stop. -/
def inside (node : StyleNode) : List Nat :=
  match node.isClosed, node.children with
  | false, .given children => children
  | _, _ => []

/-- The class that a rule is for, unless its selector names none. -/
def className? (node : StyleNode) : Option String :=
  match node.kind, node.selector with
  | .rule, .given selector =>
    if Selector.clean selector = "" then none else some (Selector.clean selector)
  | _, _ => none

end StyleNode

/-- A path leads from a root to the node, and a walk stops at no node before it. -/
inductive StyleForest.Reaches (forest : StyleForest) : Nat → Prop where
  | root (number : Nat) (start : number ∈ forest.roots) : Reaches forest number
  | inside (number child : Nat) (children : List Nat) (reached : Reaches forest number)
      (entered : (forest.graph.node number).isClosed = false)
      (holds : (forest.graph.node number).children = .given children) (member : child ∈ children) :
      Reaches forest child

/-! ## One node -/

namespace StyleNode

variable {node : StyleNode}

/-- What the walk does at a node whose attributes hold what belongs there: it stops, or it
enters the node. -/
theorem encounter_of_documented (documented : node.Documented) :
    if node.isClosed then node.encounter.entered = [] ∧ node.encounter.fault? = none
    else node.encounter = node.enter := by
  obtain ⟨named, selects, _⟩ := documented
  cases kind : node.kind with
  | declaration => simp [isClosed, encounter, kind, Encounter.entered, Encounter.fault?]
  | atRule =>
    cases name : node.name with
    | absent => simp [isClosed, encounter, kind, name]
    | given text =>
      have closed : node.isClosed = isKeyframes text := by
        simp only [isClosed, kind, name, isKeyframes]
      rw [closed]
      by_cases animated : isKeyframes text = true
      · simp [encounter, kind, name, animated, Encounter.entered, Encounter.fault?]
      · simp [encounter, kind, name, animated]
    | foreign held => simp [name, Attribute.Documented] at named
  | rule =>
    cases selector : node.selector with
    | absent => simp [isClosed, encounter, kind, selector]
    | given text =>
      by_cases empty : text = ""
      · simp [isClosed, encounter, kind, selector, empty]
      · simp [isClosed, encounter, kind, selector, empty, Encounter.entered, Encounter.fault?]
    | foreign held => simp [selector, Attribute.Documented] at selects
  | other => simp [isClosed, encounter, kind]

/-- The walk goes on to the nodes inside. -/
theorem entered_encounter (documented : node.Documented) :
    node.encounter.entered = node.inside := by
  have encountered := encounter_of_documented documented
  cases closed : node.isClosed with
  | true =>
    rw [if_pos closed] at encountered
    rw [encountered.1, inside, closed]
  | false =>
    rw [closed, if_neg Bool.false_ne_true] at encountered
    rw [encountered, inside, closed, enter]
    cases node.children <;> rfl

/-- The walk meets no fault. -/
theorem fault?_encounter (documented : node.Documented) : node.encounter.fault? = none := by
  have encountered := encounter_of_documented documented
  have held := documented.children
  split at encountered
  · exact encountered.2
  · rw [encountered, enter]
    cases children : node.children with
    | absent => rfl
    | given numbers => rfl
    | foreign other => simp [children, Attribute.Documented] at held

/-- The walk yields the class of a rule. -/
theorem name?_encounter (node : StyleNode) : node.encounter.name? = node.className? := by
  have entering : node.enter.name? = none := by
    unfold enter
    split <;> rfl
  have cleaned : Selector.clean "" = "" := by decide
  cases kind : node.kind with
  | declaration => simp [encounter, className?, kind, Encounter.name?]
  | atRule =>
    cases name : node.name with
    | absent => simp [encounter, className?, kind, name, entering]
    | given text =>
      by_cases animated : isKeyframes text = true
      · simp [encounter, className?, kind, name, animated, Encounter.name?]
      · simp [encounter, className?, kind, name, animated, entering]
    | foreign held => simp [encounter, className?, kind, name, Encounter.name?]
  | rule =>
    cases selector : node.selector with
    | absent => simp [encounter, className?, kind, selector, entering]
    | given text =>
      by_cases empty : text = ""
      · simp [encounter, className?, kind, selector, empty, entering, cleaned]
      · simp [encounter, className?, kind, selector, empty, Encounter.name?]
    | foreign held => simp [encounter, className?, kind, selector, Encounter.name?]
  | other => simp [encounter, className?, kind, entering]

end StyleNode

namespace StyleGraph

variable {graph : StyleGraph} {number : Nat}

/-- A number beyond the table names a node without attributes. -/
theorem node_of_size_le (beyond : graph.nodes.size ≤ number) : graph.node number = {} := by
  rw [node, Array.getD_eq_getD_getElem?, Array.getElem?_eq_none beyond, Option.getD_none]

/-- What a number names holds what belongs there, in the table and beyond. -/
theorem Documented.node (documented : graph.Documented) (number : Nat) :
    (graph.node number).Documented := by
  by_cases inTable : number < graph.nodes.size
  · have found : graph.node number = graph.nodes[number] := by
      rw [StyleGraph.node, Array.getD_eq_getD_getElem?, Array.getElem?_eq_getElem inTable,
        Option.getD_some]
    rw [found]
    exact documented _ (Array.getElem_mem inTable)
  · rw [node_of_size_le (Nat.le_of_not_lt inTable)]
    exact ⟨trivial, trivial, trivial⟩

/-! ## The recursion -/

/-- The nodes of the table that are left when some were visited. -/
def unseen (graph : StyleGraph) (seen : List Nat) : Unvisited where
  marks := ((List.range graph.nodes.size).map fun number => decide (number ∉ seen)).toArray

/-- What is left is in the table and was not visited. -/
theorem holds_unseen_iff {seen : List Nat} :
    (graph.unseen seen).holds number = true ↔ number < graph.nodes.size ∧ number ∉ seen := by
  by_cases bound : number < graph.nodes.size <;> simp [Unvisited.holds, unseen, bound]

/-- A visit takes the node out of those that are left. -/
theorem visit_unseen (graph : StyleGraph) (seen : List Nat) (number : Nat) :
    (graph.unseen seen).visit number = graph.unseen (seen ++ [number]) := by
  simp only [Unvisited.visit, unseen, Unvisited.mk.injEq]
  apply Array.ext
  · simp
  · intro other _ _
    by_cases same : number = other
    · simp [same]
    · simp [same, Ne.symm same]

/-- At the beginning all nodes of the table are left. -/
theorem unseen_nil (graph : StyleGraph) : graph.unseen [] = .all graph.nodes.size := by
  simp only [unseen, Unvisited.all, Unvisited.mk.injEq]
  apply Array.ext <;> simp

/-- The nodes that are left, counted in the table. -/
theorem count_unseen (graph : StyleGraph) (seen : List Nat) : (graph.unseen seen).count =
    (List.range graph.nodes.size).countP fun number => decide (number ∉ seen) := by
  simp [Unvisited.count, unseen, List.count_eq_countP, List.countP_map, Function.comp_def]

/-- The more nodes were visited, the fewer are left. -/
theorem count_unseen_append_le (graph : StyleGraph) (seen others : List Nat) :
    (graph.unseen (seen ++ others)).count ≤ (graph.unseen seen).count := by
  rw [count_unseen, count_unseen]
  apply List.countP_mono_left
  intro number _ left
  simp only [decide_eq_true_eq, List.mem_append, not_or] at left ⊢
  exact left.1

/-- Fewer are left after a visit, and after whatever is visited next. -/
theorem count_unseen_visit_lt {seen : List Nat} (others : List Nat)
    (fresh : number < graph.nodes.size ∧ number ∉ seen) :
    (graph.unseen (seen ++ number :: others)).count < (graph.unseen seen).count := by
  have visit := Unvisited.count_visit_lt (holds_unseen_iff.mpr fresh)
  rw [visit_unseen] at visit
  have more := graph.count_unseen_append_le (seen ++ [number]) others
  rw [List.append_assoc, List.singleton_append] at more
  omega

/-- The recursive walk: the nodes that it visits, in the order in which it enters them. A
number that is beyond the table or was visited before is passed over. What was visited
inside a node is known where the walk goes on behind it. -/
def preorder (graph : StyleGraph) (seen : List Nat) : List Nat → List Nat
  | [] => []
  | number :: rest =>
    if _ : number < graph.nodes.size ∧ number ∉ seen then
      let inside := preorder graph (seen ++ [number]) (graph.node number).inside
      number :: inside ++ preorder graph (seen ++ number :: inside) rest
    else preorder graph seen rest
termination_by numbers => ((graph.unseen seen).count, numbers.length)
decreasing_by
  · exact .left _ _ (count_unseen_visit_lt [] ‹_›)
  · exact .left _ _ (count_unseen_visit_lt _ ‹_›)
  · exact .right _ (Nat.lt_succ_self _)

/-! ## The stack -/

/-- The walk goes on with the first waiting node that may be visited. -/
theorem visits_eq (graph : StyleGraph) (unvisited : Unvisited) (waiting : List Nat) :
    graph.visits unvisited waiting =
      match nextUnvisited unvisited waiting with
      | [] => []
      | number :: rest => number ::
          graph.visits (unvisited.visit number) ((graph.encounter number).entered ++ rest) := by
  rw [visits]
  split <;> simp_all only

/-- Where no node waits, none is visited. -/
theorem visits_nil (graph : StyleGraph) (unvisited : Unvisited) :
    graph.visits unvisited [] = [] :=
  graph.visits_eq unvisited []

/-- A waiting node that may be visited is visited next. -/
theorem visits_cons_of_holds {unvisited : Unvisited} (rest : List Nat)
    (left : unvisited.holds number = true) :
    graph.visits unvisited (number :: rest) = number ::
      graph.visits (unvisited.visit number) ((graph.encounter number).entered ++ rest) := by
  have next : nextUnvisited unvisited (number :: rest) = number :: rest := by
    simp [nextUnvisited, left]
  rw [visits_eq, next]

/-- A waiting node that was visited is passed over. -/
theorem visits_cons_of_not_holds {unvisited : Unvisited} (rest : List Nat)
    (seen : ¬ unvisited.holds number = true) :
    graph.visits unvisited (number :: rest) = graph.visits unvisited rest := by
  have next : nextUnvisited unvisited (number :: rest) = nextUnvisited unvisited rest := by
    simp [nextUnvisited, seen]
  rw [visits_eq, visits_eq, next]

/-- The stack visits what the recursion does, and then what waits below. -/
theorem visits_append (documented : graph.Documented) (seen numbers waiting : List Nat) :
    graph.visits (graph.unseen seen) (numbers ++ waiting) = graph.preorder seen numbers ++
      graph.visits (graph.unseen (seen ++ graph.preorder seen numbers)) waiting := by
  fun_induction preorder graph seen numbers generalizing waiting with
  | case1 seen => simp
  | case2 seen number rest fresh inside visitedInside visitedBehind =>
    have entered : (graph.encounter number).entered = (graph.node number).inside :=
      StyleNode.entered_encounter (documented.node number)
    rw [List.cons_append, visits_cons_of_holds _ (holds_unseen_iff.mpr fresh), entered,
      visit_unseen, visitedInside, List.append_assoc seen, List.singleton_append, visitedBehind]
    simp only [inside, List.append_assoc, List.cons_append]
  | case3 seen number rest passed visitedBehind =>
    rw [List.cons_append, visits_cons_of_not_holds _ (mt holds_unseen_iff.mp passed), visitedBehind]

/-! ## What the recursion comes to -/

/-- Every visited node is one of the table that was not visited before. -/
theorem fresh_of_mem_preorder {seen numbers : List Nat} {visited : Nat}
    (member : visited ∈ graph.preorder seen numbers) :
    visited < graph.nodes.size ∧ visited ∉ seen := by
  fun_induction preorder graph seen numbers with
  | case1 seen => simp at member
  | case2 seen number rest fresh inside freshInside freshBehind =>
    rcases List.mem_append.mp member with front | behind
    · rcases List.mem_cons.mp front with rfl | deeper
      · exact fresh
      · obtain ⟨bound, unseen⟩ := freshInside deeper
        exact ⟨bound, fun old => unseen (List.mem_append_left _ old)⟩
    · obtain ⟨bound, unseen⟩ := freshBehind behind
      exact ⟨bound, fun old => unseen (List.mem_append_left _ old)⟩
  | case3 seen number rest passed freshBehind => exact freshBehind member

/-- No node is visited twice: what is visited later knows what was visited before. -/
theorem preorder_nodup (graph : StyleGraph) (seen numbers : List Nat) :
    (graph.preorder seen numbers).Nodup := by
  fun_induction preorder graph seen numbers with
  | case1 seen => exact .nil
  | case2 seen number rest fresh inside onceInside onceBehind =>
    have notInside : number ∉ inside := fun again =>
      (fresh_of_mem_preorder again).2 (List.mem_append_right _ (List.mem_singleton_self _))
    refine List.nodup_append.mpr ⟨List.nodup_cons.mpr ⟨notInside, onceInside⟩, onceBehind, ?_⟩
    rintro visited front _ behind rfl
    exact (fresh_of_mem_preorder behind).2 (List.mem_append_right _ front)
  | case3 seen number rest passed onceBehind => exact onceBehind

/-- Every node of the table that the walk is sent to is visited, now or before. -/
theorem mem_preorder_of_mem {seen numbers : List Nat} (member : number ∈ numbers)
    (bound : number < graph.nodes.size) : number ∈ seen ++ graph.preorder seen numbers := by
  fun_induction preorder graph seen numbers with
  | case1 seen => cases member
  | case2 seen first rest fresh inside visitedInside visitedBehind =>
    rcases List.mem_cons.mp member with rfl | later
    · simp
    · simpa only [List.append_assoc] using visitedBehind later
  | case3 seen first rest passed visitedBehind =>
    rcases List.mem_cons.mp member with rfl | later
    · have old : number ∈ seen :=
        Decidable.byContradiction fun unseen => passed ⟨bound, unseen⟩
      exact List.mem_append_left _ old
    · exact visitedBehind later

/-- What is inside a visited node is visited, now or before. A node that is passed over has
handed on what is inside it already. -/
theorem inside_mem_preorder {seen numbers : List Nat} {child : Nat}
    (visited : number ∈ graph.preorder seen numbers) (member : child ∈ (graph.node number).inside)
    (bound : child < graph.nodes.size) : child ∈ seen ++ graph.preorder seen numbers := by
  fun_induction preorder graph seen numbers with
  | case1 seen => cases visited
  | case2 seen first rest fresh inside visitedInside visitedBehind =>
    rcases List.mem_append.mp visited with front | behind
    · have reached : child ∈ seen ++ [first] ++ inside := by
        rcases List.mem_cons.mp front with rfl | deeper
        · exact mem_preorder_of_mem member bound
        · exact visitedInside deeper
      have whole := List.mem_append_left (graph.preorder (seen ++ first :: inside) rest) reached
      simpa only [List.append_assoc, List.singleton_append] using whole
    · simpa only [List.append_assoc] using visitedBehind behind
  | case3 seen first rest passed visitedBehind => exact visitedBehind visited

end StyleGraph

/-! ## Paths -/

namespace StyleForest

variable {forest : StyleForest} {number : Nat}

/-- A path goes on to what is inside a node. -/
theorem Reaches.of_mem_inside {child : Nat} (reached : forest.Reaches number)
    (member : child ∈ (forest.graph.node number).inside) : forest.Reaches child := by
  unfold StyleNode.inside at member
  split at member
  · rename_i children entered holds
    exact .inside number child children reached entered holds member
  · cases member

/-- The recursion visits only what paths lead to. -/
theorem reaches_of_mem_preorder {seen numbers : List Nat}
    (started : ∀ start ∈ numbers, forest.Reaches start)
    (visited : number ∈ forest.graph.preorder seen numbers) : forest.Reaches number := by
  fun_induction StyleGraph.preorder forest.graph seen numbers with
  | case1 seen => cases visited
  | case2 seen first rest fresh inside reachedInside reachedBehind =>
    have here : forest.Reaches first := started first List.mem_cons_self
    rcases List.mem_append.mp visited with front | behind
    · rcases List.mem_cons.mp front with rfl | deeper
      · exact here
      · exact reachedInside (fun child member => here.of_mem_inside member) deeper
    · exact reachedBehind (fun start member => started start (List.mem_cons_of_mem _ member)) behind
  | case3 seen first rest passed reachedBehind =>
    exact reachedBehind (fun start member => started start (List.mem_cons_of_mem _ member)) visited

/-- The recursion visits every node of the table that a path leads to. The nodes before it on
the path are in the table as well, since they have something inside them. -/
theorem mem_preorder_of_reaches (reached : forest.Reaches number)
    (bound : number < forest.graph.nodes.size) :
    number ∈ forest.graph.preorder [] forest.roots := by
  induction reached with
  | root number start =>
    have visited : number ∈ [] ++ forest.graph.preorder [] forest.roots :=
      StyleGraph.mem_preorder_of_mem start bound
    exact visited
  | inside number child children reached entered holds member visited =>
    have inTable : number < forest.graph.nodes.size := by
      refine Nat.lt_of_not_le fun beyond => ?_
      rw [StyleGraph.node_of_size_le beyond] at holds
      cases holds
    have inside : child ∈ (forest.graph.node number).inside := by
      simp only [StyleNode.inside, entered, holds, member]
    simpa using StyleGraph.inside_mem_preorder (visited inTable) inside bound

/-- The walk visits what the recursion does from the roots. -/
theorem visits_eq_preorder (documented : forest.graph.Documented) :
    forest.visits = forest.graph.preorder [] forest.roots := by
  have whole := StyleGraph.visits_append documented [] forest.roots []
  rw [StyleGraph.unseen_nil, List.append_nil, StyleGraph.visits_nil, List.append_nil] at whole
  exact whole

/-- The class names that the recursion yields. -/
def preorderNames (forest : StyleForest) : List String :=
  (forest.graph.preorder [] forest.roots).filterMap fun number =>
    (forest.graph.node number).className?

/-- A name is yielded exactly when a path leads to a rule for the class. -/
theorem mem_preorderNames_iff {name : String} : name ∈ forest.preorderNames ↔
    ∃ number, forest.Reaches number ∧ (forest.graph.node number).className? = some name := by
  rw [preorderNames, List.mem_filterMap]
  constructor
  · rintro ⟨number, visited, yields⟩
    exact ⟨number, reaches_of_mem_preorder (fun start => .root start) visited, yields⟩
  · rintro ⟨number, reached, yields⟩
    have inTable : number < forest.graph.nodes.size := by
      refine Nat.lt_of_not_le fun beyond => ?_
      rw [StyleGraph.node_of_size_le beyond] at yields
      cases yields
    exact ⟨number, mem_preorder_of_reaches reached inTable, yields⟩

/-- The walk yields what the recursion does. -/
theorem classNames_eq_preorderNames (documented : forest.graph.Documented) :
    forest.classNames = forest.preorderNames := by
  simp only [classNames, preorderNames, visits_eq_preorder documented, StyleGraph.encounter,
    StyleNode.name?_encounter]

/-- The walk meets no fault where all attributes hold what belongs there. -/
theorem fault?_eq_none (documented : forest.graph.Documented) : forest.fault? = none := by
  rw [fault?, List.findSome?_eq_none_iff]
  intro number _
  exact StyleNode.fault?_encounter (documented.node number)

/-- Extracting the classes of a graph ends without a fault. It visits every node at most once,
namely those that the recursive walk visits, and in the order of that walk. Once repetitions are
left out, the classes are those of the rules to which a path leads from a root through nodes that
are entered.

Proof: the stack holds what the recursive walk has still to do, so both visit alike. All that this
walk visits is reached, by induction on the walk, and all that is reached it visits, by induction
on the path. -/
theorem extract_only_reached_classes (forest : StyleForest) (sorted : Bool)
    (documented : forest.graph.Documented) :
    forest.visits.Nodup ∧
      forest.visits = forest.graph.preorder [] forest.roots ∧
      forest.classNames = forest.preorderNames ∧
      ∃ selectors, forest.extract sorted = .ok selectors ∧
        selectors = (if sorted then alphabetical forest.preorderNames.eraseDups
          else forest.preorderNames.eraseDups) ∧
        selectors.Nodup ∧
        ∀ name, name ∈ selectors ↔ ∃ number, forest.Reaches number ∧
          (forest.graph.node number).className? = some name := by
  have visited := visits_eq_preorder documented
  have names := classNames_eq_preorderNames documented
  refine ⟨?_, visited, names, _, ?_, rfl, ?_, ?_⟩
  · rw [visited]
    exact StyleGraph.preorder_nodup _ _ _
  · rw [extract, fault?_eq_none documented, selectors, names]
  · cases sorted with
    | false => exact eraseDups_nodup _
    | true => exact (List.mergeSort_perm _ _).nodup_iff.mpr (eraseDups_nodup _)
  · intro name
    rw [← mem_preorderNames_iff]
    cases sorted with
    | false => exact List.mem_eraseDups
    | true => exact List.mem_mergeSort.trans List.mem_eraseDups

/-- Two nodes that hold each other and share a rule, which hides another rule. -/
def entwined : StyleForest where
  graph := ⟨#[
    { kind := .atRule, name := .given "media", children := .given [1, 2, 0] },
    { kind := .rule, selector := .given ".card", children := .given [3] },
    { children := .given [1, 0, 1] },
    { kind := .rule, selector := .given ".hidden" }]⟩
  roots := [2, 0, 2]

/-- The walk goes round once, and the hidden rule stays hidden. -/
theorem extract_only_reached_classes_entwined :
    entwined.graph.Documented ∧ entwined.visits = [2, 1, 0] ∧
      entwined.extract false = .ok ["card"] ∧
      ∃ number, entwined.Reaches number ∧
        (entwined.graph.node number).className? = some "card" := by
  have documented : entwined.graph.Documented := by
    intro node member
    have listed := Array.mem_toList_iff.mpr member
    simp only [entwined, List.mem_cons, List.not_mem_nil, or_false] at listed
    rcases listed with rfl | rfl | rfl | rfl
    all_goals exact ⟨trivial, trivial, trivial⟩
  obtain ⟨_, _, names, _, extracted, rfl, _, reached⟩ :=
    extract_only_reached_classes entwined false documented
  have yielded : entwined.preorderNames.eraseDups = ["card"] := by
    rw [← names]
    decide +kernel
  rw [if_neg Bool.false_ne_true, yielded] at extracted reached
  exact ⟨documented, by decide +kernel, extracted, (reached "card").mp List.mem_cons_self⟩

end StyleForest

end ClassOrder
