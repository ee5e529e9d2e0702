import Mathlib.Data.List.Basic
import ClassOrder.Proofs.Blocks
import ClassOrder.Proofs.Style.Walk

/-!
# The stack of the walk

The nodes that wait on the stack are dealt with one after the other: the first of them is
passed over, or it is visited and the nodes that it leads to take its place. Nothing is
asked of the nodes here, which may hold something foreign and may lead back to themselves.

When the walk has come to an end, the nodes that it visited are closed: whatever they lead
to was visited as well. A later walk passes such nodes over without a change to the order
of the others, so a walk from one list of nodes and then from another visits what the two
walks visit on their own, each node where it was met first.
-/
namespace ClassOrder

/-- What is kept of the names of two runs is what each of them keeps, put together. -/
theorem eraseDups_both (first second : Except Fault (List String)) :
    (List.eraseDups <$> do
      let front ← first
      let back ← second
      return front ++ back) = do
      let front ← List.eraseDups <$> first
      let back ← List.eraseDups <$> second
      return (front ++ back).eraseDups := by
  have twice (names : List String) : names.eraseDups = names.eraseDups.eraseDups :=
    (eraseDups_eraseDups names).symm
  cases first with
  | error fault => rfl
  | ok front =>
    cases second with
    | error fault => rfl
    | ok back => exact congrArg Except.ok (eraseDups_append_congr (twice front) (twice back))

namespace StyleGraph

variable {graph : StyleGraph} {number : Nat}

/-- The nodes that a node leads to. -/
def leads (graph : StyleGraph) (number : Nat) : List Nat :=
  (graph.encounter number).entered

/-- A node of the table that was not visited before. -/
def Fresh (graph : StyleGraph) (seen : List Nat) (number : Nat) : Prop :=
  number < graph.nodes.size ∧ number ∉ seen

/-- Whether a node is fresh is decided by the nodes that were seen. -/
instance (graph : StyleGraph) (seen : List Nat) : DecidablePred (graph.Fresh seen) :=
  fun _ => inferInstanceAs (Decidable (_ ∧ _))

/-- The nodes that the walk visits, given those that were visited and those that wait. -/
def walk (graph : StyleGraph) (seen : List Nat) : List Nat → List Nat
  | [] => []
  | number :: rest =>
    if _ : graph.Fresh seen number then
      number :: walk graph (seen ++ [number]) (graph.leads number ++ rest)
    else walk graph seen rest
termination_by waiting => ((graph.unseen seen).count, waiting.length)
decreasing_by
  · exact .left _ _ (count_unseen_visit_lt [] ‹_›)
  · exact .right _ (Nat.lt_succ_self _)

/-- The walk with the visited nodes is the walk with the nodes that are left. -/
theorem visits_unseen (graph : StyleGraph) (seen waiting : List Nat) :
    graph.visits (graph.unseen seen) waiting = graph.walk seen waiting := by
  fun_induction walk graph seen waiting with
  | case1 seen => exact graph.visits_nil _
  | case2 seen number rest fresh visited =>
    rw [visits_cons_of_holds _ (holds_unseen_iff.mpr fresh), visit_unseen, ← visited, leads]
  | case3 seen number rest passed visited =>
    rw [visits_cons_of_not_holds _ (mt holds_unseen_iff.mp passed), visited]

/-! ## Nodes that were visited -/

/-- A node is left after more visits unless one of these was its own. -/
theorem fresh_append_iff {done seen : List Nat} :
    graph.Fresh (done ++ seen) number ↔ number ∉ done ∧ graph.Fresh seen number := by
  simp only [Fresh, List.mem_append, not_or]
  exact and_left_comm

/-- Where no node waits, the walk has ended. -/
theorem walk_nil (graph : StyleGraph) (seen : List Nat) : graph.walk seen [] = [] := by
  rw [walk]

/-- A fresh node is visited, and what it leads to waits in front of the rest. -/
theorem walk_cons_of_fresh {seen : List Nat} (rest : List Nat) (fresh : graph.Fresh seen number) :
    graph.walk seen (number :: rest) =
      number :: graph.walk (seen ++ [number]) (graph.leads number ++ rest) := by
  rw [walk, dif_pos fresh]

/-- A node that is not fresh is passed over. -/
theorem walk_cons_of_not_fresh {seen : List Nat} (rest : List Nat)
    (passed : ¬ graph.Fresh seen number) :
    graph.walk seen (number :: rest) = graph.walk seen rest := by
  rw [walk, dif_neg passed]

/-- It does not matter in which order nodes were visited, nor how often. -/
theorem walk_congr {seen other : List Nat} (waiting : List Nat)
    (same : ∀ number, number ∈ seen ↔ number ∈ other) :
    graph.walk seen waiting = graph.walk other waiting := by
  fun_induction walk graph seen waiting generalizing other with
  | case1 seen => exact (graph.walk_nil other).symm
  | case2 seen number rest fresh sameBehind =>
    have freshToo : graph.Fresh other number := ⟨fresh.1, mt (same number).mpr fresh.2⟩
    rw [walk_cons_of_fresh rest freshToo, sameBehind]
    intro visited
    rw [List.mem_append, List.mem_append, same]
  | case3 seen number rest passed sameBehind =>
    have passedToo : ¬ graph.Fresh other number := fun fresh =>
      passed ⟨fresh.1, mt (same number).mp fresh.2⟩
    rw [walk_cons_of_not_fresh rest passedToo, sameBehind same]

/-- The walk deals with the nodes that wait in front first. -/
theorem walk_append (seen first second : List Nat) : graph.walk seen (first ++ second) =
    graph.walk seen first ++ graph.walk (seen ++ graph.walk seen first) second := by
  fun_induction walk graph seen first with
  | case1 seen => simp
  | case2 seen number rest fresh behind =>
    rw [List.cons_append, walk_cons_of_fresh _ fresh, ← List.append_assoc, behind]
    simp
  | case3 seen number rest passed behind =>
    rw [List.cons_append, walk_cons_of_not_fresh _ passed, behind]

/-- Only nodes of the table are visited, and none that was visited before. -/
theorem fresh_of_mem_walk {seen waiting : List Nat} (visited : number ∈ graph.walk seen waiting) :
    graph.Fresh seen number := by
  fun_induction walk graph seen waiting with
  | case1 seen => cases visited
  | case2 seen first rest fresh freshBehind =>
    rcases List.mem_cons.mp visited with rfl | behind
    · exact fresh
    · obtain ⟨bound, unseen⟩ := freshBehind behind
      exact ⟨bound, fun old => unseen (List.mem_append_left _ old)⟩
  | case3 seen first rest passed freshBehind => exact freshBehind visited

/-- Every waiting node of the table is visited, now or before. -/
theorem mem_walk_of_mem {seen waiting : List Nat} (waits : number ∈ waiting)
    (bound : number < graph.nodes.size) : number ∈ seen ++ graph.walk seen waiting := by
  fun_induction walk graph seen waiting with
  | case1 seen => cases waits
  | case2 seen first rest fresh visitedBehind =>
    rcases List.mem_cons.mp waits with rfl | later
    · simp
    · have visited := visitedBehind (List.mem_append_right _ later)
      simpa using visited
  | case3 seen first rest passed visitedBehind =>
    rcases List.mem_cons.mp waits with rfl | later
    · have old : number ∈ seen :=
        Decidable.byContradiction fun unseen => passed ⟨bound, unseen⟩
      exact List.mem_append_left _ old
    · exact visitedBehind later

/-- No node is visited twice. -/
theorem walk_nodup (graph : StyleGraph) (seen waiting : List Nat) :
    (graph.walk seen waiting).Nodup := by
  fun_induction walk graph seen waiting with
  | case1 seen => exact .nil
  | case2 seen number rest fresh onceBehind =>
    refine List.nodup_cons.mpr ⟨?_, onceBehind⟩
    intro again
    exact (fresh_of_mem_walk again).2 (List.mem_append_right _ (List.mem_singleton_self _))
  | case3 seen number rest passed onceBehind => exact onceBehind

/-- Nodes that a walk does not come to may have been visited before it. -/
theorem walk_of_unmet {done seen waiting : List Nat}
    (unmet : ∀ number ∈ done, number ∉ graph.walk seen waiting) :
    graph.walk (done ++ seen) waiting = graph.walk seen waiting := by
  fun_induction walk graph seen waiting with
  | case1 seen => exact graph.walk_nil _
  | case2 seen number rest fresh inductionHypothesis =>
    have freshToo : graph.Fresh (done ++ seen) number :=
      fresh_append_iff.mpr ⟨fun before => unmet number before List.mem_cons_self, fresh⟩
    have unmetBehind : ∀ other ∈ done,
        other ∉ graph.walk (seen ++ [number]) (graph.leads number ++ rest) :=
      fun other before visited => unmet other before (List.mem_cons_of_mem _ visited)
    rw [walk_cons_of_fresh rest freshToo, List.append_assoc, inductionHypothesis unmetBehind]
  | case3 seen number rest passed inductionHypothesis =>
    have passedToo : ¬ graph.Fresh (done ++ seen) number := fun fresh =>
      passed (fresh_append_iff.mp fresh).2
    rw [walk_cons_of_not_fresh rest passedToo, inductionHypothesis unmet]

/-! ## Closed nodes -/

/-- Whatever nodes lead to is among them, as far as it is in the table. -/
def Closed (graph : StyleGraph) (numbers : List Nat) : Prop :=
  ∀ number ∈ numbers, ∀ child ∈ graph.leads number, child < graph.nodes.size → child ∈ numbers

/-- The nodes that a walk from the beginning visits are closed: what a node leads to takes
its place on the stack. -/
theorem closed_walk (graph : StyleGraph) (waiting : List Nat) :
    graph.Closed (graph.walk [] waiting) := by
  have inside : ∀ seen, ∀ number ∈ graph.walk seen waiting, ∀ child ∈ graph.leads number,
      child < graph.nodes.size → child ∈ seen ++ graph.walk seen waiting := by
    intro seen number visited child member bound
    fun_induction walk graph seen waiting with
    | case1 seen => cases visited
    | case2 seen first rest fresh behind =>
      have reached : child ∈ seen ++ [first] ++
          graph.walk (seen ++ [first]) (graph.leads first ++ rest) := by
        rcases List.mem_cons.mp visited with rfl | later
        · exact mem_walk_of_mem (List.mem_append_left _ member) bound
        · exact behind later
      simpa using reached
    | case3 seen first rest passed behind => exact behind visited
  exact inside []

/-- Nodes that wait in front and cannot be visited change nothing. -/
theorem walk_append_of_passed {seen front : List Nat} (rest : List Nat)
    (passed : ∀ number ∈ front, ¬ graph.Fresh seen number) :
    graph.walk seen (front ++ rest) = graph.walk seen rest := by
  induction front with
  | nil => rfl
  | cons first later inductionHypothesis =>
    obtain ⟨passedFirst, passedLater⟩ := List.forall_mem_cons.mp passed
    rw [List.cons_append, walk_cons_of_not_fresh _ passedFirst, inductionHypothesis passedLater]

/-- A walk after closed nodes were visited leaves these out, and visits all others in the
order in which it would visit them otherwise. -/
theorem walk_of_closed {done : List Nat} (closed : graph.Closed done) (seen waiting : List Nat) :
    graph.walk (done ++ seen) waiting =
      (graph.walk seen waiting).filter fun number => !done.contains number := by
  fun_induction walk graph seen waiting with
  | case1 seen => exact graph.walk_nil _
  | case2 seen number rest fresh inductionHypothesis =>
    by_cases old : number ∈ done
    · -- The walk that starts afresh goes through the node here, and finds nothing that is new.
      have same : ∀ visited, visited ∈ done ++ (seen ++ [number]) ↔ visited ∈ done ++ seen := by
        intro visited
        by_cases same : visited = number <;> simp [same, old]
      have nothing : ∀ child ∈ graph.leads number, ¬ graph.Fresh (done ++ seen) child := by
        intro child member freshChild
        obtain ⟨beyond, inTable, _⟩ := fresh_append_iff.mp freshChild
        exact beyond (closed number old child member inTable)
      have passed : ¬ graph.Fresh (done ++ seen) number := fun again =>
        (fresh_append_iff.mp again).1 old
      rw [walk_cons_of_not_fresh rest passed, ← walk_append_of_passed rest nothing,
        ← walk_congr _ same, inductionHypothesis]
      simp [old]
    · have freshToo : graph.Fresh (done ++ seen) number := fresh_append_iff.mpr ⟨old, fresh⟩
      rw [walk_cons_of_fresh rest freshToo, List.append_assoc, inductionHypothesis]
      simp [old]
  | case3 seen number rest passed inductionHypothesis =>
    have passedToo : ¬ graph.Fresh (done ++ seen) number := fun fresh =>
      passed (fresh_append_iff.mp fresh).2
    rw [walk_cons_of_not_fresh rest passedToo, inductionHypothesis]

/-- A walk from two lists of nodes visits what the walks from each of them visit, and each
node where it is met first. -/
theorem walk_append_eq_eraseDups (graph : StyleGraph) (first second : List Nat) :
    graph.walk [] (first ++ second) =
      (graph.walk [] first ++ graph.walk [] second).eraseDups := by
  have behind := walk_of_closed (graph.closed_walk first) [] second
  rw [List.append_nil] at behind
  rw [walk_append, List.nil_append, behind, eraseDups_append_filter,
    eraseDups_of_nodup (graph.walk_nodup [] first), eraseDups_of_nodup (graph.walk_nodup [] second)]

/-! ## What the visited nodes yield -/

/-- The class names that nodes yield one after the other, up to the first fault. -/
def yields (graph : StyleGraph) (numbers : List Nat) : Except Fault (List String) :=
  match numbers.findSome? fun number => (graph.encounter number).fault? with
  | some fault => .error fault
  | none => .ok (numbers.filterMap fun number => (graph.encounter number).name?)

/-- What one node yields depends on what the walk does there. -/
theorem yields_singleton (graph : StyleGraph) (number : Nat) : graph.yields [number] =
    match graph.encounter number with
    | .emit name => .ok (if name = "" then [] else [name])
    | .fail fault => .error fault
    | _ => .ok [] := by
  rw [yields]
  cases encountered : graph.encounter number with
  | emit name =>
    by_cases empty : name = "" <;> simp [encountered, Encounter.fault?, Encounter.name?, empty]
  | skip | enter children | fail fault => simp [encountered, Encounter.fault?, Encounter.name?]

/-- The nodes of two lists yield what the nodes of each of them do. -/
theorem yields_append (first second : List Nat) : graph.yields (first ++ second) = do
    let front ← graph.yields first
    let back ← graph.yields second
    return front ++ back := by
  simp only [yields, List.findSome?_append, List.filterMap_append]
  cases first.findSome? fun number => (graph.encounter number).fault? with
  | some fault => rfl
  | none => cases second.findSome? fun number => (graph.encounter number).fault? <;> rfl

/-- Nodes met again yield no name that is new, and no fault that would come sooner. -/
theorem yields_eraseDups (numbers : List Nat) :
    List.eraseDups <$> graph.yields numbers.eraseDups =
      List.eraseDups <$> graph.yields numbers := by
  have faults : (numbers.eraseDups.findSome? fun number => (graph.encounter number).fault?) =
      numbers.findSome? fun number => (graph.encounter number).fault? := by
    apply findSome?_eraseDups
    intro element _ other _ same
    rw [eq_of_beq same]
    exact id
  rw [yields, yields, faults]
  split
  · rfl
  · have names : (numbers.eraseDups.filterMap fun number =>
        (graph.encounter number).name?).eraseDups =
        (numbers.filterMap fun number => (graph.encounter number).name?).eraseDups := by
      rw [List.filterMap_eq_flatMap_toList, List.filterMap_eq_flatMap_toList]
      apply eraseDups_flatMap_eraseDups
      intro owner other same
      rw [eq_of_beq same]
      exact fun _ => id
    exact congrArg Except.ok names

end StyleGraph

/-! ## What is extracted -/

namespace StyleForest

/-- Extraction keeps the distinct names that the visited nodes yield. -/
theorem extract_eq_yields (forest : StyleForest) (sorted : Bool) :
    forest.extract sorted = do
      let names ← forest.graph.yields (forest.graph.walk [] forest.roots)
      return if sorted then alphabetical names.eraseDups else names.eraseDups := by
  have visited : forest.visits = forest.graph.walk [] forest.roots := by
    rw [← StyleGraph.visits_unseen, StyleGraph.unseen_nil, visits]
  rw [extract, fault?, selectors, classNames, visited, StyleGraph.yields]
  cases (forest.graph.walk [] forest.roots).findSome? fun number =>
    (forest.graph.encounter number).fault? with
  | some fault => rfl
  | none => rfl

/-- Extraction from two lists of nodes of a graph gives what the extractions from each of them
give, put together without repetitions. It ends with a fault when one of these does, and with the
fault of the first that does. The lists may share nodes, and the graph may have cycles. The walk
from the second list leaves out just what the walk from the first one visited. A node that is
visited once more yields the same names or the same fault as before, so up to repetitions nothing
changes. -/
theorem extract_append (graph : StyleGraph) (first second : List Nat) :
    (⟨graph, first ++ second⟩ : StyleForest).extract false = do
      let front ← (⟨graph, first⟩ : StyleForest).extract false
      let back ← (⟨graph, second⟩ : StyleForest).extract false
      return (front ++ back).eraseDups := by
  have unsorted : ∀ roots, (⟨graph, roots⟩ : StyleForest).extract false =
      List.eraseDups <$> graph.yields (graph.walk [] roots) := fun roots => by
    rw [extract_eq_yields]
    cases graph.yields (graph.walk [] roots) <;> rfl
  rw [unsorted, unsorted, unsorted, StyleGraph.walk_append_eq_eraseDups,
    StyleGraph.yields_eraseDups, StyleGraph.yields_append, eraseDups_both]

end StyleForest

end ClassOrder
