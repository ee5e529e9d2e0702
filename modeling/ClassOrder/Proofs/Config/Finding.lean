import ClassOrder.Config.Loading
import ClassOrder.Proofs.Files.Searching
import Mathlib.Logic.Function.Iterate

/-!
# The nearest configuration file

A search begins in a directory and goes up, one directory after the other, until it finds a
configuration file, has gone up as many levels as it may, or has been at the root. So it finds
the nearest file, and when there is none it names all the places where it looked. A start that
is no path cannot be searched from. Beside this one thing ends a search early: a path that is too
long to be looked up is refused, and the refusal is handed on as it is, although no file can stand
there. A search is stopped exactly when it asks at such a path before it finds a file.
-/
namespace ClassOrder.Config

open Files (Tree Path ComesTo)

variable {tree : Tree}

/-! ## Asking at several places in turn -/

/-- Asking at a path goes on to the next one: no file stands there, and the path is not refused. -/
def Passes (tree : Tree) (path : Path) : Prop :=
  ¬ tree.HasFile path ∧ ¬ tree.Refuses path

/-- What asking at a number of places in turn comes to. -/
inductive Asked (tree : Tree) (place : Nat → Path) (count : Nat) :
    Except Fault (Option Path) → Prop
  | found {up : Nat} (within : up < count) (stands : tree.HasFile (place up))
      (passed : ∀ lower < up, Passes tree (place lower)) :
      Asked tree place count (.ok (some (place up)))
  | refused {up : Nat} (within : up < count) (refuses : tree.Refuses (place up))
      (passed : ∀ lower < up, Passes tree (place lower)) :
      Asked tree place count (.error (.pathTooLong (place up)))
  | nowhere (passed : ∀ up < count, Passes tree (place up)) : Asked tree place count (.ok none)

/-- A place that is passed in front of several others. -/
theorem Asked.behind {place : Nat → Path} {count : Nat} {outcome : Except Fault (Option Path)}
    (passes : Passes tree (place 0)) (asked : Asked tree (fun up => place (up + 1)) count outcome) :
    Asked tree place (count + 1) outcome := by
  have below {bound : Nat} (passed : ∀ lower < bound, Passes tree (place (lower + 1))) :
      ∀ lower < bound + 1, Passes tree (place lower) := by
    intro lower within
    cases lower with
    | zero => exact passes
    | succ lower => exact passed lower (Nat.lt_of_succ_lt_succ within)
  cases asked with
  | found within stands passed => exact .found (Nat.succ_lt_succ within) stands (below passed)
  | refused within refuses passed => exact .refused (Nat.succ_lt_succ within) refuses (below passed)
  | nowhere passed => exact .nowhere (below passed)

/-- The first file is searched for by asking at the places in turn. -/
theorem comesTo_firstFile (tree : Tree) (place : Nat → Path) (count : Nat) :
    ∃ outcome, ComesTo (firstFile ((List.range count).map place)) tree outcome ∧
      Asked tree place count outcome := by
  induction count generalizing place with
  | zero => exact ⟨.ok none, .pure none, .nowhere nofun⟩
  | succ count inductionHypothesis =>
    have split : (List.range (count + 1)).map place =
        place 0 :: (List.range count).map fun up => place (up + 1) := by
      rw [List.range_succ_eq_map, List.map_cons, List.map_map]
      rfl
    rw [split, firstFile]
    obtain ⟨stands, first⟩ | ⟨refuses, first⟩ | ⟨passes, first⟩ := Files.isFile_cases tree (place 0)
    · exact ⟨_, first.bind (.pure _), .found count.succ_pos stands nofun⟩
    · exact ⟨_, first.bind_of_error, .refused count.succ_pos refuses nofun⟩
    · obtain ⟨outcome, others, asked⟩ := inductionHypothesis fun up => place (up + 1)
      exact ⟨outcome, first.bind others, asked.behind passes⟩

/-! ## The places of a search -/

/-- The working directory of a tree. -/
def workingDirectory (tree : Tree) : Path where
  anchor := "/"
  names := tree.here

/-- The place that a start names; without a start it is the working directory. -/
def placeOf (tree : Tree) : Option String → Path
  | none => workingDirectory tree
  | some text => ((workingDirectory tree).followedBy (Path.ofText text)).collapsed

/-- The directory that a start stands for: the one that holds it when it is a file, and else the
start itself. -/
def startDirectory (tree : Tree) (start : Option String) : Path :=
  if tree.HasFile (placeOf tree start) then (placeOf tree start).parent else placeOf tree start

/-- The place of the configuration file in the directory some levels above a directory. -/
def candidateAbove (directory : Path) (up : Nat) : Path :=
  (Path.parent^[up] directory).child fileName

/-- The number of levels above a directory that a search covers. Above the root there are none. -/
def levels (directory : Path) : Nat :=
  min maxParentLevels directory.names.length

/-- Going up drops names from the end. -/
theorem iterate_parent (path : Path) (up : Nat) :
    Path.parent^[up] path = { path with names := path.names.take (path.names.length - up) } := by
  induction up with
  | zero => simp
  | succ up inductionHypothesis =>
    rw [Function.iterate_succ_apply', inductionHypothesis, Path.parent, Files.Path.mk.injEq]
    refine ⟨rfl, ?_⟩
    rw [List.dropLast_eq_take, List.take_take, List.length_take]
    congr 1
    omega

/-- The places where a search looks, nearest first. -/
theorem candidates_eq (directory : Path) :
    candidates directory = (List.range (levels directory + 1)).map (candidateAbove directory) := by
  have count : min (maxParentLevels + 1) (directory.names.length + 1) = levels directory + 1 :=
    (Nat.succ_min_succ _ _).symm ▸ rfl
  rw [candidates, Path.ancestry, ← List.map_take, List.take_range, count, List.map_map]
  apply List.map_congr_left
  intro up _
  rw [candidateAbove, iterate_parent]
  rfl

/-- A start is taken as a place, unless it has a null character. -/
theorem comesTo_placeFrom (tree : Tree) (start : Option String) :
    (∃ text, start = some text ∧ Files.hasNull text ∧
        ComesTo (placeFrom start) tree (.error (.nullInPath text))) ∨
      (∀ text, start = some text → ¬ Files.hasNull text) ∧
        ComesTo (placeFrom start) tree (.ok (placeOf tree start)) := by
  have here : ComesTo (liftM (Files.Access.here : StateM Tree Path)) tree
      (.ok (workingDirectory tree)) := rfl
  cases start with
  | none => exact .inr ⟨nofun, here.bind (.pure _)⟩
  | some text =>
    by_cases null : Files.hasNull text
    · refine .inl ⟨text, rfl, null, here.bind ?_⟩
      dsimp only
      rw [if_pos null]
      exact (ComesTo.throw _).bind_of_error
    · refine .inr ⟨?_, here.bind ?_⟩
      · rintro _ ⟨⟩
        exact null
      · dsimp only
        rw [if_neg null]
        exact .pure _

/-! ## What a search comes to -/

/-- A search for the nearest file returns the file in the first directory on the way up that
holds one, and when none does it says so and names the places in all of them. -/
inductive FindsNearest (tree : Tree) (directory : Path) : Except Fault Path → Prop
  | found {up : Nat} (inReach : up ≤ levels directory)
      (stands : tree.HasFile (candidateAbove directory up))
      (nearest : ∀ lower < up, ¬ tree.HasFile (candidateAbove directory lower)) :
      FindsNearest tree directory (.ok (candidateAbove directory up))
  | nowhere (absent : ∀ up ≤ levels directory, ¬ tree.HasFile (candidateAbove directory up)) :
      FindsNearest tree directory (.error (.noConfigFound fileName
        ((List.range (levels directory + 1)).map (candidateAbove directory))))

/-- What a search finds is determined. -/
theorem FindsNearest.unique {directory : Path} {outcome other : Except Fault Path}
    (finds : FindsNearest tree directory outcome) (findsToo : FindsNearest tree directory other) :
    outcome = other := by
  cases finds with
  | found inReach stands nearest =>
    rename_i up
    cases findsToo with
    | found inReachToo standsToo nearestToo =>
      rename_i upToo
      rcases Nat.lt_trichotomy up upToo with lower | same | higher
      · exact absurd stands (nearestToo up lower)
      · rw [same]
      · exact absurd standsToo (nearest upToo higher)
    | nowhere absent => exact absurd stands (absent up inReach)
  | nowhere absent =>
    cases findsToo with
    | found inReachToo standsToo nearestToo => exact absurd standsToo (absent _ inReachToo)
    | nowhere _ => rfl

/-- A start can be searched from: it is a path, and every path that is refused stands behind a
file that ends the search. -/
structure Searchable (tree : Tree) (start : Option String) : Prop where
  isPath : ∀ text, start = some text → ¬ Files.hasNull text
  placeLookedUp : ¬ tree.Refuses (placeOf tree start)
  foundBefore : ∀ up ≤ levels (startDirectory tree start),
    tree.Refuses (candidateAbove (startDirectory tree start) up) →
      ∃ lower < up, tree.HasFile (candidateAbove (startDirectory tree start) lower)

/-- The faults that end a search early: a start that is no path, and a path that is refused. -/
inductive Stops (tree : Tree) (start : Option String) : Fault → Prop
  | null {text : String} (given : start = some text) (holds : Files.hasNull text) :
      Stops tree start (.nullInPath text)
  | place (refuses : tree.Refuses (placeOf tree start)) :
      Stops tree start (.pathTooLong (placeOf tree start))
  | candidate {up : Nat} (inReach : up ≤ levels (startDirectory tree start))
      (refuses : tree.Refuses (candidateAbove (startDirectory tree start) up))
      (nothingBefore : ∀ lower < up,
        ¬ tree.HasFile (candidateAbove (startDirectory tree start) lower)) :
      Stops tree start (.pathTooLong (candidateAbove (startDirectory tree start) up))

/-- A search that is stopped did not find the nearest file, and nothing could be searched from its
start. -/
theorem Stops.not_searchable {start : Option String} {fault : Fault}
    (stopped : Stops tree start fault) :
    ¬ Searchable tree start ∧ ¬ FindsNearest tree (startDirectory tree start) (.error fault) := by
  cases stopped with
  | null given holds => exact ⟨fun able => able.isPath _ given holds, nofun⟩
  | place refuses => exact ⟨fun able => able.placeLookedUp refuses, nofun⟩
  | candidate inReach refuses nothingBefore =>
    refine ⟨fun able => ?_, nofun⟩
    obtain ⟨lower, before, stands⟩ := able.foundBefore _ inReach refuses
    exact nothingBefore lower before stands

/-- The search begins in the directory that the start stands for, or it is stopped there. -/
theorem comesTo_searchStart (tree : Tree) (start : Option String) :
    (∃ fault, Stops tree start fault ∧ ComesTo (searchStart start) tree (.error fault)) ∨
      (∀ text, start = some text → ¬ Files.hasNull text) ∧ ¬ tree.Refuses (placeOf tree start) ∧
        ComesTo (searchStart start) tree (.ok (startDirectory tree start)) := by
  obtain ⟨text, given, null, placed⟩ | ⟨isPath, placed⟩ := comesTo_placeFrom tree start
  · exact .inl ⟨_, .null given null, placed.bind_of_error⟩
  unfold startDirectory
  obtain ⟨stands, asked⟩ | ⟨refuses, asked⟩ | ⟨⟨absent, lookedUp⟩, asked⟩ :=
    Files.isFile_cases tree (placeOf tree start)
  · rw [if_pos stands]
    exact .inr ⟨isPath, stands.not_refuses, placed.bind (asked.bind (.pure _))⟩
  · exact .inl ⟨_, .place refuses, placed.bind asked.bind_of_error⟩
  · rw [if_neg absent]
    exact .inr ⟨isPath, lookedUp, placed.bind (asked.bind (.pure _))⟩

/-- A search finds the nearest configuration file, or it is stopped. -/
theorem comesTo_find (tree : Tree) (start : Option String) :
    (∃ fault, Stops tree start fault ∧ ComesTo (find start) tree (.error fault)) ∨
      ∃ outcome, Searchable tree start ∧ FindsNearest tree (startDirectory tree start) outcome ∧
        ComesTo (find start) tree outcome := by
  obtain ⟨fault, stops, begun⟩ | ⟨isPath, lookedUp, begun⟩ := comesTo_searchStart tree start
  · exact .inl ⟨fault, stops, begun.bind_of_error⟩
  obtain ⟨outcome, searched, asked⟩ := comesTo_firstFile tree
    (candidateAbove (startDirectory tree start)) (levels (startDirectory tree start) + 1)
  rw [← candidates_eq] at searched
  cases asked with
  | found within stands passed =>
    rename_i up
    refine .inr ⟨_, ⟨isPath, lookedUp, ?_⟩, .found (Nat.le_of_lt_succ within) stands
      fun lower before => (passed lower before).1, begun.bind (searched.bind (.pure _))⟩
    intro level inReach refuses
    refine ⟨up, ?_, stands⟩
    -- No place up to the file is refused.
    rcases Nat.lt_trichotomy level up with before | same | behind
    · exact absurd refuses (passed level before).2
    · exact absurd (same ▸ refuses) stands.not_refuses
    · exact behind
  | refused within refuses passed =>
    exact .inl ⟨_, .candidate (Nat.le_of_lt_succ within) refuses
      fun lower before => (passed lower before).1, begun.bind searched.bind_of_error⟩
  | nowhere passed =>
    refine .inr ⟨_, ⟨isPath, lookedUp, ?_⟩,
      .nowhere fun up inReach => (passed up (Nat.lt_succ_of_le inReach)).1, ?_⟩
    · intro up inReach refuses
      exact absurd refuses (passed up (Nat.lt_succ_of_le inReach)).2
    · rw [← candidates_eq]
      exact begun.bind (searched.bind (.throw _))

/-- In the root directory, a start that is a name and longer than a name may be is refused. -/
theorem refuses_of_long {name : String} (slashless : '/' ∉ name.toList)
    (long : Files.maxNameBytes < name.utf8ByteSize) (notNull : '\x00' ∉ name.toList)
    (here : tree.here = []) (root : tree.statusAt [] = .directory) :
    tree.Refuses (placeOf tree (some name)) := by
  have notDots := (Files.not_special_of_long long).2.2
  have place : placeOf tree (some name) = ⟨"/", [name]⟩ := by
    simp [placeOf, workingDirectory, here, Path.ofText_of_long slashless long, Path.followedBy,
      Path.collapsed, Path.step, notDots]
  have written : (⟨"/", [name]⟩ : Path).text = "/" ++ name := by simp [Path.text]
  have noNull : ¬ Files.hasNull ("/" ++ name) := by simp [Files.hasNull, notNull]
  rw [place, Tree.Refuses, Tree.standing, written, if_neg noNull]
  exact Tree.status_of_long slashless long root

/-- From every start on every tree, the search for the configuration file changes nothing, and it
finds the nearest one, or names the places in all the directories on the way up when none holds
one, exactly when it can search from there. When it cannot, a fault that tells so is what it comes
to.

Proof: the search comes to one of two ends, to a promised outcome where it can search or to a
fault that stops it where it cannot, and the two exclude each other. -/
theorem find_nearest_iff (tree : Tree) (start : Option String) :
    ∃ outcome, ComesTo (find start) tree outcome ∧
      (FindsNearest tree (startDirectory tree start) outcome ↔ Searchable tree start) ∧
      (Searchable tree start ∨ ∃ fault, outcome = .error fault ∧ Stops tree start fault) := by
  obtain ⟨fault, stops, found⟩ | ⟨outcome, able, nearest, found⟩ := comesTo_find tree start
  · obtain ⟨notAble, notNearest⟩ := stops.not_searchable
    exact ⟨_, found, iff_of_false notNearest notAble, .inr ⟨fault, rfl, stops⟩⟩
  · exact ⟨outcome, found, iff_of_true nearest able, .inl able⟩

/-- With a start of two hundred and fifty-six letters a search is stopped, although there is no
such file or directory and the configuration file stands right above. -/
theorem find_stops_at_long_name :
    let tree : Tree := { here := [], entries := [([fileName], some "\x7b\x7d".toUTF8)] }
    let start := some (String.ofList (List.replicate 256 'x'))
    ∃ fault, ComesTo (find start) tree (.error fault) ∧
      ¬ FindsNearest tree (startDirectory tree start) (.error fault) := by
  intro tree start
  have other {c : Char} (different : c ≠ 'x') :
      c ∉ (String.ofList (List.replicate 256 'x')).toList := by
    rw [String.toList_ofList]
    exact fun member => different (List.eq_of_mem_replicate member)
  have refused : tree.Refuses (placeOf tree start) :=
    refuses_of_long (other (by decide)) (by decide +kernel) (other (by decide)) rfl
      (by decide +kernel)
  obtain ⟨fault, stops, found⟩ | ⟨outcome, able, _, _⟩ := comesTo_find tree start
  · exact ⟨fault, found, stops.not_searchable.2⟩
  · exact absurd refused able.placeLookedUp

end ClassOrder.Config
