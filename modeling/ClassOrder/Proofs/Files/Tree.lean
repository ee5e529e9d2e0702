import ClassOrder.Files.Tree
import ClassOrder.Proofs.Entries

/-!
# Writing to a tree of files

A write reaches the place that the path leads to and no other one. Where a file stands it
replaces the content, and reading gives back what was written. Then the tree keeps its shape, so
every path leads where it led before.
-/
namespace ClassOrder.Files.Tree

variable {tree : Tree} {path text : String} {place other : List String} {bytes : ByteArray}

/-- A file is read where the path leads. -/
theorem read_of_locate (located : tree.locate path = .ok place) :
    tree.read path = (tree.content? place).getD .empty := by
  rw [read, located]

/-- Paths that lead to one place read the same. -/
theorem read_congr {another : String} (same : tree.locate path = tree.locate another) :
    tree.read path = tree.read another := by
  rw [read, read, same]

/-- Writing to a path that leads nowhere changes nothing. -/
theorem write_of_locate_error {status : Status} (lost : tree.locate path = .error status) :
    tree.write path text = tree := by
  rw [write, lost]

/-- What a write makes of the content at any place. -/
theorem content?_write (located : tree.locate path = .ok place) (other : List String) :
    (tree.write path text).content? other =
      ((Entries.get? tree.entries other).map fun content =>
        if other = place then some text.toUTF8 else content).join := by
  have entries : (tree.write path text).entries = tree.entries.map fun entry =>
      (entry.1, if entry.1 = place then some text.toUTF8 else entry.2) := by
    rw [write, located]
    apply List.map_congr_left
    rintro ⟨names, content⟩ _
    by_cases same : names = place
    · simp [same]
    · simp [same]
  unfold content?
  rw [entries]
  exact congrArg Option.join (Entries.get?_map
    (fun names content => if names = place then some text.toUTF8 else content) tree.entries other)

/-- A write leaves all other places. -/
theorem content?_write_of_ne (located : tree.locate path = .ok place) (different : other ≠ place) :
    (tree.write path text).content? other = tree.content? other := by
  simp only [content?_write located, if_neg different, Option.map_id']
  rfl

/-- A write replaces the content of a file. -/
theorem content?_write_self (located : tree.locate path = .ok place)
    (stands : tree.content? place = some bytes) :
    (tree.write path text).content? place = some text.toUTF8 := by
  have listed : Entries.get? tree.entries place = some (some bytes) :=
    Option.join_eq_some_iff.mp stands
  rw [content?_write located, listed, Option.map_some, if_pos rfl, Option.join_some]

/-! ## Trees of the same shape -/

/-- Two trees have the same working directory, and the same kind of thing stands at every
place. -/
structure SameShape (tree other : Tree) : Prop where
  here : other.here = tree.here
  statusAt : ∀ place, other.statusAt place = tree.statusAt place

namespace SameShape

variable {first second third : Tree}

/-- A tree has its own shape. -/
theorem refl (tree : Tree) : SameShape tree tree :=
  ⟨rfl, fun _ => rfl⟩

/-- Trees of one shape with a third one are of one shape. -/
theorem trans (earlier : SameShape first second) (later : SameShape second third) :
    SameShape first third :=
  ⟨later.here.trans earlier.here,
    fun place => (later.statusAt place).trans (earlier.statusAt place)⟩

/-- Every path leads to the same place. -/
theorem locate_eq (alike : SameShape first second) (path : String) :
    second.locate path = first.locate path := by
  have steps : second.step = first.step := by
    funext place name
    rw [step, step, alike.statusAt]
  rw [locate, locate, steps, alike.here]

/-- The same kind of thing stands at every path. -/
theorem status_eq (alike : SameShape first second) (path : String) :
    second.status path = first.status path := by
  rw [status, status, alike.locate_eq]
  cases first.locate path with
  | error status => rfl
  | ok place => exact alike.statusAt place

end SameShape

/-- A write in the place of a file keeps the shape of the tree. -/
theorem sameShape_write (located : tree.locate path = .ok place)
    (stands : tree.content? place = some bytes) : SameShape tree (tree.write path text) := by
  constructor
  · rw [write, located]
  · intro other
    by_cases same : other = place
    · subst same
      simp only [statusAt, content?_write_self located stands, stands, Option.isSome_some, if_true]
    · -- An entry at the place of the write is not the one that is asked about.
      have directory : (tree.write path text).isDirectory other = tree.isDirectory other := by
        simp only [isDirectory, write, located, List.any_map]
        congr 2
        funext entry
        obtain ⟨names, content⟩ := entry
        have apart : (other != place) = true := bne_iff_ne.mpr same
        by_cases written : names = place
        · simp [written, apart]
        · simp [written]
      rw [statusAt, statusAt, content?_write_of_ne located same, directory]

/-- After a write in the place of a file, the paths that lead there read what was written. -/
theorem read_write_of_eq {another : String} (located : tree.locate path = .ok place)
    (stands : tree.content? place = some bytes) (leads : tree.locate another = .ok place) :
    (tree.write path text).read another = text.toUTF8 := by
  have alike : tree.SameShape (tree.write path text) := sameShape_write located stands
  have leadsStill := alike.locate_eq another
  rw [leads] at leadsStill
  rw [read_of_locate leadsStill, content?_write_self located stands, Option.getD_some]

/-- All other paths read what they read before. -/
theorem read_write_of_ne {another : String} (located : tree.locate path = .ok place)
    (stands : tree.content? place = some bytes) (elsewhere : tree.locate another ≠ .ok place) :
    (tree.write path text).read another = tree.read another := by
  have alike : tree.SameShape (tree.write path text) := sameShape_write located stands
  have leadsStill := alike.locate_eq another
  cases leads : tree.locate another with
  | error status =>
    rw [leads] at leadsStill
    simp only [Tree.read, leadsStill, leads]
  | ok other =>
    rw [leads] at leadsStill elsewhere
    rw [read_of_locate leadsStill, read_of_locate leads,
      content?_write_of_ne located (by simpa using elsewhere)]

end ClassOrder.Files.Tree
