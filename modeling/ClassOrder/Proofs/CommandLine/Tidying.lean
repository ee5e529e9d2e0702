import ClassOrder.Proofs.CommandLine.Formatting

/-!
# What formatting writes and says

Formatting a file tidies its bytes: they stay, or they become the text with its classes in order.
Tidied bytes are tidied already. So a run over several files tidies each of them, also one that is
named more than once, and it announces the files that it changes. A check announces the same files
and leaves the tree, as long as no file is named twice.
-/
namespace ClassOrder.CommandLine

open Fallible
open Files (Tree Path)
open Markup (rewrite Rewritten)

variable {sorter : Sorter} {bytes : ByteArray} {rewritten : Rewritten}

/-! ## The bytes of a file -/

/-- The text of bytes with its classes in order, when they are a text whose classes can be
sorted. -/
def rewritten? (sorter : Sorter) (bytes : ByteArray) : Option Rewritten :=
  (Files.decode bytes).bind fun source => (rewrite sorter.sortText source).toOption

/-- What formatting makes of the bytes of a file. -/
def tidied (sorter : Sorter) (bytes : ByteArray) : ByteArray :=
  match rewritten? sorter bytes with
  | some rewritten => if rewritten.changed = 0 then bytes else rewritten.text.toUTF8
  | none => bytes

/-- Bytes are rewritten when they are a text whose classes can be sorted. -/
theorem rewritten?_eq_some_iff :
    rewritten? sorter bytes = some rewritten ↔ ∃ source, Files.decode bytes = some source ∧
      rewrite sorter.sortText source = .ok rewritten := by
  simp only [rewritten?, Option.bind_eq_some_iff, toOption_eq_some]

/-- Nothing changes in an empty file. -/
theorem rewritten?_empty (found : rewritten? sorter .empty = some rewritten) :
    rewritten.changed = 0 := by
  obtain ⟨source, decoded, returned⟩ := rewritten?_eq_some_iff.mp found
  have empty : Files.decode .empty = some "" :=
    Files.decode_eq_some_iff.mpr ⟨"", rfl, rfl⟩
  cases decoded.symm.trans empty
  obtain ⟨_, rfl⟩ := (Markup.rewrite_eq_ok (Markup.settles_sortText sorter)).mp returned
  have uncut : Markup.cutOf "" = ⟨[], []⟩ := by with_unfolding_all rfl
  simp [uncut, Markup.Cut.attributes]

/-- Text that was rewritten is decoded to itself. -/
theorem decode_rewritten (found : rewritten? sorter bytes = some rewritten) :
    Files.decode rewritten.text.toUTF8 = some rewritten.text := by
  obtain ⟨source, decoded, returned⟩ := rewritten?_eq_some_iff.mp found
  obtain ⟨original, _, rfl⟩ := Files.decode_eq_some_iff.mp decoded
  have solid := Markup.return_notMem_rewritten (Markup.settles_sortText sorter) returned
    (Text.return_notMem_unified original)
  refine Files.decode_eq_some_iff.mpr ⟨rewritten.text, rfl, ?_⟩
  rw [Text.unified, Text.unifyNewlines_of_notMem solid, String.ofList_toList]

/-- Nothing changes in tidied bytes. -/
theorem rewritten?_tidied (found : rewritten? sorter bytes = some rewritten) :
    rewritten? sorter (tidied sorter bytes) = some ⟨rewritten.text, 0⟩ := by
  by_cases unchanged : rewritten.changed = 0
  · simp only [tidied, found, if_pos unchanged]
    rw [← unchanged]
  · simp only [tidied, found, if_neg unchanged]
    obtain ⟨source, _, returned⟩ := rewritten?_eq_some_iff.mp found
    exact rewritten?_eq_some_iff.mpr ⟨rewritten.text, decode_rewritten found,
      Markup.rewrite_rewritten (Markup.settles_sortText sorter) returned⟩

/-- Tidying once is enough. -/
theorem tidied_tidied (sorter : Sorter) (bytes : ByteArray) :
    tidied sorter (tidied sorter bytes) = tidied sorter bytes := by
  cases found : rewritten? sorter bytes with
  | none => simp only [tidied, found]
  | some rewritten =>
    rw [tidied, rewritten?_tidied found]
    rfl

/-- Tidied bytes stand for another text exactly when attributes change. -/
theorem decode_tidied_eq_iff (found : rewritten? sorter bytes = some rewritten) :
    Files.decode (tidied sorter bytes) = Files.decode bytes ↔ rewritten.changed = 0 := by
  by_cases unchanged : rewritten.changed = 0
  · simp only [tidied, found, if_pos unchanged]
    exact iff_of_true trivial unchanged
  · obtain ⟨source, decoded, returned⟩ := rewritten?_eq_some_iff.mp found
    simp only [tidied, found, if_neg unchanged]
    rw [decode_rewritten found, decoded, Option.some_inj]
    exact Markup.rewritten_text_eq_iff (Markup.settles_sortText sorter) returned

/-! ## Announcements -/

/-- What formatting a file changes: its path and the number of attributes, if there are any. -/
def changeOf? (sorter : Sorter) (tree : Tree) (file : String) : Option (Path × Nat) :=
  (rewritten? sorter (tree.read (Path.ofText file).text)).bind fun rewritten =>
    if rewritten.changed = 0 then none else some (Path.ofText file, rewritten.changed)

/-- What formatting or checking several files changes. -/
def changesOf (sorter : Sorter) (tree : Tree) (files : List String) : List (Path × Nat) :=
  files.filterMap (changeOf? sorter tree)

/-- The changes of several files are those of the first and then those of the others. -/
theorem changesOf_cons (sorter : Sorter) (tree : Tree) (file : String) (files : List String) :
    changesOf sorter tree (file :: files) =
      (changeOf? sorter tree file).toList ++ changesOf sorter tree files := by
  unfold changesOf
  cases changed : changeOf? sorter tree file with
  | none => rw [List.filterMap_cons_none changed, Option.toList_none, List.nil_append]
  | some change =>
    rw [List.filterMap_cons_some changed, Option.toList_some, List.singleton_append]

/-- Files that read the same change alike. -/
theorem changesOf_congr {sorter : Sorter} {tree other : Tree} {files : List String}
    (same : ∀ file ∈ files,
      other.read (Path.ofText file).text = tree.read (Path.ofText file).text) :
    changesOf sorter other files = changesOf sorter tree files := by
  induction files with
  | nil => rw [changesOf, changesOf, List.filterMap_nil, List.filterMap_nil]
  | cons file rest inductionHypothesis =>
    obtain ⟨sameHere, sameRest⟩ := List.forall_mem_cons.mp same
    rw [changesOf_cons, changesOf_cons, inductionHypothesis sameRest]
    rw [changeOf?, changeOf?, sameHere]

/-- The lines that announce changes. -/
def announced (check : Bool) : List (Path × Nat) → String
  | [] => ""
  | (path, count) :: rest =>
    Text.printed ((if check then "would reformat " else "reformatted ") ++
      (path.text ++ " (" ++ toString count ++ " attribute(s))")) ++ "\n" ++ announced check rest

/-- What was written before, and then announcements. -/
def Written.announcing (written : Written) (check : Bool) (changes : List (Path × Nat)) : Written :=
  { written with output := written.output ++ announced check changes }

/-- Without changes nothing is announced. -/
@[simp]
theorem Written.announcing_nil (written : Written) (check : Bool) :
    written.announcing check [] = written := by
  simp [announcing, announced]

/-- Changes may be announced in two parts, one behind the other. -/
theorem Written.announcing_append (written : Written) (check : Bool)
    (changes later : List (Path × Nat)) :
    (written.announcing check changes).announcing check later =
      written.announcing check (changes ++ later) := by
  have joined : announced check (changes ++ later) =
      announced check changes ++ announced check later := by
    induction changes with
    | nil => simp [announced]
    | cons change rest inductionHypothesis =>
      obtain ⟨path, count⟩ := change
      simp only [List.cons_append, announced, inductionHypothesis, String.append_assoc]
  simp only [announcing, joined, String.append_assoc]

/-! ## One file -/

/-- The files of a list lead to different places. -/
def Apart (tree : Tree) (files : List String) : Prop :=
  files.Pairwise fun file other =>
    tree.locate (Path.ofText file).text ≠ tree.locate (Path.ofText other).text

/-- One tree is another one in which some files are formatted. -/
structure Formats (sorter : Sorter) (files : List String) (tree other : Tree) : Prop where
  shape : tree.SameShape other
  formatted : ∀ file ∈ files, ∀ path, tree.locate path = tree.locate (Path.ofText file).text →
    other.read path = tidied sorter (tree.read path)
  kept : ∀ path, (∀ file ∈ files, tree.locate path ≠ tree.locate (Path.ofText file).text) →
    other.read path = tree.read path

variable {tree other first second third : Tree} {written : Written} {file : String}
  {files : List String}

/-- A file in which attributes change stands somewhere. -/
theorem exists_file_of_changed
    (found : rewritten? sorter (tree.read (Path.ofText file).text) = some rewritten)
    (changed : rewritten.changed ≠ 0) :
    ∃ place bytes, tree.locate (Path.ofText file).text = .ok place ∧
      tree.content? place = some bytes := by
  cases located : tree.locate (Path.ofText file).text with
  | error status =>
    have nothing : tree.read (Path.ofText file).text = .empty := by rw [Tree.read, located]
    rw [nothing] at found
    exact absurd (rewritten?_empty found) changed
  | ok place =>
    cases stands : tree.content? place with
    | some bytes => exact ⟨place, bytes, rfl, stands⟩
    | none =>
      rw [Tree.read_of_locate located, stands] at found
      exact absurd (rewritten?_empty found) changed

/-- Writing the rewritten text formats the file. -/
theorem formats_singleton
    (found : rewritten? sorter (tree.read (Path.ofText file).text) = some rewritten) :
    Formats sorter [file] tree
      (if rewritten.changed = 0 then tree
        else tree.write (Path.ofText file).text rewritten.text) := by
  by_cases unchanged : rewritten.changed = 0
  · rw [if_pos unchanged]
    refine ⟨.refl tree, ?_, fun _ _ => rfl⟩
    simp only [List.forall_mem_singleton]
    intro path same
    rw [Tree.read_congr same, tidied, found]
    simp only [if_pos unchanged]
  · rw [if_neg unchanged]
    obtain ⟨place, bytes, located, stands⟩ := exists_file_of_changed found unchanged
    refine ⟨Tree.sameShape_write located stands, ?_, ?_⟩
    · simp only [List.forall_mem_singleton]
      intro path same
      rw [Tree.read_write_of_eq located stands (same.trans located), Tree.read_congr same, tidied,
        found]
      simp only [if_neg unchanged]
    · simp only [List.forall_mem_singleton]
      intro path elsewhere
      rw [located] at elsewhere
      exact Tree.read_write_of_ne located stands elsewhere

/-- Formatting one file and then others formats all of them. -/
theorem Formats.cons (here : Formats sorter [file] first second)
    (behind : Formats sorter files second third) : Formats sorter (file :: files) first third := by
  have leads (path : String) := here.shape.locate_eq path
  refine ⟨here.shape.trans behind.shape, ?_, ?_⟩
  · intro other listed path same
    have tidiedOnce : second.read path = tidied sorter (first.read path) ∨
        second.read path = first.read path := by
      by_cases again : first.locate path = first.locate (Path.ofText file).text
      · exact .inl (here.formatted file List.mem_cons_self path again)
      · exact .inr (here.kept path (by simpa using again))
    by_cases later : ∃ other ∈ files, first.locate path = first.locate (Path.ofText other).text
    · obtain ⟨other, listedLater, same⟩ := later
      have formatted := behind.formatted other listedLater path (by rw [leads, leads, same])
      rcases tidiedOnce with once | once
      · rw [formatted, once, tidied_tidied]
      · rw [formatted, once]
    · have keptLater := behind.kept path fun other listedLater same =>
        later ⟨other, listedLater, by rw [← leads, ← leads, same]⟩
      rcases List.mem_cons.mp listed with rfl | listedLater
      · rw [keptLater, here.formatted other List.mem_cons_self path same]
      · exact absurd ⟨other, listedLater, same⟩ later
  · intro path elsewhere
    obtain ⟨elsewhereHere, elsewhereBehind⟩ := List.forall_mem_cons.mp elsewhere
    have elsewhereThen : ∀ other ∈ files,
        second.locate path ≠ second.locate (Path.ofText other).text := by
      simpa only [leads] using elsewhereBehind
    rw [behind.kept path elsewhereThen, here.kept path (by simpa using elsewhereHere)]

/-! ## Runs over files -/

/-- Formatting a file announces what it changes, and writes it unless this is a check. -/
theorem ends_formatFile (check : Bool) (written : Written)
    (found : rewritten? sorter (tree.read (Path.ofText file).text) = some rewritten) :
    Ends (formatFile sorter check file) written tree
      (.ok (changeOf? sorter tree file).isSome)
      (written.announcing check (changeOf? sorter tree file).toList)
      (if rewritten.changed = 0 ∨ check = true then tree
        else tree.write (Path.ofText file).text rewritten.text) := by
  obtain ⟨source, decoded, returned⟩ := rewritten?_eq_some_iff.mp found
  unfold formatFile
  dsimp only
  refine .lift_bind (Files.comesTo_readText _ tree) ?_
  rw [decoded]
  refine .bind (ends_orEscape source) ?_
  rw [returned]
  refine .bind (ends_orEscape rewritten) ?_
  by_cases unchanged : rewritten.changed = 0
  · have nothing : changeOf? sorter tree file = none := by
      simp [changeOf?, found, unchanged]
    simp only [nothing, unchanged, true_or, if_true, Option.toList_none,
      Written.announcing_nil]
    rfl
  · have something : changeOf? sorter tree file = some (Path.ofText file, rewritten.changed) := by
      simp [changeOf?, found, unchanged]
    have counted : (rewritten.changed == 0) = false := by simpa using unchanged
    have line : written.announcing check [(Path.ofText file, rewritten.changed)] =
        { written with
          output := written.output ++ Text.printed
            ((if check then "would reformat " else "reformatted ") ++
              ((Path.ofText file).text ++ " (" ++ toString rewritten.changed ++
                " attribute(s))")) ++ "\n" } := by
      simp [Written.announcing, announced, String.append_assoc]
    simp only [something, unchanged, counted, false_or, Bool.false_eq_true, if_false,
      Option.toList_some, Option.isSome_some, line]
    cases check <;> rfl

/-- A check announces what formatting would change, and leaves the tree. -/
theorem ends_formatFiles_check (written : Written)
    (usable : ∀ file ∈ files, (rewritten? sorter (tree.read (Path.ofText file).text)).isSome) :
    Ends (formatFiles sorter true files) written tree
      (.ok (changesOf sorter tree files).length)
      (written.announcing true (changesOf sorter tree files)) tree := by
  induction files generalizing written with
  | nil =>
    rw [changesOf, List.filterMap_nil, Written.announcing_nil]
    rfl
  | cons file rest inductionHypothesis =>
    obtain ⟨usableHere, usableRest⟩ := List.forall_mem_cons.mp usable
    obtain ⟨rewritten, found⟩ := Option.isSome_iff_exists.mp usableHere
    have here := ends_formatFile true written found
    rw [if_pos (.inr rfl)] at here
    refine .bind here (.bind (inductionHypothesis _ usableRest) ?_)
    rw [Written.announcing_append, changesOf_cons]
    cases changeOf? sorter tree file <;> rfl

/-- The files of a formatted tree can still be formatted. -/
theorem Formats.usable (formats : Formats sorter files tree other)
    (usable : (rewritten? sorter (tree.read (Path.ofText file).text)).isSome) :
    (rewritten? sorter (other.read (Path.ofText file).text)).isSome := by
  obtain ⟨rewritten, found⟩ := Option.isSome_iff_exists.mp usable
  by_cases listed : ∃ another ∈ files,
      tree.locate (Path.ofText file).text = tree.locate (Path.ofText another).text
  · obtain ⟨another, member, same⟩ := listed
    rw [formats.formatted another member _ same, rewritten?_tidied found]
    rfl
  · rw [formats.kept _ fun another member same => listed ⟨another, member, same⟩]
    exact usable

/-- Nothing changes any more in the files of a formatted tree. -/
theorem Formats.changesOf_eq_nil (formats : Formats sorter files tree other)
    (usable : ∀ file ∈ files, (rewritten? sorter (tree.read (Path.ofText file).text)).isSome) :
    changesOf sorter other files = [] := by
  apply List.filterMap_eq_nil_iff.mpr
  intro file listed
  obtain ⟨rewritten, found⟩ := Option.isSome_iff_exists.mp (usable file listed)
  rw [changeOf?, formats.formatted file listed _ rfl, rewritten?_tidied found]
  rfl

/-- A run formats all files, also when some are named twice. When none is, it announces what a
check of the first tree announces. -/
theorem ends_formatFiles_format (written : Written)
    (usable : ∀ file ∈ files, (rewritten? sorter (tree.read (Path.ofText file).text)).isSome) :
    ∃ changes left, Ends (formatFiles sorter false files) written tree (.ok changes.length)
        (written.announcing false changes) left ∧
      Formats sorter files tree left ∧
      (Apart tree files → changes = changesOf sorter tree files) := by
  induction files generalizing written tree with
  | nil =>
    refine ⟨[], tree, ?_, ⟨.refl tree, by simp, fun _ _ => rfl⟩, fun _ => rfl⟩
    rw [Written.announcing_nil]
    rfl
  | cons file rest inductionHypothesis =>
    obtain ⟨usableHere, usableRest⟩ := List.forall_mem_cons.mp usable
    obtain ⟨rewritten, found⟩ := Option.isSome_iff_exists.mp usableHere
    have here := ends_formatFile false written found
    simp only [Bool.false_eq_true, or_false] at here
    have formatsHere := formats_singleton found
    generalize (if rewritten.changed = 0 then tree
      else tree.write (Path.ofText file).text rewritten.text) = middle at here formatsHere
    obtain ⟨changes, left, behind, formatsBehind, sameBehind⟩ := inductionHypothesis
      (written.announcing false (changeOf? sorter tree file).toList)
      (fun other listed => formatsHere.usable (usableRest other listed))
    refine ⟨(changeOf? sorter tree file).toList ++ changes, left, .bind here (.bind behind ?_),
      formatsHere.cons formatsBehind, ?_⟩
    · rw [Written.announcing_append]
      cases changeOf? sorter tree file <;> rfl
    · intro apart
      obtain ⟨apartHere, apartRest⟩ := List.pairwise_cons.mp apart
      have leads (path : String) := formatsHere.shape.locate_eq path
      rw [sameBehind (by simpa only [Apart, leads] using apartRest)]
      -- The files behind are where they were, and they read what they read before.
      have keptRest : changesOf sorter middle rest = changesOf sorter tree rest := by
        apply changesOf_congr
        intro other listed
        have elsewhere := (apartHere other listed).symm
        exact formatsHere.kept _ (by simpa using elsewhere)
      rw [keptRest, changesOf_cons]

end ClassOrder.CommandLine
