import ClassOrder.Proofs.CommandLine.Looking
import ClassOrder.Proofs.Markup.Frame
import ClassOrder.Proofs.Markup.Rewriting

/-!
# What formatting does to files

A file is read with a line feed at the end of every line and written as it is then, so a
formatted file has lost its carriage returns everywhere. Outside the values of the class
attributes nothing else happens to it. So the frame of a file is kept exactly when the file
is left as it is or has no carriage return outside the values.
-/
namespace ClassOrder.CommandLine

open Files (Tree Path)
open Markup (frame rewrite)

variable {α β : Type}

/-! ## The tree that a step leaves -/

/-- The tree that a step leaves, however it ends. -/
def treeAfter (step : Running (StateM Tree) α) (written : Written) (tree : Tree) : Tree :=
  ((step.run.run written).run tree).2

/-- The second of two steps starts from the tree that the first leaves, unless the first ends the
run. -/
theorem treeAfter_bind (step : Running (StateM Tree) α) (next : α → Running (StateM Tree) β)
    (written : Written) (tree : Tree) :
    treeAfter (step >>= next) written tree =
      match (step.run.run written).run tree with
      | ((.ok value, after), between) => treeAfter (next value) after between
      | ((.error _, _), between) => between := by
  simp only [treeAfter, ExceptT.run, bind, ExceptT.bind, ExceptT.mk, StateT.bind, StateT.run,
    ExceptT.bindCont]
  rcases step written tree with ⟨⟨outcome, after⟩, between⟩
  cases outcome <;> rfl

/-- An action on the tree is done in front of the next step. -/
theorem treeAfter_lift_bind (action : StateM Tree α) (next : α → Running (StateM Tree) β)
    (written : Written) (tree : Tree) :
    treeAfter ((liftM action : Running (StateM Tree) α) >>= next) written tree =
      treeAfter (next (action.run tree).1) written (action.run tree).2 :=
  rfl

/-- A fault ends the run, and the tree is left. -/
theorem treeAfter_orEscape_bind (outcome : Except Fault α) (next : α → Running (StateM Tree) β)
    (written : Written) (tree : Tree) :
    treeAfter (orEscape outcome >>= next) written tree =
      match outcome with
      | .ok value => treeAfter (next value) written tree
      | .error _ => tree := by
  cases outcome <;> rfl

/-- Formatting a file writes it with its classes in order, if some attribute changes and this is
not only to be checked. In all other cases the tree is left. -/
theorem treeAfter_formatFile (sorter : Sorter) (check : Bool) (file : String) (written : Written)
    (tree : Tree) :
    treeAfter (formatFile sorter check file) written tree =
      match Files.decode (tree.read (Path.ofText file).text) with
      | none => tree
      | some source =>
        match rewrite sorter.sortText source with
        | .error _ => tree
        | .ok rewritten =>
          if rewritten.changed == 0 || check then tree
          else tree.write (Path.ofText file).text rewritten.text := by
  unfold formatFile
  dsimp only
  have read : (Files.readText (m := StateM Tree) (Path.ofText file)).run.run tree = _ :=
    Files.comesTo_readText (Path.ofText file) tree
  rw [treeAfter_lift_bind, read]
  cases Files.decode (tree.read (Path.ofText file).text) with
  | none => rfl
  | some source =>
    simp only [treeAfter_orEscape_bind]
    cases rewrite sorter.sortText source with
    | error fault => rfl
    | ok rewritten =>
      by_cases unchanged : (rewritten.changed == 0) = true
      · simp only [unchanged, if_true, Bool.true_or]
        rfl
      · simp only [unchanged, if_false, Bool.false_or, Bool.false_eq_true]
        cases check <;> rfl

/-- Formatting a single file leaves what formatting this file leaves. -/
theorem treeAfter_formatFiles_singleton (sorter : Sorter) (check : Bool) (file : String)
    (written : Written) (tree : Tree) :
    treeAfter (formatFiles sorter check [file]) written tree =
      treeAfter (formatFile sorter check file) written tree := by
  rw [formatFiles, treeAfter_bind]
  unfold treeAfter
  rcases StateT.run (StateT.run (ExceptT.run (formatFile sorter check file)) written) tree with
    ⟨⟨outcome, after⟩, between⟩
  cases outcome <;> rfl

/-! ## The bytes of a file -/

/-- What formatting makes of the bytes of a file: they stay, or they are a text and a text comes
in their place that has the frame of this text once its newlines are unified. -/
def Reformats (before after : ByteArray) : Prop :=
  after = before ∨ ∃ source target : String, before = source.toUTF8 ∧ after = target.toUTF8 ∧
    frame target = frame (Text.unified source)

/-- What is formatted again has no newline left to unify. -/
theorem Reformats.trans {first second third : ByteArray} (earlier : Reformats first second)
    (later : Reformats second third) : Reformats first third := by
  rcases later with rfl | ⟨between, target, same, rfl, framed⟩
  · exact earlier
  rcases earlier with rfl | ⟨source, middle, rfl, rfl, framedBefore⟩
  · exact .inr ⟨between, target, same, rfl, framed⟩
  · obtain rfl : middle = between := String.toByteArray_inj.mp same
    have solid : '\r' ∉ (frame middle).text := by
      rw [framedBefore]
      exact mt Markup.mem_of_mem_frame (Text.return_notMem_unified source)
    rw [(Markup.frame_unified_iff middle).mpr solid, framedBefore] at framed
    exact .inr ⟨source, target, rfl, rfl, framed⟩

/-- Every file of a tree is reformatted in another one. -/
def FilesReformat (before after : Tree) : Prop :=
  ∀ place bytes, before.content? place = some bytes →
    ∃ now, after.content? place = some now ∧ Reformats bytes now

/-- A tree that stays as it is has no file reformatted. -/
theorem FilesReformat.refl (tree : Tree) : FilesReformat tree tree :=
  fun _ bytes stands => ⟨bytes, stands, .inl rfl⟩

/-- Files that are reformatted one run after the other are reformatted. -/
theorem FilesReformat.trans {first second third : Tree} (earlier : FilesReformat first second)
    (later : FilesReformat second third) : FilesReformat first third := by
  intro place bytes stands
  obtain ⟨between, standsBetween, reformats⟩ := earlier place bytes stands
  obtain ⟨now, standsNow, reformatsNow⟩ := later place between standsBetween
  exact ⟨now, standsNow, reformats.trans reformatsNow⟩

/-- Files that are reformatted by each of two steps are reformatted by both, also when the first
ends the run. -/
theorem filesReformat_bind {step : Running (StateM Tree) α} {next : α → Running (StateM Tree) β}
    (here : ∀ written tree, FilesReformat tree (treeAfter step written tree))
    (behind : ∀ value written tree, FilesReformat tree (treeAfter (next value) written tree))
    (written : Written) (tree : Tree) :
    FilesReformat tree (treeAfter (step >>= next) written tree) := by
  have first := here written tree
  rw [treeAfter_bind]
  unfold treeAfter at first
  rcases ran : StateT.run (StateT.run (ExceptT.run step) written) tree with
    ⟨⟨outcome, after⟩, between⟩
  rw [ran] at first
  cases outcome with
  | error exit => exact first
  | ok value => exact first.trans (behind value after between)

/-- Formatting one file reformats this file and leaves all others. -/
theorem formatFile_reformats (sorter : Sorter) (check : Bool) (file : String) (written : Written)
    (tree : Tree) : FilesReformat tree (treeAfter (formatFile sorter check file) written tree) := by
  rw [treeAfter_formatFile]
  split
  · exact .refl tree
  rename_i text decoded
  split
  · exact .refl tree
  rename_i rewritten returned
  split
  · exact .refl tree
  cases located : tree.locate (Path.ofText file).text with
  | error status =>
    rw [Tree.write_of_locate_error located]
    exact .refl tree
  | ok place =>
    intro other bytes stands
    by_cases same : other = place
    · subst same
      rw [Tree.read_of_locate located, stands] at decoded
      obtain ⟨source, rfl, rfl⟩ := Files.decode_eq_some_iff.mp decoded
      have framed := Markup.frame_rewritten (Markup.settles_sortText sorter) returned
      exact ⟨_, Tree.content?_write_self located stands, .inr ⟨source, _, rfl, rfl, framed⟩⟩
    · exact ⟨bytes, by rw [Tree.content?_write_of_ne located same, stands], .inl rfl⟩

/-- Formatting files in turn reformats them, also when a fault ends the run early. -/
theorem formatFiles_reformats (sorter : Sorter) (check : Bool) (files : List String)
    (written : Written) (tree : Tree) :
    FilesReformat tree (treeAfter (formatFiles sorter check files) written tree) := by
  induction files generalizing written tree with
  | nil => exact .refl tree
  | cons file rest inductionHypothesis =>
    refine filesReformat_bind (formatFile_reformats sorter check file) (fun changed => ?_)
      written tree
    exact filesReformat_bind inductionHypothesis fun others written tree => .refl tree

/-- Of a file that is a text a text is left. Outside the values of its class attributes this is
the same, character by character, exactly when the whole file is, or when there is no carriage
return outside the values. The files are gone through by induction: a text is kept, or replaced by
the rewriting of the text with its line ends unified. Rewriting keeps the frame, and unifying the
line ends keeps it exactly when it has no carriage return. -/
theorem formatFiles_frame_iff (sorter : Sorter) (check : Bool) (files : List String)
    (written : Written) (tree : Tree) (place : List String) (source : String)
    (stands : tree.content? place = some source.toUTF8) :
    ∃ target : String,
      (treeAfter (formatFiles sorter check files) written tree).content? place =
        some target.toUTF8 ∧
      (frame target = frame source ↔ target = source ∨ '\r' ∉ (frame source).text) := by
  obtain ⟨now, standsNow, reformats⟩ :=
    formatFiles_reformats sorter check files written tree place _ stands
  rcases reformats with rfl | ⟨same, target, spelled, rfl, framed⟩
  · exact ⟨source, standsNow, iff_of_true rfl (.inl rfl)⟩
  · obtain rfl : source = same := String.toByteArray_inj.mp spelled
    refine ⟨target, standsNow, ?_⟩
    rw [framed, Markup.frame_unified_iff]
    constructor
    · exact .inr
    · rintro (rfl | solid)
      · exact (Markup.frame_unified_iff target).mp framed.symm
      · exact solid

/-- A tree with one page in it. -/
def pageAlone (source : String) : Tree where
  here := []
  entries := [(["page.html"], some source.toUTF8)]

/-- A line break of two characters inside a value is no obstacle. -/
theorem formatFiles_frame_iff_inside :
    let page := "<p class='flex\r\nblock'>\n"
    (pageAlone page).content? ["page.html"] = some page.toUTF8 ∧
      ∃ target : String,
        (treeAfter (formatFiles Markup.blockFirst false ["page.html"]) {}
          (pageAlone page)).content? ["page.html"] = some target.toUTF8 ∧
        frame target = frame page := by
  intro page
  have stands : (pageAlone page).content? ["page.html"] = some page.toUTF8 := rfl
  have solid : '\r' ∉ (frame page).text := by
    with_unfolding_all decide
  obtain ⟨target, left, kept⟩ :=
    formatFiles_frame_iff Markup.blockFirst false ["page.html"] {} _ _ page stands
  exact ⟨stands, target, left, kept.mpr (.inr solid)⟩

/-- The carriage return behind a paragraph is lost when its classes are put in order. -/
theorem formatFiles_loses_return :
    (treeAfter (formatFiles Markup.blockFirst false ["page.html"]) {}
        (pageAlone "<p class='flex  block'>\r\n")).content? ["page.html"] =
      some "<p class='block flex'>\n".toUTF8 ∧
    frame "<p class='block flex'>\n" ≠ frame "<p class='flex  block'>\r\n" := by
  have cut : Markup.cutOf (Text.unified "<p class='flex  block'>\r\n") =
      ⟨[("<p ".toList, ⟨"class=".toList, '\x27', "flex  block".toList⟩)], ">\n".toList⟩ := by
    with_unfolding_all rfl
  have located : (pageAlone "<p class='flex  block'>\r\n").locate
      (Path.ofText "page.html").text = .ok ["page.html"] := by
    with_unfolding_all rfl
  have stands : (pageAlone "<p class='flex  block'>\r\n").content? ["page.html"] =
      some "<p class='flex  block'>\r\n".toUTF8 := rfl
  have decoded := Files.decode_eq_some_iff.mpr
    ⟨"<p class='flex  block'>\r\n", rfl, rfl⟩
  refine ⟨?_, by with_unfolding_all decide⟩
  rw [treeAfter_formatFiles_singleton, treeAfter_formatFile, Tree.read_of_locate located, stands,
    Option.getD_some, decoded]
  simp only [Markup.rewrite_flexBlock cut]
  exact Tree.content?_write_self located stands

end ClassOrder.CommandLine
