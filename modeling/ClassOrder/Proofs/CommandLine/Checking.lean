import ClassOrder.Proofs.CommandLine.Tidying
import ClassOrder.Proofs.Sorter.Failure

/-!
# Formatting and checking agree

Two runs with the same options format some files and only check them. Both find the same settings,
the same sorter and the same files, because none of what they look at before has changed. The check
leaves the tree, and its status says whether formatting changes the text of a file. When no file is
named twice, both announce the same changes. A check after the formatting finds nothing to change.
-/
namespace ClassOrder.CommandLine

open Files (Tree Path)

variable {α : Type} {tree other left : Tree} {settings : Settings} {arguments files : List String}
  {check : Bool} {sorter : Sorter}

/-- The outcome of a step that is taken on a tree at the beginning of a run. -/
def outcomeOn (tree : Tree) (step : Running (StateM Tree) α) : Except Exit α :=
  ((step.run.run {}).run tree).1.1

/-- On a tree, arguments ask for the files to be formatted or to be checked, with some settings. -/
def AsksFor (tree : Tree) (arguments : List String) (settings : Settings) (files : List String)
    (check : Bool) : Prop :=
  ∃ rest, outcomeOn tree (takeSettings arguments) = .ok (settings, rest) ∧
    commandOf rest = some (.format files check)

/-- A file stands where an argument says, and it is a text whose classes the sorter can sort. -/
structure Formattable (sorter : Sorter) (tree : Tree) (file : String) : Prop where
  speakable : Files.hasNull file = false
  stands : tree.status file = .file
  sortable : ∃ source rewritten, Files.decode (tree.read (Path.ofText file).text) = some source ∧
    Markup.rewrite sorter.sortText source = .ok rewritten

/-- The configuration file is none of some files. -/
def ConfigApart (tree : Tree) (settings : Settings) (files : List String) : Prop :=
  ∀ path, ((Config.locate (m := StateM Tree) settings.configPath).run.run tree).1 = .ok path →
    ∀ file ∈ files, tree.locate path.text ≠ tree.locate (Path.ofText file).text

/-- The last line of output: how many of the files are changed. -/
def summary (check : Bool) (changed total : Nat) : String :=
  Text.printed (toString changed ++ " of " ++ toString total ++ " file(s) " ++
    (if check then "would be reformatted" else "reformatted")) ++ "\n"

/-! ## Runs -/

/-- What a step that only looks at the tree comes to at the beginning of a run, it comes to later
and on a tree that looks alike. -/
theorem LooksAlike.ends {step : Running (StateM Tree) α} {value : α}
    (looks : LooksAlike tree other step) (returned : outcomeOn tree step = .ok value)
    (written : Written) :
    ∃ after, Ends step written other (.ok value) after other ∧ after.output = written.output := by
  obtain ⟨outcome, ended⟩ := looks
  have same : outcome = .ok value := by
    obtain ⟨after, first, _⟩ := ended {}
    rw [← returned, outcomeOn, first]
  subst same
  obtain ⟨after, _, second, quiet⟩ := ended written
  exact ⟨after, second, quiet value rfl⟩

/-- Files that stand where the arguments say are not refused. -/
theorem ends_requireFiles
    (stand : ∀ file ∈ files, Files.hasNull file = false ∧ tree.status file = .file)
    (written : Written) : Ends (requireFiles files) written tree (.ok ()) written tree := by
  induction files with
  | nil => rfl
  | cons file rest inductionHypothesis =>
    obtain ⟨⟨speakable, stands⟩, standRest⟩ := List.forall_mem_cons.mp stand
    have looked : Ends (statusOf file) written tree (.ok .file) written tree := by
      unfold statusOf
      rw [speakable, ← stands]
      rfl
    exact .bind (.bind looked rfl) (inductionHypothesis standRest)

/-- The end of the work is the end of the run, after a last line of output. A check of files to
change ends with status one. -/
theorem run_of_ends {input : StateM Tree String} {rest : List String}
    {first second third after : Written} {count : Nat}
    (taken : Ends (takeSettings arguments) {} tree (.ok (settings, rest)) first tree)
    (named : commandOf rest = some (.format files check))
    (required : Ends (requireFiles files) first tree (.ok ()) second tree)
    (made : Ends (makeSorter settings) second tree (.ok sorter) third tree)
    (worked : Ends (formatFiles sorter check files) third tree (.ok count) after left) :
    (run arguments input).run tree =
      ({ exit := if check && count != 0 then .status 1 else .status 0
         written := { after with
          output := after.output ++ summary check count files.length } }, left) := by
  have ended : Ends (runArguments arguments input) {} tree
      (if check && count != 0 then .error (.status 1) else .ok ())
      { after with output := after.output ++ summary check count files.length } left := by
    refine .bind taken ?_
    dsimp only
    unfold runNamed
    rw [named]
    refine .bind required (.bind made (.bind worked ?_))
    rw [summary, ← String.append_assoc]
    refine .bind (ends_printLine _) ?_
    cases check && count != 0 <;> rfl
  unfold run
  unfold Ends at ended
  simp only [ExceptT.run, StateT.run, bind, StateT.bind] at ended ⊢
  rw [ended]
  cases check && count != 0 <;> rfl

/-- A run that is asked for on one tree works on a tree that looks alike. Nothing is in its output
when the work begins. -/
theorem exists_run_of_work (alike : tree.SameShape other)
    (same : ∀ path, ((Config.locate (m := StateM Tree) settings.configPath).run.run tree).1 =
      .ok path → other.read path.text = tree.read path.text)
    (asks : AsksFor tree arguments settings files check)
    (made : outcomeOn tree (makeSorter settings) = .ok sorter)
    (usable : ∀ file ∈ files, Formattable sorter tree file) (input : StateM Tree String) :
    ∃ begun : Written, begun.output = "" ∧ ∀ count after left,
      Ends (formatFiles sorter check files) begun other (.ok count) after left →
      (run arguments input).run other =
        ({ exit := if check && count != 0 then .status 1 else .status 0
           written := { after with
            output := after.output ++ summary check count files.length } }, left) := by
  obtain ⟨rest, taken, named⟩ := asks
  obtain ⟨first, taken, quietFirst⟩ := (LooksAlike.takeSettings alike arguments).ends taken {}
  obtain ⟨begun, made, quiet⟩ := (LooksAlike.makeSorter alike settings same).ends made first
  have stand : ∀ file ∈ files, Files.hasNull file = false ∧ other.status file = .file := by
    intro file listed
    rw [alike.status_eq]
    exact ⟨(usable file listed).speakable, (usable file listed).stands⟩
  refine ⟨begun, quiet.trans quietFirst, ?_⟩
  intro count after left worked
  exact run_of_ends taken named (ends_requireFiles stand first) made worked

/-- A check announces what formatting would change, leaves the tree, and says by its status whether
there is anything to change. -/
theorem exists_run_of_check (alike : tree.SameShape other)
    (same : ∀ path, ((Config.locate (m := StateM Tree) settings.configPath).run.run tree).1 =
      .ok path → other.read path.text = tree.read path.text)
    (asks : AsksFor tree arguments settings files true)
    (made : outcomeOn tree (makeSorter settings) = .ok sorter)
    (usable : ∀ file ∈ files, Formattable sorter tree file)
    (rewrites : ∀ file ∈ files, (rewritten? sorter (other.read (Path.ofText file).text)).isSome)
    (input : StateM Tree String) :
    ∃ written : Written,
      (run arguments input).run other =
        ({ exit := if changesOf sorter other files = [] then .status 0 else .status 1
           written }, other) ∧
      written.output = announced true (changesOf sorter other files) ++
        summary true (changesOf sorter other files).length files.length := by
  obtain ⟨begun, empty, runs⟩ := exists_run_of_work alike same asks made usable input
  have ran := runs _ _ _ (ends_formatFiles_check begun rewrites)
  have exits (changes : List (Path × Nat)) :
      (if true && changes.length != 0 then Exit.status 1 else Exit.status 0) =
        if changes = [] then .status 0 else .status 1 := by
    cases changes <;> rfl
  rw [exits] at ran
  refine ⟨_, ran, ?_⟩
  simp only [Written.announcing, empty, String.empty_append]

/-- The text of a file is left by formatting exactly when nothing changes in it. -/
theorem Formats.text_eq_iff {file : String} (formats : Formats sorter files tree other)
    (listed : file ∈ files)
    (usable : (rewritten? sorter (tree.read (Path.ofText file).text)).isSome) :
    Files.decode (other.read (Path.ofText file).text) =
        Files.decode (tree.read (Path.ofText file).text) ↔
      changeOf? sorter tree file = none := by
  obtain ⟨rewritten, found⟩ := Option.isSome_iff_exists.mp usable
  rw [formats.formatted file listed _ rfl, decode_tidied_eq_iff found, changeOf?, found]
  simp

/-- With the same options, a run formats files and another one only checks them. The check leaves
every file, and it ends with status one exactly when formatting changes the text of one, and else
with status zero. When the files are different ones, both announce the same changes. The
formatting ends with status zero, and a check of what it leaves finds nothing to change.

Proof: the three runs go through the same files. A file that is formatted holds the rewriting of
its text, which rewriting leaves as it is, so no change is left for the last run; and where the
text is the same the file was not to be changed in the first place. -/
theorem run_check_agrees_with_format (tree : Tree) (input : StateM Tree String)
    (arguments checking files : List String) (settings : Settings) (sorter : Sorter)
    (asks : AsksFor tree arguments settings files false)
    (asksToCheck : AsksFor tree checking settings files true)
    (made : outcomeOn tree (makeSorter settings) = .ok sorter)
    (usable : ∀ file ∈ files, Formattable sorter tree file)
    (apart : ConfigApart tree settings files) :
    ∃ formatted checked again left,
      (run arguments input).run tree = (formatted, left) ∧
      (run checking input).run tree = (checked, tree) ∧
      (run checking input).run left = (again, left) ∧
      (checked.exit = .status 1 ∧ (∃ file ∈ files,
            Files.decode (left.read (Path.ofText file).text) ≠
              Files.decode (tree.read (Path.ofText file).text)) ∨
        checked.exit = .status 0 ∧ ∀ file ∈ files,
            Files.decode (left.read (Path.ofText file).text) =
              Files.decode (tree.read (Path.ofText file).text)) ∧
      (Apart tree files →
        let changes := changesOf sorter tree files
        formatted.written.output =
            announced false changes ++ summary false changes.length files.length ∧
          checked.written.output =
            announced true changes ++ summary true changes.length files.length) ∧
      formatted.exit = .status 0 ∧
      again.exit = .status 0 ∧ again.written.output = summary true 0 files.length := by
  have rewrites : ∀ file ∈ files,
      (rewritten? sorter (tree.read (Path.ofText file).text)).isSome := by
    intro file listed
    obtain ⟨source, rewritten, decoded, returned⟩ := (usable file listed).sortable
    exact Option.isSome_iff_exists.mpr
      ⟨rewritten, rewritten?_eq_some_iff.mpr ⟨source, decoded, returned⟩⟩
  -- The formatting, the check, and the check of what the formatting leaves.
  obtain ⟨begun, empty, runs⟩ :=
    exists_run_of_work (.refl tree) (fun _ _ => rfl) asks made usable input
  obtain ⟨changes, left, worked, formats, announces⟩ := ends_formatFiles_format begun rewrites
  obtain ⟨writtenCheck, ranCheck, saysCheck⟩ := exists_run_of_check (.refl tree) (fun _ _ => rfl)
    asksToCheck made usable rewrites input
  obtain ⟨writtenAgain, ranAgain, saysAgain⟩ := exists_run_of_check formats.shape
    (fun path located => formats.kept path.text (apart path located)) asksToCheck made usable
    (fun file listed => formats.usable (rewrites file listed)) input
  rw [formats.changesOf_eq_nil rewrites] at ranAgain saysAgain
  refine ⟨_, _, _, left, runs _ _ _ worked, ranCheck, ranAgain, ?_, ?_, rfl, rfl, ?_⟩
  · cases found : changesOf sorter tree files with
    | nil =>
      refine .inr ⟨rfl, ?_⟩
      intro file listed
      exact (formats.text_eq_iff listed (rewrites file listed)).mpr
        (List.filterMap_eq_nil_iff.mp found file listed)
    | cons change rest =>
      have member : change ∈ changesOf sorter tree files := found ▸ List.mem_cons_self
      obtain ⟨file, listed, changed⟩ := List.mem_filterMap.mp member
      refine .inl ⟨rfl, file, listed, ?_⟩
      rw [Ne, formats.text_eq_iff listed (rewrites file listed), changed]
      simp
  · intro different
    refine ⟨?_, saysCheck⟩
    simp only [Written.announcing, empty, String.empty_append, announces different]
  · rw [saysAgain, announced, String.empty_append, List.length_nil]

/-- A configuration file and two pages, one of which has classes to put in order. -/
def twoPages : Tree where
  here := []
  entries := [(["tailwind.config.json"], some "{}".toUTF8),
    (["a.html"], some "<p class='flex  block'>\n".toUTF8), (["b.html"], some "<p>\n".toUTF8)]

/-- The settings of a run with the plugin for display classes alone. -/
def displayOnly : Settings where
  configPath := none
  pluginOrder := some ["display"]
  options := {}
  verbose := false

/-- The sorter that these settings ask for changes one attribute of the first page. -/
theorem exists_sorter_of_twoPages :
    ∃ sorter, outcomeOn twoPages (makeSorter displayOnly) = .ok sorter ∧
      rewritten? sorter (twoPages.read "a.html") = some ⟨"<p class='block flex'>\n", 1⟩ ∧
      rewritten? sorter (twoPages.read "b.html") = some ⟨"<p>\n", 0⟩ := by
  have evaluated : (outcomeOn twoPages (makeSorter displayOnly)).toOption.map (fun sorter =>
      (sorter.mark?, sorter.rules.toOption.map fun rules =>
        ({ rules with separator := ":" }.key "flex",
          { rules with separator := ":" }.key "block"))) =
      some (some ":", some (⟨1, 0, -1, 3⟩, ⟨1, 0, -1, 0⟩)) := by
    decide +kernel
  obtain ⟨sorter, made, found⟩ := Option.map_eq_some_iff.mp evaluated
  simp only [Prod.mk.injEq] at found
  obtain ⟨marked, ruled⟩ := found
  obtain ⟨rules, ruled, keys⟩ := Option.map_eq_some_iff.mp ruled
  simp only [Prod.mk.injEq] at keys
  obtain ⟨flex, block⟩ := keys
  have settles := Markup.settles_sortText sorter
  have sorted : sorter.sortText "flex  block" = .ok ["block", "flex"] := by
    have words : Text.words "flex  block" = ["flex", "block"] := by decide +kernel
    have sorts := Sorter.sort_given marked (Fallible.toOption_eq_some.mp ruled) (by decide)
      (.written "flex  block")
    rw [words] at sorts
    rw [Sorter.sortText, sorts]
    simp [SortRules.sorted, List.mergeSort, List.MergeSort.Internal.splitInTwo, flex, block,
      SortKey.atMost]
  refine ⟨sorter, Fallible.toOption_eq_some.mp made, ?_, ?_⟩
  · have cut : Markup.cutOf "<p class='flex  block'>\n" =
        ⟨[("<p ".toList, ⟨"class=".toList, '\x27', "flex  block".toList⟩)], ">\n".toList⟩ := by
      decide +kernel
    have decoded : Files.decode (twoPages.read "a.html") = some "<p class='flex  block'>\n" := by
      decide +kernel
    exact rewritten?_eq_some_iff.mpr ⟨_, decoded, Markup.rewrite_of_exchange settles sorted cut⟩
  · have cut : Markup.cutOf "<p>\n" = ⟨[], "<p>\n".toList⟩ := by
      decide +kernel
    have decoded : Files.decode (twoPages.read "b.html") = some "<p>\n" := by
      decide +kernel
    refine rewritten?_eq_some_iff.mpr ⟨_, decoded, (Markup.rewrite_eq_ok settles).mpr ?_⟩
    rw [cut]
    simp [Markup.Cut.Sortable, Markup.Cut.attributes, Markup.Cut.mapAttributes, Markup.Cut.text]

/-- The check says that the first page would change, the formatting changes it, and the next check
finds nothing. -/
theorem run_check_agrees_with_format_two_pages :
    ∃ formatted checked again left,
      (run (m := StateM Tree) ["--plugin-order", "display", "format", "a.html", "b.html"]
        (pure "")).run twoPages = (formatted, left) ∧
      (run (m := StateM Tree) ["--plugin-order=display", "format", "a.html", "--check", "b.html"]
        (pure "")).run twoPages = (checked, twoPages) ∧
      (run (m := StateM Tree) ["--plugin-order=display", "format", "a.html", "--check", "b.html"]
        (pure "")).run left = (again, left) ∧
      formatted.exit = .status 0 ∧
      formatted.written.output =
        "reformatted a.html (1 attribute(s))\n1 of 2 file(s) reformatted\n" ∧
      checked.exit = .status 1 ∧
      checked.written.output =
        "would reformat a.html (1 attribute(s))\n1 of 2 file(s) would be reformatted\n" ∧
      again.exit = .status 0 ∧
      again.written.output = "0 of 2 file(s) would be reformatted\n" := by
  obtain ⟨sorter, made, first, second⟩ := exists_sorter_of_twoPages
  have asks : AsksFor twoPages ["--plugin-order", "display", "format", "a.html", "b.html"]
      displayOnly ["a.html", "b.html"] false := by
    refine ⟨["format", "a.html", "b.html"], ?_, ?_⟩ <;> with_unfolding_all rfl
  have asksToCheck : AsksFor twoPages
      ["--plugin-order=display", "format", "a.html", "--check", "b.html"]
      displayOnly ["a.html", "b.html"] true := by
    refine ⟨["format", "a.html", "--check", "b.html"], ?_, ?_⟩ <;> with_unfolding_all rfl
  have written : (Path.ofText "a.html").text = "a.html" ∧
      (Path.ofText "b.html").text = "b.html" := by
    decide +kernel
  have usable : ∀ file ∈ ["a.html", "b.html"], Formattable sorter twoPages file := by
    simp only [List.forall_mem_cons]
    obtain ⟨source, decoded, returned⟩ := rewritten?_eq_some_iff.mp first
    obtain ⟨sourceToo, decodedToo, returnedToo⟩ := rewritten?_eq_some_iff.mp second
    refine ⟨⟨by decide, by decide +kernel, source, _, ?_, returned⟩,
      ⟨by decide, by decide +kernel, sourceToo, _, ?_, returnedToo⟩, by simp⟩
    · rw [written.1, decoded]
    · rw [written.2, decodedToo]
  have places : twoPages.locate (Path.ofText "a.html").text = .ok ["a.html"] ∧
      twoPages.locate (Path.ofText "b.html").text = .ok ["b.html"] := by
    constructor <;> with_unfolding_all rfl
  have different : Apart twoPages ["a.html", "b.html"] := by
    simp [Apart, places]
  have apart : ConfigApart twoPages displayOnly ["a.html", "b.html"] := by
    intro path located
    have found : ((Config.locate (m := StateM Tree) displayOnly.configPath).run.run twoPages).1 =
        .ok ⟨"/", ["tailwind.config.json"]⟩ := by
      with_unfolding_all rfl
    cases located.symm.trans found
    have configPlace : twoPages.locate (Path.text ⟨"/", ["tailwind.config.json"]⟩) =
        .ok ["tailwind.config.json"] := by
      with_unfolding_all rfl
    simp [configPlace, places]
  have changes : changesOf sorter twoPages ["a.html", "b.html"] =
      [(Path.ofText "a.html", 1)] := by
    simp [changesOf, changeOf?, written, first, second]
  obtain ⟨formatted, checked, again, left, runs, runsCheck, runsAgain, status, announces, done,
    clean, nothing⟩ := run_check_agrees_with_format twoPages (pure "") _ _ ["a.html", "b.html"]
      displayOnly sorter asks asksToCheck made usable apart
  rw [changes] at announces
  obtain ⟨saysFormatted, saysChecked⟩ := announces different
  refine ⟨formatted, checked, again, left, runs, runsCheck, runsAgain, done, ?_, ?_, ?_, clean, ?_⟩
  · rw [saysFormatted]
    decide +kernel
  · have rewrites : ∀ file ∈ ["a.html", "b.html"],
        (rewritten? sorter (twoPages.read (Path.ofText file).text)).isSome := by
      simp [written, first, second]
    obtain ⟨_, ran, _⟩ := exists_run_of_check (.refl twoPages) (fun _ _ => rfl) asksToCheck made
      usable rewrites (pure "")
    rw [runsCheck, changes] at ran
    cases ran
    rfl
  · rw [saysChecked]
    decide +kernel
  · rw [nothing]
    decide +kernel

end ClassOrder.CommandLine
