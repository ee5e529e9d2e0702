import ClassOrder.CommandLine.Run
import ClassOrder.Proofs.Files.Searching
import ClassOrder.Proofs.Files.Tree

/-!
# What a run finds out before it begins

Before a run does its work it looks at the tree: what stands at the paths that it is given, where
the configuration file is, and what is in it. None of this changes a file, and none of it writes to
the output unless it ends the run. On trees of the same shape it comes to the same, as long as the
configuration file reads the same.
-/
namespace ClassOrder.CommandLine

open Files (Tree Path)

variable {α β : Type} {tree other middle left : Tree} {written between after : Written}

/-- How a step ends on a tree: with an outcome, with what has been written by then, and with the
tree that it leaves. -/
def Ends (step : Running (StateM Tree) α) (written : Written) (tree : Tree)
    (outcome : Except Exit α) (after : Written) (left : Tree) : Prop :=
  (step.run.run written).run tree = ((outcome, after), left)

namespace Ends

variable {step : Running (StateM Tree) α} {next : α → Running (StateM Tree) β} {value : α}
  {outcome : Except Exit β}

/-- The second of two steps goes on from where the first ends. -/
theorem bind (here : Ends step written tree (.ok value) between middle)
    (behind : Ends (next value) between middle outcome after left) :
    Ends (step >>= next) written tree outcome after left := by
  unfold Ends at here behind ⊢
  simp only [ExceptT.run, Bind.bind, ExceptT.bind, ExceptT.mk, StateT.bind, StateT.run,
    ExceptT.bindCont] at here behind ⊢
  rw [here]
  exact behind

/-- When the first of two steps ends the run, the second is not taken. -/
theorem bind_of_error {exit : Exit} (here : Ends step written tree (.error exit) after left) :
    Ends (step >>= next) written tree (.error exit) after left := by
  unfold Ends at here ⊢
  simp only [ExceptT.run, Bind.bind, ExceptT.bind, ExceptT.mk, StateT.bind, StateT.run,
    ExceptT.bindCont] at here ⊢
  rw [here]
  rfl

/-- An action on the tree is done in front of the next step. -/
theorem lift_bind {action : StateM Tree α} (done : action.run tree = (value, middle))
    (behind : Ends (next value) written middle outcome after left) :
    Ends ((liftM action : Running (StateM Tree) α) >>= next) written tree outcome after left := by
  have stepped : (((liftM action : Running (StateM Tree) α) >>= next).run.run written).run tree =
      ((next (action.run tree).1).run.run written).run (action.run tree).2 := rfl
  rw [Ends, stepped, done]
  exact behind

end Ends

/-- An outcome that is no fault is handed on. -/
theorem ends_orEscape (value : α) :
    Ends (orEscape (.ok value)) written tree (.ok value) written tree :=
  rfl

/-- A line is put behind the output. -/
theorem ends_printLine (line : String) :
    Ends (printLine line) written tree (.ok ())
      { written with output := written.output ++ Text.printed line ++ "\n" } tree :=
  rfl

/-! ## Searching for the configuration file -/

/-- A search leaves two trees as they are and comes to the same on both. -/
def SearchesAlike (tree other : Tree) (search : ExceptT Fault (StateM Tree) α) : Prop :=
  ∃ outcome, search.run.run tree = (outcome, tree) ∧ search.run.run other = (outcome, other)

namespace SearchesAlike

variable {search : ExceptT Fault (StateM Tree) α} {next : α → ExceptT Fault (StateM Tree) β}

/-- A value on its own asks nothing of the tree. -/
theorem pure (value : α) : SearchesAlike tree other (Pure.pure value) :=
  ⟨.ok value, rfl, rfl⟩

/-- Nor does a fault. -/
theorem throw (fault : Fault) :
    SearchesAlike tree other (throw fault : ExceptT Fault (StateM Tree) α) :=
  ⟨.error fault, rfl, rfl⟩

/-- Searches in turn come to the same when each does. -/
theorem bind (here : SearchesAlike tree other search)
    (behind : ∀ value, SearchesAlike tree other (next value)) :
    SearchesAlike tree other (search >>= next) := by
  obtain ⟨outcome, first, second⟩ := here
  cases outcome with
  | error fault =>
    exact ⟨.error fault, Files.ComesTo.bind_of_error first, Files.ComesTo.bind_of_error second⟩
  | ok value =>
    obtain ⟨result, firstNext, secondNext⟩ := behind value
    exact ⟨result, Files.ComesTo.bind first firstNext, Files.ComesTo.bind second secondNext⟩

/-- What stands at a path is the same. -/
theorem status (alike : tree.SameShape other) (path : String) :
    SearchesAlike tree other (liftM (Files.Access.status path : StateM Tree Files.Status)) := by
  refine ⟨.ok (tree.status path), rfl, ?_⟩
  rw [← alike.status_eq]
  rfl

/-- The working directory is the same. -/
theorem here (alike : tree.SameShape other) :
    SearchesAlike tree other (liftM (Files.Access.here : StateM Tree Path)) := by
  refine ⟨.ok { anchor := "/", names := tree.here }, rfl, ?_⟩
  rw [← alike.here]
  rfl

/-- Whether a path is a file depends on the shape of the tree. -/
theorem isFile (alike : tree.SameShape other) (path : Path) :
    SearchesAlike tree other (Files.isFile path) := by
  unfold Files.isFile
  split
  · exact .pure _
  · apply SearchesAlike.bind (.status alike path.text)
    intro status
    cases status <;> first | exact .pure _ | exact .throw _

/-- So does the first of several paths that is a file. -/
theorem firstFile (alike : tree.SameShape other) (paths : List Path) :
    SearchesAlike tree other (Config.firstFile paths) := by
  induction paths with
  | nil => exact .pure _
  | cons path rest inductionHypothesis =>
    unfold Config.firstFile
    apply SearchesAlike.bind (.isFile alike path)
    intro found
    cases found with
    | true => exact .pure _
    | false => exact inductionHypothesis

/-- The search for the configuration file comes to the same. -/
theorem locate (alike : tree.SameShape other) (named : Option String) :
    SearchesAlike tree other (Config.locate named) := by
  cases named with
  | some text =>
    apply SearchesAlike.bind (.isFile alike (Path.ofText text))
    intro found
    cases found with
    | true => exact .pure _
    | false => exact .throw _
  | none =>
    have start : SearchesAlike tree other (Config.searchStart none) := by
      apply SearchesAlike.bind (.bind (.here alike) .pure)
      intro place
      apply SearchesAlike.bind (.isFile alike place)
      intro found
      cases found <;> exact .pure _
    apply SearchesAlike.bind start
    intro directory
    apply SearchesAlike.bind (.firstFile alike _)
    intro found
    cases found with
    | some path => exact .pure _
    | none => exact .throw _

/-- A file that reads the same holds the same configuration. -/
theorem load {path : Path} (same : other.read path.text = tree.read path.text) :
    SearchesAlike tree other (Config.load path) := by
  have text : SearchesAlike tree other (Files.readText path) := by
    refine ⟨_, Files.comesTo_readText path tree, ?_⟩
    rw [← same]
    exact Files.comesTo_readText path other
  apply SearchesAlike.bind text
  intro text
  cases Config.ofText path text with
  | ok config => exact .pure _
  | error fault => exact .throw _

end SearchesAlike

/-! ## The steps before the work -/

/-- A step leaves two trees as they are and comes to the same on both. It writes the same, and
nothing to the output unless it ends the run. -/
def LooksAlike (tree other : Tree) (step : Running (StateM Tree) α) : Prop :=
  ∃ outcome, ∀ written, ∃ after, Ends step written tree outcome after tree ∧
    Ends step written other outcome after other ∧
    ∀ value, outcome = .ok value → after.output = written.output

namespace LooksAlike

variable {step : Running (StateM Tree) α} {next : α → Running (StateM Tree) β}

/-- A value on its own looks at nothing. -/
theorem pure (value : α) : LooksAlike tree other (Pure.pure value) :=
  ⟨.ok value, fun written => ⟨written, rfl, rfl, fun _ _ => rfl⟩⟩

/-- Nor does leaving the command. -/
theorem throw (exit : Exit) :
    LooksAlike tree other (MonadExcept.throw exit : Running (StateM Tree) α) :=
  ⟨.error exit, fun written => ⟨written, rfl, rfl, nofun⟩⟩

/-- A last line of output before the run ends. -/
theorem printLine_throw (line : String) (exit : Exit) :
    LooksAlike tree other (printLine line >>= fun _ =>
      (MonadExcept.throw exit : Running (StateM Tree) α)) :=
  ⟨.error exit, fun _ => ⟨_, rfl, rfl, nofun⟩⟩

/-- A line that is reported does not depend on the tree. -/
theorem reportLine (line : String) :
    LooksAlike tree other (CommandLine.reportLine line : Running (StateM Tree) Unit) :=
  ⟨.ok (), fun _ => ⟨_, rfl, rfl, fun _ _ => rfl⟩⟩

/-- Steps in turn come to the same when each does. -/
theorem bind (here : LooksAlike tree other step)
    (behind : ∀ value, LooksAlike tree other (next value)) :
    LooksAlike tree other (step >>= next) := by
  obtain ⟨outcome, ended⟩ := here
  cases outcome with
  | error exit =>
    refine ⟨.error exit, fun written => ?_⟩
    obtain ⟨after, first, second, _⟩ := ended written
    exact ⟨after, first.bind_of_error, second.bind_of_error, nofun⟩
  | ok value =>
    obtain ⟨result, endedNext⟩ := behind value
    refine ⟨result, fun written => ?_⟩
    obtain ⟨between, first, second, quiet⟩ := ended written
    obtain ⟨after, firstNext, secondNext, quietNext⟩ := endedNext between
    refine ⟨after, first.bind firstNext, second.bind secondNext, ?_⟩
    intro last returned
    exact (quietNext last returned).trans (quiet value rfl)

/-- A search comes in front of the next step, which is taken with what it finds or with its
fault. -/
theorem bind_search {search : ExceptT Fault (StateM Tree) α}
    {next : Except Fault α → Running (StateM Tree) β} (here : SearchesAlike tree other search)
    (fails : ∀ fault, LooksAlike tree other (next (.error fault)))
    (finds : ∀ value, (search.run.run tree).1 = .ok value →
      LooksAlike tree other (next (.ok value))) :
    LooksAlike tree other
      ((liftM search.run : Running (StateM Tree) (Except Fault α)) >>= next) := by
  obtain ⟨outcome, first, second⟩ := here
  have behind : LooksAlike tree other (next outcome) := by
    cases outcome with
    | error fault => exact fails fault
    | ok value => exact finds value (congrArg Prod.fst first)
  obtain ⟨result, ended⟩ := behind
  refine ⟨result, fun written => ?_⟩
  obtain ⟨after, firstNext, secondNext, quiet⟩ := ended written
  exact ⟨after, .lift_bind first firstNext, .lift_bind second secondNext, quiet⟩

/-- Steps in turn look at no more than each of them. -/
theorem forM {steps : β → Running (StateM Tree) Unit}
    (each : ∀ item, LooksAlike tree other (steps item)) (items : List β) :
    LooksAlike tree other (items.forM steps) := by
  induction items with
  | nil => exact .pure _
  | cons item rest inductionHypothesis => exact (each item).bind fun _ => inductionHypothesis

/-- Remarks are reported without a look at the tree. -/
theorem reportRemarks (wanted : Bool) (remarks : List Remark) :
    LooksAlike tree other (CommandLine.reportRemarks wanted remarks :
      Running (StateM Tree) Unit) := by
  cases wanted with
  | true => exact .forM (fun remark => .reportLine _) remarks
  | false => exact .pure _

/-- So is a fault that ends the command. -/
theorem failWith (fault : Fault) :
    LooksAlike tree other (CommandLine.failWith fault : Running (StateM Tree) α) := by
  have ends (reported : Bool) : LooksAlike tree other (if reported then
      (CommandLine.reportLine (Text.printed ("Error: " ++ fault.message)) >>= fun _ =>
        MonadExcept.throw (.status 1))
      else MonadExcept.throw (.escaped fault) : Running (StateM Tree) α) := by
    cases reported with
    | true => exact (reportLine _).bind fun _ => .throw _
    | false => exact .throw _
  exact ends _

/-- What stands at a path that is given as an argument is the same. -/
theorem statusOf (alike : tree.SameShape other) (path : String) :
    LooksAlike tree other (CommandLine.statusOf path : Running (StateM Tree) Files.Status) := by
  unfold CommandLine.statusOf
  split
  · exact .throw _
  · refine ⟨.ok (tree.status path), fun written => ⟨written, rfl, ?_, fun _ _ => rfl⟩⟩
    rw [← alike.status_eq]
    rfl

/-- An option is refused for what it names, or for a directory at its path. -/
theorem requireMeaning (alike : tree.SameShape other) (option : GlobalOption) :
    LooksAlike tree other (CommandLine.requireMeaning option : Running (StateM Tree) Unit) := by
  unfold CommandLine.requireMeaning
  split
  · refine (statusOf alike _).bind fun status => ?_
    split
    · exact .throw _
    · exact .pure _
  · split
    · exact .throw _
    · exact .pure _
  · split
    · exact .throw _
    · exact .pure _
  · exact .pure _

/-- The settings are the same. -/
theorem takeSettings (alike : tree.SameShape other) (arguments : List String) :
    LooksAlike tree other
      (CommandLine.takeSettings arguments : Running (StateM Tree) (Settings × List String)) := by
  unfold CommandLine.takeSettings
  split
  · exact .throw _
  · split
    · exact .printLine_throw _ _
    · refine (LooksAlike.forM (requireMeaning alike) _).bind fun _ => ?_
      split
      · exact .throw _
      · exact .pure _

/-- The sorter is the same, as long as the configuration file reads the same. -/
theorem makeSorter (alike : tree.SameShape other) (settings : Settings)
    (same : ∀ path, ((Config.locate (m := StateM Tree) settings.configPath).run.run tree).1 =
      .ok path → other.read path.text = tree.read path.text) :
    LooksAlike tree other (CommandLine.makeSorter settings : Running (StateM Tree) Sorter) := by
  have loads : LooksAlike tree other
      (CommandLine.loadConfig settings : Running (StateM Tree) Setting) := by
    unfold CommandLine.loadConfig
    refine .bind_search (.locate alike _) .failWith ?_
    intro path located
    have reads {next : Except Fault Setting → Running (StateM Tree) Setting}
        (fails : ∀ fault, LooksAlike tree other (next (.error fault)))
        (finds : ∀ config, LooksAlike tree other (next (.ok config))) :
        LooksAlike tree other ((liftM (Config.load (m := StateM Tree) path).run :
          Running (StateM Tree) (Except Fault Setting)) >>= next) :=
      .bind_search (.load (same path located)) fails fun config _ => finds config
    dsimp only
    split
    · exact (reportRemarks _ _).bind fun _ => reads .failWith .pure
    · exact reads .failWith .pure
  unfold CommandLine.makeSorter
  refine loads.bind fun config => ?_
  refine (reportRemarks _ _).bind fun _ => ?_
  split
  · exact .pure _
  · exact .failWith _

end LooksAlike

end ClassOrder.CommandLine
