import ClassOrder.Files.Tree
import ClassOrder.Proofs.Text.Newline

/-!
# Searching a tree of files

A search asks what stands at paths, and reads files. It changes nothing, so all there is to say of
it is what it comes to. Asking for a file has three answers: the file is there, it is not, or the
path is one that the system refuses to look up because it is too long. The third ends the search.
What is read is the text that the bytes of the file are, if they are one.
-/
namespace ClassOrder.Files

variable {α β : Type} {tree : Tree}

/-- What a search comes to on a tree, which it leaves as it is. -/
def ComesTo (search : ExceptT Fault (StateM Tree) α) (tree : Tree) (outcome : Except Fault α) :
    Prop :=
  search.run.run tree = (outcome, tree)

namespace ComesTo

variable {search : ExceptT Fault (StateM Tree) α} {next : α → ExceptT Fault (StateM Tree) β}
  {value : α}

/-- A value on its own comes to itself. -/
theorem pure (value : α) : ComesTo (Pure.pure value) tree (.ok value) :=
  rfl

/-- A fault on its own comes to itself as well. -/
theorem throw (fault : Fault) :
    ComesTo (MonadExcept.throw fault : ExceptT Fault (StateM Tree) α) tree (.error fault) :=
  rfl

/-- The second of two searches is made with what the first finds. -/
theorem bind {outcome : Except Fault β} (here : ComesTo search tree (.ok value))
    (behind : ComesTo (next value) tree outcome) : ComesTo (search >>= next) tree outcome := by
  unfold ComesTo at here behind ⊢
  simp only [ExceptT.run, Bind.bind, ExceptT.bind, ExceptT.mk, StateT.bind, StateT.run,
    ExceptT.bindCont] at here behind ⊢
  rw [here]
  exact behind

/-- A fault of the first of two searches ends both. -/
theorem bind_of_error {fault : Fault} (here : ComesTo search tree (.error fault)) :
    ComesTo (search >>= next) tree (.error fault) := by
  unfold ComesTo at here ⊢
  simp only [ExceptT.run, Bind.bind, ExceptT.bind, ExceptT.mk, StateT.bind, StateT.run,
    ExceptT.bindCont] at here ⊢
  rw [here]
  rfl

end ComesTo

/-! ## What stands at a path -/

namespace Tree

/-- What stands at a path. Nothing stands at one that has a null character in it. -/
def standing (tree : Tree) (path : Path) : Status :=
  if hasNull path.text then .missing else tree.status path.text

/-- A file stands at a path. -/
def HasFile (tree : Tree) (path : Path) : Prop :=
  tree.standing path = .file

/-- A path is too long to be looked up. -/
def Refuses (tree : Tree) (path : Path) : Prop :=
  tree.standing path = .tooLong

/-- Whether a tree has a file at a path can be looked up. -/
instance (tree : Tree) (path : Path) : Decidable (tree.HasFile path) :=
  inferInstanceAs (Decidable (_ = _))

/-- No file is seen at a path that is refused. -/
theorem HasFile.not_refuses {path : Path} (stands : tree.HasFile path) : ¬ tree.Refuses path := by
  intro refused
  cases stands.symm.trans refused

end Tree

/-- Asking for a file: it is there, or the path is refused, or neither. -/
theorem isFile_cases (tree : Tree) (path : Path) :
    tree.HasFile path ∧ ComesTo (isFile path) tree (.ok true) ∨
      tree.Refuses path ∧ ComesTo (isFile path) tree (.error (.pathTooLong path)) ∨
      (¬ tree.HasFile path ∧ ¬ tree.Refuses path) ∧ ComesTo (isFile path) tree (.ok false) := by
  unfold isFile Tree.HasFile Tree.Refuses Tree.standing
  split
  · exact .inr (.inr ⟨⟨nofun, nofun⟩, .pure false⟩)
  · have asked : ComesTo (liftM (Access.status path.text : StateM Tree Status)) tree
        (.ok (tree.status path.text)) := rfl
    cases stands : tree.status path.text with
    | file => exact .inl ⟨rfl, (stands ▸ asked).bind (.pure true)⟩
    | tooLong => exact .inr (.inl ⟨rfl, (stands ▸ asked).bind (.throw _)⟩)
    | directory => exact .inr (.inr ⟨⟨nofun, nofun⟩, (stands ▸ asked).bind (.pure false)⟩)
    | missing => exact .inr (.inr ⟨⟨nofun, nofun⟩, (stands ▸ asked).bind (.pure false)⟩)

/-! ## A name that is too long -/

section LongName

variable {name : String}

/-- A name that is too long is none of those that mean something special. -/
theorem not_special_of_long (long : maxNameBytes < name.utf8ByteSize) :
    name ≠ "" ∧ name ≠ "." ∧ name ≠ ".." := by
  refine ⟨?_, ?_, ?_⟩ <;> rintro rfl <;> contradiction

/-- A name without slashes is read as a path of this name alone. -/
theorem Path.ofText_of_long (slashless : '/' ∉ name.toList)
    (long : maxNameBytes < name.utf8ByteSize) : Path.ofText name = ⟨"", [name]⟩ := by
  obtain ⟨notEmpty, notDot, _⟩ := not_special_of_long long
  have anchor : Path.anchorOf name.toList = "" := by
    cases listed : name.toList with
    | nil => rfl
    | cons c rest =>
      have notSlash : c ≠ '/' := fun same => slashless (by rw [listed, same]; exact .head _)
      simp [Path.anchorOf, notSlash]
  have single : Text.splitAtEach '/' name = [name] := by
    rw [Text.splitAtEach, List.splitOn_eq_singleton slashless, List.map_singleton,
      String.ofList_toList]
  rw [Path.ofText, anchor, single]
  simp [notEmpty, notDot]

/-- In the root directory a name that is too long is refused. -/
theorem Tree.status_of_long (slashless : '/' ∉ name.toList)
    (long : maxNameBytes < name.utf8ByteSize) (root : tree.statusAt [] = .directory) :
    tree.status ("/" ++ name) = .tooLong := by
  obtain ⟨notEmpty, notDot, notDots⟩ := not_special_of_long long
  have walk : Text.splitAtEach '/' ("/" ++ name) = ["", name] := by
    have cut : ('/' :: name.toList).splitOn '/' = [] :: name.toList.splitOn '/' :=
      List.splitOn_append_cons_self_of_not_mem List.not_mem_nil name.toList
    rw [List.splitOn_eq_singleton slashless] at cut
    simpa [Text.splitAtEach] using congrArg (List.map String.ofList) cut
  have refused : ["", name].foldlM tree.step [] = .error .tooLong := by
    simp [Tree.step, root, notEmpty, notDot, notDots, long, Bind.bind, Except.bind]
  have begins : ("/" ++ name).toList.head? = some '/' := by simp
  rw [Tree.status, Tree.locate, walk, begins]
  by_cases huge : maxPathBytes < ("/" ++ name).utf8ByteSize
  · rw [if_neg (by simp), if_pos huge]
  · rw [if_neg (by simp), if_neg huge, beq_self_eq_true, if_pos rfl]
    simp only [refused]

end LongName

/-! ## Reading -/

/-- The text of bytes is the string that they are, with its newlines unified. -/
theorem decode_eq_some_iff {bytes : ByteArray} {text : String} :
    decode bytes = some text ↔
      ∃ source : String, bytes = source.toUTF8 ∧ text = Text.unified source := by
  unfold decode String.fromUTF8?
  constructor
  · intro decoded
    obtain ⟨source, valid, rfl⟩ := Option.map_eq_some_iff.mp decoded
    split at valid
    · cases valid
      exact ⟨_, rfl, rfl⟩
    · cases valid
  · rintro ⟨source, rfl, rfl⟩
    have valid : source.toUTF8.IsValidUTF8 := source.isValidUTF8
    rw [dif_pos valid]
    rfl

/-- Reading a file comes to its text, if its bytes are text. -/
theorem comesTo_readText (path : Path) (tree : Tree) :
    ComesTo (readText path) tree
      (match decode (tree.read path.text) with
        | some text => .ok text
        | none => .error (.undecodable path)) := by
  have bytes : ComesTo (liftM (Access.read path.text : StateM Tree ByteArray)) tree
      (.ok (tree.read path.text)) := rfl
  apply bytes.bind
  cases decode (tree.read path.text) with
  | some text => exact .pure text
  | none => exact .throw _

end ClassOrder.Files
