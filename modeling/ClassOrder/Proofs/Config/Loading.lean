import ClassOrder.Proofs.Config.Finding
import ClassOrder.Proofs.Json.Newline
import ClassOrder.Proofs.Json.Reading

/-!
# What reading the configuration reports

The configuration is read from the file that is named, or else from the nearest one. If there is no
such file this is reported, and if it does not hold an object in JSON it is reported as the file
at fault. Two things are not reported but end the reading: a path that is refused, and a file
whose bytes are no text at all.
-/
namespace ClassOrder.Config

open Files (Tree Path ComesTo)

variable {tree : Tree} {named : Option String} {path : Path} {outcome : Except Fault Setting}

/-! ## The file and what it holds -/

/-- The file that the configuration is to be read from: the one that is named, or else the nearest
one that a search from the working directory finds. -/
inductive Sought (tree : Tree) : Option String → Path → Prop
  | named {text : String} (stands : tree.HasFile (Path.ofText text)) :
      Sought tree (some text) (Path.ofText text)
  | nearest {path : Path} (found : FindsNearest tree (startDirectory tree none) (.ok path)) :
      Sought tree none path

/-- The report that there is no such file. -/
inductive Missing (tree : Tree) : Option String → Fault → Prop
  | named {text : String} (absent : ¬ tree.HasFile (Path.ofText text)) :
      Missing tree (some text) (.configMissing (Path.ofText text))
  | nearest {fault : Fault} (searched : FindsNearest tree (startDirectory tree none) (.error fault)) :
      Missing tree none fault

/-- The bytes of a file are the UTF-8 form of a text. -/
def IsText (tree : Tree) (path : Path) : Prop :=
  ∃ source : String, tree.read path.text = source.toUTF8

/-- The bytes of a file are the UTF-8 form of a text that a value is written in. -/
def Holds (tree : Tree) (path : Path) (config : Setting) : Prop :=
  ∃ source : String, tree.read path.text = source.toUTF8 ∧ Json.IsJson source.toList config

/-- It makes no difference for the value that the lines are made to end alike before it is read. -/
theorem holds_iff {config : Setting} : Holds tree path config ↔
    ∃ text, Files.decode (tree.read path.text) = some text ∧ Json.read text = .ok config := by
  have same (source : String) : Json.read (Text.unified source) = .ok config ↔
      Json.IsJson source.toList config := by
    rw [Json.read_eq_ok_iff, Text.unified, String.toList_ofList, Json.isJson_unifyNewlines_iff]
  constructor
  · rintro ⟨source, bytes, isJson⟩
    exact ⟨_, Files.decode_eq_some_iff.mpr ⟨source, bytes, rfl⟩, (same source).mpr isJson⟩
  · rintro ⟨text, decoded, result⟩
    obtain ⟨source, bytes, rfl⟩ := Files.decode_eq_some_iff.mp decoded
    exact ⟨source, bytes, (same source).mp result⟩

/-! ## What is reported -/

/-- Reading the configuration returns the object that the file holds, or reports that there is
no such file, or reports the file when it holds anything else. -/
inductive Reports (tree : Tree) (named : Option String) : Except Fault Setting → Prop
  | mapping {path : Path} {entries : Entries Setting} (sought : Sought tree named path)
      (holds : Holds tree path (.mapping entries)) : Reports tree named (.ok (.mapping entries))
  | missing {fault : Fault} (missing : Missing tree named fault) :
      Reports tree named (.error fault)
  | unusable {path : Path} {cause : ConfigCause} (sought : Sought tree named path)
      (otherwise : ∀ entries, ¬ Holds tree path (.mapping entries))
      (blamed : cause.path? = some path) : Reports tree named (.error (.config cause))

/-- The configuration can be looked for: the path that is named is not refused, and without one
the search from the working directory is not stopped. -/
def Locatable (tree : Tree) : Option String → Prop
  | some text => ¬ tree.Refuses (Path.ofText text)
  | none => Searchable tree none

/-- The configuration can be loaded: it can be looked for, and the bytes of the file are text. -/
structure Loadable (tree : Tree) (named : Option String) : Prop where
  locatable : Locatable tree named
  isText : ∀ path, Sought tree named path → IsText tree path

/-- The faults that escape: those of a path that is refused, and that of a file that is no text. -/
inductive Escapes (tree : Tree) : Option String → Fault → Prop
  | refused {text : String} (refuses : tree.Refuses (Path.ofText text)) :
      Escapes tree (some text) (.pathTooLong (Path.ofText text))
  | stopped {fault : Fault} (stops : Stops tree none fault) : Escapes tree none fault
  | undecodable {named : Option String} {path : Path} (sought : Sought tree named path)
      (noText : ¬ IsText tree path) : Escapes tree named (.undecodable path)

/-- No fault that escapes is what should be reported, and there is one only when the configuration
cannot be loaded. -/
theorem Escapes.not_loadable {fault : Fault} (escapes : Escapes tree named fault) :
    ¬ Loadable tree named ∧ ¬ Reports tree named (.error fault) := by
  cases escapes with
  | refused refuses =>
    refine ⟨fun able => able.locatable refuses, ?_⟩
    rintro ⟨⟩
    contradiction
  | stopped stops =>
    obtain ⟨notAble, notNearest⟩ := stops.not_searchable
    refine ⟨fun able => notAble able.locatable, ?_⟩
    intro reports
    cases reports with
    | missing missing =>
      cases missing with
      | nearest searched => exact notNearest searched
    | unusable _ _ _ => cases stops
  | undecodable sought noText =>
    refine ⟨fun able => noText (able.isText _ sought), ?_⟩
    intro reports
    cases reports with
    | missing missing =>
      cases missing with
      | nearest searched => cases searched

/-! ## What reading comes to -/

/-- Looking for the file finds it or reports that it is missing, unless a path is refused. -/
theorem comesTo_locate (tree : Tree) (named : Option String) :
    Locatable tree named ∧
        ((∃ path, Sought tree named path ∧ ComesTo (locate named) tree (.ok path)) ∨
          ∃ fault, Missing tree named fault ∧ ComesTo (locate named) tree (.error fault)) ∨
      ∃ fault, Escapes tree named fault ∧ ComesTo (locate named) tree (.error fault) := by
  cases named with
  | none =>
    obtain ⟨fault, stops, found⟩ | ⟨outcome, able, nearest, found⟩ := comesTo_find tree none
    · exact .inr ⟨fault, .stopped stops, found⟩
    · cases outcome with
      | ok path => exact .inl ⟨able, .inl ⟨path, .nearest nearest, found⟩⟩
      | error fault => exact .inl ⟨able, .inr ⟨fault, .nearest nearest, found⟩⟩
  | some text =>
    obtain ⟨stands, asked⟩ | ⟨refuses, asked⟩ | ⟨⟨absent, lookedUp⟩, asked⟩ :=
      Files.isFile_cases tree (Path.ofText text)
    · exact .inl ⟨stands.not_refuses, .inl ⟨_, .named stands, asked.bind (.pure _)⟩⟩
    · exact .inr ⟨_, .refused refuses, asked.bind_of_error⟩
    · exact .inl ⟨lookedUp, .inr ⟨_, .named absent, asked.bind (.throw _)⟩⟩

/-- A text is taken as the object that is written in it, or the blame is put on the file. -/
theorem ofText_cases (path : Path) (text : String) :
    (∃ entries, Json.read text = .ok (.mapping entries) ∧
        ofText path text = .ok (.mapping entries)) ∨
      ∃ cause : ConfigCause, (∀ entries : Entries Setting, Json.read text ≠ .ok (.mapping entries)) ∧
        cause.path? = some path ∧ ofText path text = .error (.config cause) := by
  unfold ofText
  split
  · rename_i failure result
    refine .inr ⟨.notJson path failure, ?_, rfl, rfl⟩
    rw [result]
    exact nofun
  · rename_i entries result
    exact .inl ⟨entries, result, rfl⟩
  · rename_i config noMapping result
    refine .inr ⟨.notAnObject path config.kindName, ?_, rfl, rfl⟩
    rintro entries same
    exact noMapping entries (Except.ok.inj (result.symm.trans same))

/-- Loading a file returns the object that it holds or puts the blame on the file, unless its
bytes are no text. -/
theorem comesTo_load (tree : Tree) (path : Path) :
    IsText tree path ∧
        ((∃ entries, Holds tree path (.mapping entries) ∧
            ComesTo (load path) tree (.ok (.mapping entries))) ∨
          ∃ cause : ConfigCause, (∀ entries, ¬ Holds tree path (.mapping entries)) ∧
            cause.path? = some path ∧ ComesTo (load path) tree (.error (.config cause))) ∨
      ¬ IsText tree path ∧ ComesTo (load path) tree (.error (.undecodable path)) := by
  have reading := Files.comesTo_readText path tree
  cases decoded : Files.decode (tree.read path.text) with
  | none =>
    rw [decoded] at reading
    refine .inr ⟨?_, reading.bind_of_error⟩
    rintro ⟨source, bytes⟩
    cases decoded.symm.trans (Files.decode_eq_some_iff.mpr ⟨source, bytes, rfl⟩)
  | some text =>
    rw [decoded] at reading
    obtain ⟨source, bytes, _⟩ := Files.decode_eq_some_iff.mp decoded
    refine .inl ⟨⟨source, bytes⟩, ?_⟩
    obtain ⟨entries, result, taken⟩ | ⟨cause, noMapping, blamed, taken⟩ := ofText_cases path text
    · refine .inl ⟨entries, holds_iff.mpr ⟨text, decoded, result⟩, reading.bind ?_⟩
      rw [taken]
      exact .pure _
    · refine .inr ⟨cause, ?_, blamed, reading.bind ?_⟩
      · rintro entries holds
        obtain ⟨textToo, decodedToo, result⟩ := holds_iff.mp holds
        cases decoded.symm.trans decodedToo
        exact noMapping entries result
      · rw [taken]
        exact .throw _

/-- There is one file that is sought, and then it is not missing. -/
theorem Sought.unique {other : Path} (sought : Sought tree named path)
    (soughtToo : Sought tree named other) : path = other := by
  cases sought with
  | named _ =>
    cases soughtToo
    rfl
  | nearest found =>
    cases soughtToo with
    | nearest foundToo => exact Except.ok.inj (found.unique foundToo)

/-- A file that is found is not missing as well. -/
theorem Sought.not_missing {fault : Fault} (sought : Sought tree named path) :
    ¬ Missing tree named fault := by
  intro missing
  cases sought with
  | named stands =>
    cases missing with
    | named absent => exact absent stands
  | nearest found =>
    cases missing with
    | nearest searched => cases found.unique searched

/-- Reading the configuration does what it should, or a fault escapes. -/
theorem comesTo_read (tree : Tree) (named : Option String) :
    (∃ outcome, Loadable tree named ∧ Reports tree named outcome ∧
        ComesTo (read named) tree outcome) ∨
      ∃ fault, Escapes tree named fault ∧ ComesTo (read named) tree (.error fault) := by
  obtain ⟨able, ⟨path, sought, located⟩ | ⟨fault, missing, located⟩⟩ | ⟨fault, escapes, located⟩ :=
    comesTo_locate tree named
  · obtain ⟨isText, ⟨entries, holds, loaded⟩ | ⟨cause, otherwise, blamed, loaded⟩⟩ |
      ⟨noText, loaded⟩ := comesTo_load tree path
    · refine .inl ⟨_, ⟨able, ?_⟩, .mapping sought holds, located.bind loaded⟩
      rintro other soughtToo
      exact sought.unique soughtToo ▸ isText
    · refine .inl ⟨_, ⟨able, ?_⟩, .unusable sought otherwise blamed, located.bind loaded⟩
      rintro other soughtToo
      exact sought.unique soughtToo ▸ isText
    · exact .inr ⟨_, .undecodable sought noText, located.bind loaded⟩
  · refine .inl ⟨_, ⟨able, ?_⟩, .missing missing, located.bind_of_error⟩
    rintro path sought
    exact absurd missing sought.not_missing
  · exact .inr ⟨_, escapes, located.bind_of_error⟩

/-- What is reported is a mapping exactly when the file is there and holds an object. -/
theorem Reports.ok_iff (reports : Reports tree named outcome) :
    (∃ config, outcome = .ok config) ↔
      ∃ path entries, Sought tree named path ∧ Holds tree path (.mapping entries) := by
  cases reports with
  | mapping sought holds => exact iff_of_true ⟨_, rfl⟩ ⟨_, _, sought, holds⟩
  | missing missing =>
    refine iff_of_false nofun ?_
    rintro ⟨path, entries, sought, _⟩
    exact sought.not_missing missing
  | unusable sought otherwise blamed =>
    refine iff_of_false nofun ?_
    rintro ⟨path, entries, soughtToo, holds⟩
    exact otherwise entries (sought.unique soughtToo ▸ holds)

/-- On every tree and for every file that is named, and without one, reading the configuration
changes nothing, and it returns an object exactly when the file is there and holds one, reports
that the file is missing when it is, and reports the file when it holds anything else, exactly
when the configuration can be loaded. When it cannot, a fault escapes that says why.

Proof: reading comes to one of two ends, to a promised outcome where the configuration can be
loaded or to a fault that escapes where it cannot, and the two exclude each other. -/
theorem read_reports_iff (tree : Tree) (named : Option String) :
    ∃ outcome, ComesTo (read named) tree outcome ∧
      (Reports tree named outcome ↔ Loadable tree named) ∧
      (Loadable tree named ∧ ((∃ config, outcome = .ok config) ↔
          ∃ path entries, Sought tree named path ∧ Holds tree path (.mapping entries)) ∨
        ∃ fault, outcome = .error fault ∧ Escapes tree named fault) := by
  obtain ⟨outcome, able, reports, comes⟩ | ⟨fault, escapes, comes⟩ := comesTo_read tree named
  · exact ⟨outcome, comes, iff_of_true reports able, .inl ⟨able, reports.ok_iff⟩⟩
  · obtain ⟨notAble, noReport⟩ := escapes.not_loadable
    exact ⟨_, comes, iff_of_false noReport notAble, .inr ⟨fault, rfl, escapes⟩⟩

/-- With a file of a single byte that is no text a fault escapes, and the file is not reported. -/
theorem read_ends_at_undecodable :
    let tree : Tree := { here := [], entries := [(["c.json"], some ⟨#[0xff]⟩)] }
    ∃ fault, ComesTo (read (some "c.json")) tree (.error fault) ∧
      ¬ Reports tree (some "c.json") (.error fault) := by
  intro tree
  obtain ⟨outcome, able, _, _⟩ | ⟨fault, escapes, comes⟩ := comesTo_read tree (some "c.json")
  · have stands : tree.HasFile (Path.ofText "c.json") := by decide +kernel
    obtain ⟨source, bytes⟩ := able.isText _ (.named stands)
    have noText : Files.decode (tree.read (Path.ofText "c.json").text) = none := by decide +kernel
    cases noText.symm.trans (Files.decode_eq_some_iff.mpr ⟨source, bytes, rfl⟩)
  · exact ⟨fault, comes, escapes.not_loadable.2⟩

end ClassOrder.Config
