import ClassOrder.Proofs.Config.LateBinding

/-!
# Replacing an entry beside the theme

The entries of a configuration beside the theme are handed on as they are. So another value
for one of them is found under its name after resolving, and everything else is as before:
the theme, the other entries, and whether resolving succeeds at all.
-/
namespace ClassOrder.Config

open Fallible

/-- Under all names but one the same is found. -/
def AgreeBeside (name : String) (left right : Entries Setting) : Prop :=
  ∀ other, other ≠ name → Entries.get? right other = Entries.get? left other

/-- Two gatherings differ at most in what one name stands for beside the theme. -/
structure Gathered.AgreeBeside (name : String) (left right : Gathered) : Prop where
  base : right.base = left.base
  extensions : right.extensions = left.extensions
  settings : Config.AgreeBeside name left.settings right.settings

variable {name : String} {entries others : Entries Setting} {left right further : Gathered}
  {weaker : List Setting}

/-- Writing under a name changes nothing under the others, whatever is written. -/
theorem agreeBeside_insert (entries : Entries Setting) (name : String) (old new : Setting) :
    AgreeBeside name (Entries.insert entries name old) (Entries.insert entries name new) := by
  intro other different
  simp [Entries.get?_insert, different]

/-- Adding configurations that differ in one entry beside the theme succeeds for both or for
none, and what is gathered differs in this entry only, which is the first that was given. -/
theorem Gathered.add_agreeBeside (beside : name ≠ "theme") (agree : left.AgreeBeside name right)
    (alike : Config.AgreeBeside name entries others)
    (added : left.add (.mapping entries) = .ok further) :
    ∃ furtherToo, right.add (.mapping others) = .ok furtherToo ∧
      further.AgreeBeside name furtherToo ∧
      Entries.get? furtherToo.settings name =
        (Entries.get? right.settings name).or (Entries.get? others name) := by
  obtain ⟨theme, read, added⟩ := bind_eq_ok.mp added
  obtain ⟨extension, readFurther, ⟨⟩⟩ := bind_eq_ok.mp added
  rw [← alike "theme" (Ne.symm beside)] at read
  refine ⟨_, bind_eq_ok.mpr ⟨theme, read, bind_eq_ok.mpr ⟨extension, readFurther, rfl⟩⟩, ?_, ?_⟩
  · refine ⟨?_, ?_, ?_⟩
    · simp only [agree.base]
    · simp only [agree.extensions]
    · intro other different
      simp only [get?_fillIn, Entries.get?_filter (· != "theme"), agree.settings other different,
        alike other different]
  · simp only [get?_fillIn, Entries.get?_filter (· != "theme")]
    simp [beside]

/-- Adding the same weaker configurations keeps the difference. -/
theorem foldlM_add_agreeBeside (beside : name ≠ "theme") {value : Setting}
    (agree : left.AgreeBeside name right)
    (stands : Entries.get? right.settings name = some value)
    (added : weaker.foldlM Gathered.add left = .ok further) :
    ∃ furtherToo, weaker.foldlM Gathered.add right = .ok furtherToo ∧
      further.AgreeBeside name furtherToo ∧ Entries.get? furtherToo.settings name = some value := by
  induction weaker generalizing left right with
  | nil =>
    cases added
    exact ⟨right, rfl, agree, stands⟩
  | cons config rest inductionHypothesis =>
    rw [List.foldlM_cons] at added
    obtain ⟨next, here, behind⟩ := bind_eq_ok.mp added
    cases config with
    | mapping entries =>
      obtain ⟨nextToo, hereToo, agreeNext, standsNext⟩ :=
        Gathered.add_agreeBeside beside agree (fun _ _ => rfl) here
      rw [stands, Option.some_or] at standsNext
      obtain ⟨furtherToo, behindToo, agreeBehind, standsBehind⟩ :=
        inductionHypothesis agreeNext standsNext behind
      exact ⟨furtherToo, by rw [List.foldlM_cons]; exact bind_eq_ok.mpr ⟨_, hereToo, behindToo⟩,
        agreeBehind, standsBehind⟩
    | _ => cases here

/-- A configuration with another value for an entry beside the theme resolves as well, to the
other value under this name and to the same values under all other names. -/
theorem resolve_insert (beside : name ≠ "theme") {old resolved : Setting} (new : Setting)
    (returned : resolve (.mapping (Entries.insert entries name old) :: weaker) = .ok resolved) :
    ∃ replaced, resolve (.mapping (Entries.insert entries name new) :: weaker) = .ok replaced ∧
      (∀ other, other ≠ name → entry replaced other = entry resolved other) ∧
      entry replaced name = .ok (some new) := by
  obtain ⟨gathered, read, returned⟩ := bind_eq_ok.mp returned
  obtain ⟨theme, settled, ⟨⟩⟩ := bind_eq_ok.mp returned
  rw [gather, List.foldlM_cons] at read
  obtain ⟨first, here, behind⟩ := bind_eq_ok.mp read
  obtain ⟨firstToo, hereToo, agreeFirst, standsFirst⟩ :=
    Gathered.add_agreeBeside beside ⟨rfl, rfl, fun _ _ => rfl⟩
      (agreeBeside_insert entries name old new) here
  have stands : Entries.get? firstToo.settings name = some new := by
    rw [standsFirst, Entries.get?_insert]
    simp [Entries.get?]
  obtain ⟨gatheredToo, behindToo, agree, standsToo⟩ :=
    foldlM_add_agreeBeside beside agreeFirst stands behind
  have readToo : gather (.mapping (Entries.insert entries name new) :: weaker) =
      .ok gatheredToo := by
    rw [gather, List.foldlM_cons]
    exact bind_eq_ok.mpr ⟨firstToo, hereToo, behindToo⟩
  have sameLayers : gatheredToo.layers = gathered.layers := by
    rw [Gathered.layers, Gathered.layers, agree.base, agree.extensions]
  refine ⟨_, bind_eq_ok.mpr ⟨gatheredToo, readToo,
    bind_eq_ok.mpr ⟨theme, sameLayers ▸ settled, rfl⟩⟩, ?_, ?_⟩
  · intro other different
    simp only [entry, Entries.get?_append, agree.settings other different]
  · simp only [entry, Entries.get?_append, standsToo, Option.some_or]

end ClassOrder.Config
