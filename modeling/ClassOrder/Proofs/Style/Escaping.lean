import ClassOrder.Proofs.Plugin.Classes
import Mathlib.Data.List.TakeWhile

/-!
# Class names that are read back

A class name is written in a selector with a backslash before every unsafe character, and
cleaning the selector is to give the name back. Cleaning does not know what was escaped. It
cuts at the first blank, whether a backslash stands before it or not, and it drops every
backslash, those of the name as well. So a name comes back up to its first blank and without
its backslashes, and it comes back whole exactly when it has neither. What it begins with
does not matter, since only the dot of the selector is taken away.
-/
namespace ClassOrder.Selector

/-- What can be read of a class name: the characters up to the first blank, other than
backslashes. -/
def legible (name : List Char) : List Char :=
  (name.takeWhile fun c => !Text.isBlank c).filter (· != '\\')

variable {c : Char}

/-- A blank ends what is legible. -/
theorem legible_cons_of_blank (blank : Text.isBlank c = true) (rest : List Char) :
    legible (c :: rest) = [] := by
  simp [legible, blank]

/-- A character that is neither a blank nor a backslash is legible. -/
theorem legible_cons_of_solid (solid : Text.isBlank c = false) (different : c ≠ '\\')
    (rest : List Char) : legible (c :: rest) = c :: legible rest := by
  simp [legible, solid, different]

/-- A backslash is no blank, so what stands behind it is read. -/
theorem legible_backslash (rest : List Char) : legible ('\\' :: rest) = legible rest := by
  have solid : Text.isBlank '\\' = false := by decide
  simp [legible, solid]

/-- The same character may be put in front of names that read the same. -/
theorem legible_cons_congr {rest others : List Char} (same : legible rest = legible others) :
    legible (c :: rest) = legible (c :: others) := by
  cases blank : Text.isBlank c with
  | true => rw [legible_cons_of_blank blank, legible_cons_of_blank blank]
  | false =>
    by_cases escape : c = '\\'
    · rw [escape, legible_backslash, legible_backslash, same]
    · rw [legible_cons_of_solid blank escape, legible_cons_of_solid blank escape, same]

/-- An escaped name reads like the name. -/
theorem legible_escapeCharacters (name : List Char) :
    legible (escapeCharacters name) = legible name := by
  induction name with
  | nil => rfl
  | cons c rest inductionHypothesis =>
    have written : escapeCharacters (c :: rest) =
        (if isSafe c then [c] else ['\\', c]) ++ escapeCharacters rest := rfl
    rw [written]
    cases isSafe c with
    | true => exact legible_cons_congr inductionHypothesis
    | false => exact (legible_backslash _).trans (legible_cons_congr inductionHypothesis)

/-- A name can be read whole exactly when it has no blank and no backslash. -/
theorem legible_eq_self_iff (name : List Char) :
    legible name = name ↔ ∀ c ∈ name, Text.isBlank c = false ∧ c ≠ '\\' := by
  constructor
  · intro whole c member
    rw [← whole, legible, List.mem_filter] at member
    obtain ⟨taken, different⟩ := member
    have solid := List.mem_takeWhile_imp taken
    exact ⟨by simpa using solid, by simpa using different⟩
  · intro plain
    have taken : (name.takeWhile fun c => !Text.isBlank c) = name :=
      List.takeWhile_eq_self_iff.mpr fun c member => by simp [(plain c member).1]
    rw [legible, taken, List.filter_eq_self]
    intro c member
    simpa using (plain c member).2

/-- Cleaning the selector of a class gives the name of the class up to its first blank and without
its backslashes, and hence the name itself exactly when it has no blank and no backslash, whatever
it begins with. A backslash is neither blank nor read, so an escaped name reads like the name. -/
theorem clean_escape (name : String) :
    clean ("." ++ escape name) = String.ofList (legible name.toList) ∧
      (clean ("." ++ escape name) = name ↔
        ∀ c ∈ name.toList, Text.isBlank c = false ∧ c ≠ '\\') := by
  have cleaned : cleanCharacters ('.' :: escapeCharacters name.toList) = legible name.toList := by
    rw [← legible_escapeCharacters]
    exact cleanCharacters_dot [] (by simp) _
  have written : ("." ++ escape name).toList = '.' :: escapeCharacters name.toList := by
    simp [escape]
  have reads : clean ("." ++ escape name) = String.ofList (legible name.toList) := by
    rw [clean, written, cleaned]
  refine ⟨reads, ?_⟩
  rw [reads, ← legible_eq_self_iff, ← String.toList_inj, String.toList_ofList]

-- The name begins with a dot and a dash, and a blank is in it as well as backslashes.
example : clean ("." ++ escape ".-½\\:é px\\") = ".-½:é" := by decide +kernel

end ClassOrder.Selector
