import Mathlib.Logic.Relation
import ClassOrder.Proofs.Theme.Unfolding

/-!
# When resolving goes in a circle

An entry depends on another one when the rules of its layers look that one up. Resolving finds
a circle by meeting an entry that is under way, and whatever is under way depends on what is
being resolved. So the entry that is blamed for a circle lies on one, and no circle is found
where there is none. On the other hand nothing can be resolved that reaches a circle: what an
entry depends on unfolds at a smaller depth than the entry itself.
-/
namespace ClassOrder.Theme

open Fallible Relation

/-- The fault says something else than that a reference is circular. -/
def NotCircular (fault : Fault) : Prop :=
  ∀ name, fault ≠ .config (.circularTheme name)

/-- A rule that fails with its own faults only by saying something else than that a reference is
circular. -/
inductive Candid : ThemeRule → Prop where
  | lookup (path : String) (fallback : Setting) : Candid (.lookup path fallback)
  | constant (value : Setting) : Candid (.constant value)
  | merge {rules : List ThemeRule} (each : ∀ rule ∈ rules, Candid rule) : Candid (.merge rules)
  | negative {scale : ThemeRule} (inner : Candid scale) : Candid (.negative scale)
  | deferred (rule : ThemeRule) : Candid (.deferred rule)
  | refuse {fault : Fault} (other : NotCircular fault) : Candid (.refuse fault)
  | consult (path : String) (fallback : Setting) {next : Value Unit → ThemeRule}
      (each : ∀ found, Candid (next found)) : Candid (.consult path fallback next)

/-- The base or an extension has a value for an entry. -/
def Layers.Gives (layers : Layers) (name : String) (value : Setting) : Prop :=
  Entries.get? layers.base name = some value ∨
    ∃ extension ∈ layers.extensions, Entries.get? extension name = some value

/-- An entry depends on another one when evaluating a value that some layer gives to it looks up a
path that starts with the other one's name. The lookups before are answered by unfolding what they
ask for, to some depth. -/
def Layers.DependsOn (scales : List String) (layers : Layers) (name other : String) : Prop :=
  ∃ value, layers.Gives name value ∧ ∃ depth,
    ∃ path ∈ (evaluate Inquiry.lookUp value).asked (layers.answersWithin scales depth),
      (Text.splitAtFirst '.' path).1 = other

/-- Every rule that a layer gives to an entry is candid. -/
def Layers.AllCandid (layers : Layers) : Prop :=
  ∀ name rule, layers.Gives name (.rule rule) → Candid rule

/-- Only an entry that some layer defines depends on another one. -/
theorem Layers.DependsOn.mem_names {scales : List String} {layers : Layers} {name other : String}
    (depends : layers.DependsOn scales name other) : name ∈ layers.names := by
  obtain ⟨value, gives, _⟩ := depends
  rw [mem_names_iff]
  rcases gives with base | ⟨extension, listed, found⟩
  · left
    simp [base]
  · right
    exact ⟨extension, listed, by simp [found]⟩

/-! ## What is asked for -/

namespace Inquiry

variable {α β : Type} {admits : Fault → Prop} {answers : Answering}

/-- Two inquiries in turn ask for what one of them asks for. -/
theorem asked_bind {first : Inquiry α} {next : α → Inquiry β} {path : String}
    (member : path ∈ (first >>= next).asked answers) :
    path ∈ first.asked answers ∨ ∃ value, path ∈ (next value).asked answers := by
  induction first with
  | done value =>
    right
    exact ⟨value, member⟩
  | failed fault => cases member
  | ask other fallback further inductionHypothesis =>
    change path ∈ (ask other fallback fun found => further found >>= next).asked answers at member
    rw [asked] at member ⊢
    rcases List.mem_cons.mp member with rfl | later
    · left
      exact List.mem_cons_self
    · cases told : answers other fallback with
      | error fault => simp [told] at later
      | ok found =>
        rw [told] at later
        exact (inductionHypothesis found later).imp_left (List.mem_cons_of_mem _)

/-- Two inquiries in turn fail only with certain faults when both do. -/
theorem failsOnly_bind {first : Inquiry α} {next : α → Inquiry β} (here : first.FailsOnly admits)
    (behind : ∀ value, (next value).FailsOnly admits) : (first >>= next).FailsOnly admits := by
  induction first with
  | done value => exact behind value
  | failed fault => exact here
  | ask path fallback further inductionHypothesis =>
    exact fun found => inductionHypothesis found (here found)

end Inquiry

section

variable {layers : Layers} {scales : List String} {name other path : String} {answers : Answering}
  {depth : Nat} {value : Setting}

/-- Extending an entry asks only for what the layers of the extensions ask for. -/
theorem asked_extend {extensions : List (Entries Setting)}
    (member : path ∈ (extend Inquiry.lookUp name extensions value).asked answers) :
    ∃ extension ∈ extensions, ∃ layer, Entries.get? extension name = some layer ∧
      path ∈ (evaluate Inquiry.lookUp layer).asked answers := by
  induction extensions generalizing value with
  | nil => cases member
  | cons extension rest inductionHypothesis =>
    rw [extend] at member
    cases found : Entries.get? extension name with
    | none =>
      rw [found] at member
      obtain ⟨further, listed, asks⟩ := inductionHypothesis member
      exact ⟨further, List.mem_cons_of_mem _ listed, asks⟩
    | some layer =>
      rw [found] at member
      rcases Inquiry.asked_bind member with here | ⟨above, later⟩
      · exact ⟨extension, List.mem_cons_self, layer, found, here⟩
      · obtain ⟨further, listed, asks⟩ := inductionHypothesis later
        exact ⟨further, List.mem_cons_of_mem _ listed, asks⟩

/-- The inquiry of an entry asks only for what the entry depends on. -/
theorem dependsOn_of_asked
    (member : path ∈ (layers.inquiry name).asked (layers.answersWithin scales depth)) :
    layers.DependsOn scales name (Text.splitAtFirst '.' path).1 := by
  rcases Inquiry.asked_bind member with start | ⟨_, extended⟩
  · cases found : Entries.get? layers.base name with
    | none =>
      rw [found] at start
      cases start
    | some layer =>
      rw [found] at start
      exact ⟨layer, .inl found, depth, path, start, rfl⟩
  · obtain ⟨extension, listed, layer, found, asks⟩ := asked_extend extended
    exact ⟨layer, .inr ⟨extension, listed, found⟩, depth, path, asks, rfl⟩

/-! ## What reaches a circle cannot be resolved -/

/-- Every layer of an extended entry has been evaluated. -/
theorem exists_evaluate_of_extend {extensions : List (Entries Setting)} {start : Setting}
    (extended : extend answers name extensions start = .ok value) :
    ∀ extension ∈ extensions, ∀ layer, Entries.get? extension name = some layer →
      ∃ given, evaluate answers layer = .ok given := by
  induction extensions generalizing start with
  | nil => simp
  | cons extension rest inductionHypothesis =>
    rw [extend] at extended
    rw [List.forall_mem_cons]
    cases found : Entries.get? extension name with
    | none =>
      rw [found] at extended
      refine ⟨?_, inductionHypothesis extended⟩
      rintro _ ⟨⟩
    | some layer =>
      rw [found] at extended
      obtain ⟨given, evaluated, further⟩ := bind_eq_ok.mp extended
      refine ⟨?_, inductionHypothesis further⟩
      rintro _ ⟨⟩
      exact ⟨given, evaluated⟩

/-- Every value that the layers give to a folded entry has been evaluated. -/
theorem exists_evaluate_of_settle {layer : Setting}
    (settled : layers.settle answers name = .ok value) (gives : layers.Gives name layer) :
    ∃ given, evaluate answers layer = .ok given := by
  obtain ⟨start, evaluated, extended⟩ := bind_eq_ok.mp settled
  rcases gives with base | ⟨extension, listed, found⟩
  · rw [base] at evaluated
    exact ⟨start, evaluated⟩
  · exact exists_evaluate_of_extend extended extension listed layer found

/-- What an entry depends on unfolds one level less deep than the entry does. -/
theorem unfold_of_dependsOn (unfolded : layers.unfold scales (depth + 1) name = .ok value)
    (depends : layers.DependsOn scales name other) :
    ∃ known, layers.unfold scales depth other = .ok known := by
  obtain ⟨layer, gives, reached, path, asked, rfl⟩ := depends
  obtain ⟨given, evaluated⟩ := exists_evaluate_of_settle (unfold_succ_eq_ok.mp unfolded).1 gives
  rw [← evaluate_inquiry fun _ _ => rfl] at evaluated
  -- The lookups may have been answered at another depth, so both are taken at the greater one.
  have askedDeeper := Inquiry.asked_confirmed
    (answersWithin_confirms (Nat.le_max_right depth reached)) _ path asked
  obtain ⟨fallback, found, told⟩ := Inquiry.answered_of_asked
    (answersWithin_confirms (Nat.le_max_left depth reached)) _ evaluated path askedDeeper
  obtain ⟨known, unfolds, _⟩ := answersWithin_eq_ok.mp told
  exact ⟨known, unfolds⟩

/-- What an entry depends on in several steps unfolds less deep as well. -/
theorem unfold_of_transGen (depends : TransGen (layers.DependsOn scales) name other)
    (unfolded : layers.unfold scales (depth + 1) name = .ok value) :
    ∃ known, layers.unfold scales depth other = .ok known := by
  induction depends with
  | single step => exact unfold_of_dependsOn unfolded step
  | tail _ step inductionHypothesis =>
    obtain ⟨known, earlier⟩ := inductionHypothesis
    exact unfold_of_dependsOn (unfold_of_le depth.le_succ earlier) step

/-- An entry that depends on itself does not unfold. -/
theorem not_unfold_of_circle (circle : TransGen (layers.DependsOn scales) name name) :
    layers.unfold scales depth name ≠ .ok value := by
  induction depth generalizing value with
  | zero => nofun
  | succ depth inductionHypothesis =>
    intro unfolded
    obtain ⟨known, earlier⟩ := unfold_of_transGen circle unfolded
    exact inductionHypothesis earlier

/-- Nor does an entry from which one that depends on itself is reached. -/
theorem not_unfold_of_reaches (reaches : ReflTransGen (layers.DependsOn scales) name other)
    (circle : TransGen (layers.DependsOn scales) other other) :
    layers.unfold scales depth name ≠ .ok value := by
  intro unfolded
  rcases ReflTransGen.cases_head_iff.mp reaches with rfl | ⟨next, step, further⟩
  · exact not_unfold_of_circle circle unfolded
  · have steps : TransGen (layers.DependsOn scales) name other := .head' step further
    obtain ⟨known, reached⟩ := unfold_of_transGen steps (unfold_of_le depth.le_succ unfolded)
    exact not_unfold_of_circle circle reached

/-! ## What is blamed lies on a circle -/

/-- Merging what rules yield fails with the faults of the rules, and otherwise with faults that are
none of circularity. -/
theorem mergeFrom_failsOnly {rules : List ThemeRule}
    (each : ∀ rule ∈ rules, (rule.run Inquiry.lookUp).FailsOnly NotCircular)
    (below : Entries Setting) :
    (ThemeRule.mergeFrom Inquiry.lookUp rules below).FailsOnly NotCircular := by
  induction rules generalizing below with
  | nil => exact trivial
  | cons rule rest inductionHypothesis =>
    obtain ⟨first, others⟩ := List.forall_mem_cons.mp each
    refine Inquiry.failsOnly_bind first fun value => ?_
    refine Inquiry.failsOnly_bind ?_ fun above => inductionHypothesis others _
    cases value with
    | mapping entries => exact trivial
    | _ => exact nofun

/-- A candid rule fails of its own accord only with faults that are none of circularity. -/
theorem run_failsOnly {rule : ThemeRule} (candid : Candid rule) :
    (rule.run Inquiry.lookUp).FailsOnly NotCircular := by
  induction candid with
  | lookup path fallback => exact fun _ => trivial
  | constant value => exact trivial
  | merge _ inductionHypothesis => exact mergeFrom_failsOnly inductionHypothesis []
  | negative _ inductionHypothesis =>
    refine Inquiry.failsOnly_bind inductionHypothesis fun found => ?_
    cases found with
    | mapping entries => exact trivial
    | _ => exact nofun
  | deferred rule => exact trivial
  | refuse other => exact other
  | consult path fallback _ inductionHypothesis =>
    exact fun found => inductionHypothesis found.outline

/-- So does the evaluation of what a layer gives. -/
theorem evaluate_failsOnly (candid : ∀ rule, value = .rule rule → Candid rule) :
    (evaluate Inquiry.lookUp value).FailsOnly NotCircular := by
  cases value with
  | rule rule => exact run_failsOnly (candid rule rfl)
  | _ => exact trivial

/-- So does extending an entry. -/
theorem extend_failsOnly {extensions : List (Entries Setting)}
    (candid : ∀ extension ∈ extensions, ∀ rule,
      Entries.get? extension name = some (.rule rule) → Candid rule) (value : Setting) :
    (extend Inquiry.lookUp name extensions value).FailsOnly NotCircular := by
  induction extensions generalizing value with
  | nil => exact trivial
  | cons extension rest inductionHypothesis =>
    obtain ⟨first, others⟩ := List.forall_mem_cons.mp candid
    rw [extend]
    cases found : Entries.get? extension name with
    | none => exact inductionHypothesis others value
    | some layer =>
      have evaluated : (evaluate Inquiry.lookUp layer).FailsOnly NotCircular :=
        evaluate_failsOnly fun rule same => first rule (same ▸ found)
      exact Inquiry.failsOnly_bind evaluated fun above => inductionHypothesis others _

/-- So does the inquiry of an entry. -/
theorem inquiry_failsOnly (candid : layers.AllCandid) (name : String) :
    (layers.inquiry name).FailsOnly NotCircular := by
  have start : (evaluate Inquiry.lookUp ((Entries.get? layers.base name).getD .null)).FailsOnly
      NotCircular := by
    apply evaluate_failsOnly
    intro rule same
    cases found : Entries.get? layers.base name with
    | none => simp [found] at same
    | some value =>
      rw [found] at same
      exact candid name rule (.inl (same ▸ found))
  refine Inquiry.failsOnly_bind start fun value => extend_failsOnly ?_ value
  intro extension listed rule found
  exact candid name rule (.inr ⟨extension, listed, found⟩)

/-- A lookup that succeeds answers what its entry unfolds to. -/
theorem answersWithin_of_lookUpUnder {underWay : List String} {before after : Memory}
    {fallback found : Setting} (unfolds : Unfolds scales layers before)
    (looked : lookUpUnder scales layers underWay path fallback before = .ok (found, after)) :
    Unfolds scales layers after ∧
      ∃ depth, layers.answersWithin scales depth path fallback = .ok found := by
  obtain ⟨entry, between, resolved, ⟨⟩⟩ := stateT_bind_eq_ok.mp looked
  obtain ⟨unfolds, depth, unfolded⟩ := unfold_of_resolve unfolds resolved
  exact ⟨unfolds, depth, answersWithin_eq_ok.mpr ⟨entry, unfolded, rfl⟩⟩

/-- An inquiry that fails does so of its own accord, or because an entry that it asks for cannot be
resolved.

Proof: by induction on the inquiry. The lookups that succeed are answered at some depth each, and at
the greatest of these depths the inquiry asks for the path of the one that fails. -/
theorem run_eq_error {α : Type} {admits : Fault → Prop} {underWay : List String} {before : Memory}
    {fault : Fault} {inquiry : Inquiry α} (own : inquiry.FailsOnly admits)
    (unfolds : Unfolds scales layers before)
    (failed : inquiry.run (lookUpUnder scales layers underWay) before = .error fault) :
    admits fault ∨ ∃ depth, ∃ path ∈ inquiry.asked (layers.answersWithin scales depth),
      ∃ between, Unfolds scales layers between ∧
        resolve scales layers underWay (Text.splitAtFirst '.' path).1 between = .error fault := by
  induction inquiry generalizing before with
  | done value => cases failed
  | failed other =>
    left
    cases failed
    exact own
  | ask path fallback next inductionHypothesis =>
    rcases stateT_bind_eq_error.mp failed with looking | ⟨found, between, looked, failed⟩
    · right
      refine ⟨0, path, List.mem_cons_self, before, unfolds, ?_⟩
      rcases stateT_bind_eq_error.mp looking with resolving | ⟨_, _, _, answering⟩
      · exact resolving
      · cases answering
    · obtain ⟨unfolds, depth, told⟩ := answersWithin_of_lookUpUnder unfolds looked
      refine (inductionHypothesis found (own found) unfolds failed).imp_right ?_
      rintro ⟨reached, other, asked, later, further⟩
      refine ⟨max depth reached, other, ?_, later, further⟩
      rw [Inquiry.asked, answersWithin_confirms (Nat.le_max_left depth reached) _ _ _ told]
      have askedDeeper := Inquiry.asked_confirmed
        (answersWithin_confirms (Nat.le_max_right depth reached)) _ other asked
      exact List.mem_cons_of_mem _ askedDeeper

/-- Checking a scale finds no circle. -/
theorem checkScale_notCircular {fault : Fault}
    (failed : checkScale scales name value = .error fault) : NotCircular fault := by
  unfold checkScale at failed
  split at failed
  · cases failed
  · cases failed
  · split at failed
    · cases failed
      exact nofun
    · cases failed

/-- An entry that is blamed for a circle depends on itself, provided that all entries under way
depend on the one that is resolved. -/
theorem resolve_blames (candid : layers.AllCandid) (underWay : List String) (name : String)
    {before : Memory} {blamed : String} (unfolds : Unfolds scales layers before)
    (dependent : ∀ other ∈ underWay, TransGen (layers.DependsOn scales) other name)
    (failed : resolve scales layers underWay name before =
      .error (.config (.circularTheme blamed))) :
    TransGen (layers.DependsOn scales) blamed blamed := by
  -- The lookups of an entry's rules resolve other entries with one more of them under way.
  induction underWay, name using resolve.induct layers generalizing before with
  | case1 underWay name inductionHypothesis =>
    rcases resolve_cases scales layers underWay name before with
      ⟨_, _, step⟩ | ⟨_, ⟨circular, step⟩ | ⟨_, _, step⟩ | ⟨circular, defined, step⟩⟩
    · cases step.symm.trans failed
    · cases step.symm.trans failed
      exact dependent _ circular
    · cases step.symm.trans failed
    · rcases stateT_bind_eq_error.mp (step.symm.trans failed) with running | ⟨_, _, _, checking⟩
      · rcases run_eq_error (inquiry_failsOnly candid name) unfolds running with
          own | ⟨_, path, asked, between, unfolds, nested⟩
        · exact absurd rfl (own blamed)
        · have next : layers.DependsOn scales name (Text.splitAtFirst '.' path).1 :=
            dependsOn_of_asked asked
          refine inductionHypothesis circular defined path unfolds ?_ nested
          intro other member
          rcases List.mem_cons.mp member with rfl | earlier
          · exact .single next
          · exact .tail (dependent other earlier) next
      · rcases stateT_bind_eq_error.mp checking with checking | ⟨_, _, _, remembering⟩
        · exact absurd rfl (checkScale_notCircular (stateT_lift_eq_error.mp checking) blamed)
        · cases remembering

/-- What is blamed while entries are resolved in turn depends on itself. -/
theorem resolveAll_blames (candid : layers.AllCandid) (names : List String) {before : Memory}
    {blamed : String} (unfolds : Unfolds scales layers before)
    (failed : resolveAll scales layers names before = .error (.config (.circularTheme blamed))) :
    TransGen (layers.DependsOn scales) blamed blamed := by
  induction names generalizing before with
  | nil => cases failed
  | cons name rest inductionHypothesis =>
    rcases stateT_bind_eq_error.mp failed with first | ⟨value, between, resolved, failed⟩
    · exact resolve_blames candid [] name unfolds (by simp) first
    · obtain ⟨unfolds, _⟩ := unfold_of_resolve unfolds resolved
      rcases stateT_bind_eq_error.mp failed with following | ⟨_, _, _, collecting⟩
      · exact inductionHypothesis unfolds following
      · cases collecting

/-- A theme is not resolved when one of its entries reaches an entry that depends on itself. -/
theorem Layers.resolved_ne_ok {theme : Entries Setting} (defined : name ∈ layers.names)
    (reaches : ReflTransGen (layers.DependsOn scales) name other)
    (circle : TransGen (layers.DependsOn scales) other other) :
    layers.resolved scales ≠ .ok theme := by
  intro resolved
  obtain ⟨named, unfolded⟩ := Layers.resolved_eq_ok_iff.mp resolved
  rw [← named] at defined
  obtain ⟨entry, member, rfl⟩ := List.mem_map.mp defined
  obtain ⟨depth, value⟩ := unfolded entry member
  exact not_unfold_of_reaches reaches circle value

/-- An entry that is blamed while a theme is resolved depends on itself. -/
theorem Layers.resolved_blames (candid : layers.AllCandid) {blamed : String}
    (failed : layers.resolved scales = .error (.config (.circularTheme blamed))) :
    TransGen (layers.DependsOn scales) blamed blamed :=
  resolveAll_blames candid layers.names unfolds_nil (map_eq_error.mp failed)

end

end ClassOrder.Theme
