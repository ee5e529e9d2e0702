import ClassOrder.Theme.Resolution

/-!
# What an entry asks the theme

A rule meets the theme only in the answers to its lookups. So what it does can be written
down before anything is answered: it is done, it has failed, or it asks for a path and goes
on with whatever it is told. The layers of an entry are folded in the same way, one
inquiry after the other. The resolver and a reader that remembers nothing answer one and the
same inquiry, each in its own way, and a fact about both is an induction over the inquiry.
-/
namespace ClassOrder.Theme

/-- A way of answering lookups without an effect. -/
abbrev Answering := String → Setting → Except Fault Setting

/-- What is left to do: nothing, or to fail, or to ask for a path and to go on with the answer. -/
inductive Inquiry (α : Type) where
  | done (value : α)
  | failed (fault : Fault)
  | ask (path : String) (fallback : Setting) (next : Setting → Inquiry α)

namespace Inquiry

variable {α β : Type}

/-- Goes on with a second inquiry once the first one is done. -/
def andThen : Inquiry α → (α → Inquiry β) → Inquiry β
  | done value, next => next value
  | failed fault, _ => failed fault
  | ask path fallback answered, next => ask path fallback fun found => (answered found).andThen next

/-- Goes on with another inquiry where one has failed. -/
def orElse : Inquiry α → (Fault → Inquiry α) → Inquiry α
  | done value, _ => done value
  | failed fault, other => other fault
  | ask path fallback answered, other =>
    ask path fallback fun found => (answered found).orElse other

/-- Inquiries are made one after the other. -/
instance : Monad Inquiry where
  pure := done
  bind := andThen

/-- An inquiry may fail of its own accord, and another one may go on then. The fault of a lookup
is none of its own, so no inquiry goes on after that. -/
instance : MonadExceptOf Fault Inquiry where
  throw := failed
  tryCatch := orElse

/-- Asks for a path, and is done with the answer. -/
def lookUp (path : String) (fallback : Setting) : Inquiry Setting :=
  ask path fallback done

/-- Answers an inquiry by a way of looking up. -/
def run {m : Type → Type} [Monad m] [MonadExceptOf Fault m]
    (lookUp : String → Setting → m Setting) : Inquiry α → m α
  | done value => pure value
  | failed fault => throw fault
  | ask path fallback next => do
    let found ← lookUp path fallback
    run lookUp (next found)

/-- The paths that are asked for, in order, as far as the answers lead. -/
def asked (answers : Answering) : Inquiry α → List String
  | done _ => []
  | failed _ => []
  | ask path fallback next =>
    path :: match answers path fallback with
      | .ok found => asked answers (next found)
      | .error _ => []

/-- Whatever the answers are, an inquiry of its own accord fails only with certain faults. -/
def FailsOnly (admits : Fault → Prop) : Inquiry α → Prop
  | done _ => True
  | failed fault => admits fault
  | ask _ _ next => ∀ found, FailsOnly admits (next found)

end Inquiry

/-! ## Rules and layers as inquiries -/

section

open Inquiry

variable {m : Type → Type} [Monad m] [LawfulMonad m] [MonadExceptOf Fault m] {α β : Type}
  (ends : ∀ {α β : Type} (fault : Fault) (next : α → m β),
    ((throw fault : m α) >>= next) = throw fault)
  (answered : String → Setting → m Setting)

include ends

/-- Two inquiries in turn are answered in turn. -/
theorem Inquiry.run_bind (first : Inquiry α) (next : α → Inquiry β) :
    (first >>= next).run answered =
      first.run answered >>= fun value => (next value).run answered := by
  induction first with
  | done value => exact (pure_bind value fun value => (next value).run answered).symm
  | failed fault => exact (ends fault _).symm
  | ask path fallback further inductionHypothesis =>
    change (answered path fallback >>= fun found => ((further found) >>= next).run answered) = _
    simp only [inductionHypothesis, Inquiry.run, bind_assoc]

mutual
/-- Running a rule is answering what it asks. -/
theorem run_inquiry : (rule : ThemeRule) →
    (rule.run Inquiry.lookUp).run answered = rule.run answered
  | .lookup path fallback => bind_pure (answered path fallback)
  | .constant value => rfl
  | .merge rules => mergeFrom_inquiry rules []
  | .negative scale => by
    simp only [ThemeRule.run, Inquiry.run_bind ends, run_inquiry scale]
    refine bind_congr fun found => ?_
    cases Theme.negated found <;> rfl
  | .deferred rule => rfl
  | .refuse fault => rfl
  | .consult path fallback next => by
    simp only [ThemeRule.run, Inquiry.run_bind ends, run_inquiry (next _)]
    exact congrArg (· >>= _) (bind_pure _)

/-- So is running the rules that a rule merges. -/
theorem mergeFrom_inquiry : (rules : List ThemeRule) → (below : Entries Setting) →
    (ThemeRule.mergeFrom Inquiry.lookUp rules below).run answered =
      ThemeRule.mergeFrom answered rules below
  | [], below => rfl
  | rule :: rest, below => by
    simp only [ThemeRule.mergeFrom, Inquiry.run_bind ends, run_inquiry rule,
      mergeFrom_inquiry rest]
    refine bind_congr fun found => congrArg (· >>= _) ?_
    cases found <;> rfl
end

/-- What a layer gives to an entry is what it asks for, answered. -/
theorem evaluate_inquiry (value : Setting) :
    (evaluate Inquiry.lookUp value).run answered = evaluate answered value := by
  cases value with
  | rule rule => exact run_inquiry ends answered rule
  | _ => rfl

/-- So is what the extensions make of an entry. -/
theorem extend_inquiry (name : String) (extensions : List (Entries Setting)) (value : Setting) :
    (extend Inquiry.lookUp name extensions value).run answered =
      extend answered name extensions value := by
  induction extensions generalizing value with
  | nil => rfl
  | cons extension rest inductionHypothesis =>
    simp only [extend]
    cases Entries.get? extension name with
    | none => exact inductionHypothesis value
    | some layer =>
      simp only [Inquiry.run_bind ends, evaluate_inquiry ends, inductionHypothesis]

/-- The fold of an entry's layers, as an inquiry. -/
def Layers.inquiry (layers : Layers) (name : String) : Inquiry Setting := do
  let start ← evaluate Inquiry.lookUp ((Entries.get? layers.base name).getD .null)
  extend Inquiry.lookUp name layers.extensions start

/-- Folding the layers of an entry is answering its inquiry. -/
theorem Layers.run_inquiry (layers : Layers) (name : String) :
    (layers.inquiry name).run answered = (do
      let start ← evaluate answered ((Entries.get? layers.base name).getD .null)
      extend answered name layers.extensions start) := by
  simp only [inquiry, Inquiry.run_bind ends, evaluate_inquiry ends, extend_inquiry ends]

end

/-! ## Resolving as answering -/

/-- A refusal ends the resolving. -/
theorem throw_bind {α β : Type} (fault : Fault) (next : α → Resolving β) :
    (throw fault >>= next) = throw fault :=
  rfl

/-- Looking up while entries are under way: the entry is resolved, and the path is followed from
there. -/
def lookUpUnder (scales : List String) (layers : Layers) (underWay : List String) (path : String)
    (fallback : Setting) : Resolving Setting := do
  let entry ← resolve scales layers underWay (Text.splitAtFirst '.' path).1
  return answer entry path fallback

/-- Resolving an entry that some layer defines: its inquiry is answered while it is under way, and
the outcome is checked and remembered. -/
def resolveAfresh (scales : List String) (layers : Layers) (underWay : List String)
    (name : String) : Resolving Setting := do
  let value ← (layers.inquiry name).run (lookUpUnder scales layers (name :: underWay))
  checkScale scales name value
  remember name value

/-- Resolving an entry answers what is remembered, meets an entry under way, finds that no layer
defines the entry, or answers its inquiry. -/
theorem resolve_cases (scales : List String) (layers : Layers) (underWay : List String)
    (name : String) (before : Memory) :
    (∃ value, Entries.get? before name = some value ∧
      resolve scales layers underWay name before = .ok (value, before)) ∨
    Entries.get? before name = none ∧
      (name ∈ underWay ∧
        resolve scales layers underWay name before = .error (.config (.circularTheme name)) ∨
      name ∉ underWay ∧ name ∉ layers.names ∧ resolve scales layers underWay name before =
        .ok (.null, Entries.insert before name .null) ∨
      name ∉ underWay ∧ name ∈ layers.names ∧ resolve scales layers underWay name before =
        resolveAfresh scales layers underWay name before) := by
  have stepped : ∀ next : Memory → Resolving Setting, (get >>= next) before = next before before :=
    fun _ => rfl
  rw [resolve, stepped]
  cases known : Entries.get? before name with
  | some value =>
    left
    exact ⟨value, rfl, rfl⟩
  | none =>
    right
    refine ⟨rfl, ?_⟩
    by_cases circular : name ∈ underWay
    · left
      refine ⟨circular, ?_⟩
      simp only [dif_pos circular]
      rfl
    right
    by_cases defined : name ∈ layers.names
    · right
      refine ⟨circular, defined, ?_⟩
      simp only [dif_neg circular, dif_pos defined, resolveAfresh, Layers.run_inquiry throw_bind,
        bind_assoc]
      rfl
    · left
      refine ⟨circular, defined, ?_⟩
      simp only [dif_neg circular, dif_neg defined]
      rfl

end ClassOrder.Theme
