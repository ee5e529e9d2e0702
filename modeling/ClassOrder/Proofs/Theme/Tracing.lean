import ClassOrder.Proofs.Entries
import ClassOrder.Proofs.Fallible
import ClassOrder.Proofs.Theme.Inquiry

/-!
# What a step of resolving depends on

While a theme is resolved, rules run in the middle of each other, and their lookups change
what is remembered. None of this reaches a rule but the answers that it is given. A step is
*traced* when what it yields can be had once more without any effect, from any way of
answering that repeats what is remembered after the step. As nothing is ever forgotten, a
chain of traced steps is traced, and so are the answers to an inquiry whose lookups are.
-/
namespace ClassOrder.Theme

open Fallible

/-- Whatever is remembered is answered as it is remembered. -/
def Repeats (answers : Answering) (memory : Memory) : Prop :=
  ∀ path fallback entry, Entries.get? memory (Text.splitAtFirst '.' path).1 = some entry →
    answers path fallback = .ok (answer entry path fallback)

/-- What is remembered before is remembered afterwards. -/
def Grows (before after : Memory) : Prop :=
  ∀ name value, Entries.get? before name = some value → Entries.get? after name = some value

/-- A memory grows from itself. -/
theorem Grows.refl (memory : Memory) : Grows memory memory :=
  fun _ _ found => found

/-- A memory that grows twice has grown. -/
theorem Grows.trans {first second third : Memory} (earlier : Grows first second)
    (later : Grows second third) : Grows first third :=
  fun name value found => later name value (earlier name value found)

/-- What repeats a memory repeats each one that it grew from. -/
theorem Repeats.earlier {answers : Answering} {before after : Memory} (grows : Grows before after)
    (repeats : Repeats answers after) : Repeats answers before :=
  fun path fallback entry found => repeats path fallback entry (grows _ entry found)

variable {α β : Type} {Holds : Memory → Prop}

/-- A step that keeps an invariant of the memory, forgets nothing, and yields what the
second argument yields from every way of answering that repeats the memory it leaves. -/
def Traced (Holds : Memory → Prop) (step : Resolving α) (again : Answering → Except Fault α) :
    Prop :=
  ∀ before value after, Holds before → step before = .ok (value, after) →
    Holds after ∧ Grows before after ∧ ∀ answers, Repeats answers after → again answers = .ok value

/-- A value on its own is traced. -/
theorem traced_pure (value : α) : Traced Holds (pure value) fun _ => pure value := by
  intro before result after holds stepped
  cases stepped
  exact ⟨holds, Grows.refl _, fun _ _ => rfl⟩

/-- A failure is traced: it yields nothing that could differ. -/
theorem traced_throw (fault : Fault) (again : Answering → Except Fault α) :
    Traced Holds (throw fault) again := by
  intro before result after _ stepped
  cases stepped

/-- A chain of traced steps is traced: what repeats the last memory repeats those in
between. -/
theorem traced_bind {first : Resolving α} {next : α → Resolving β}
    {firstAgain : Answering → Except Fault α} {nextAgain : α → Answering → Except Fault β}
    (firstTraced : Traced Holds first firstAgain)
    (nextTraced : ∀ value, Traced Holds (next value) (nextAgain value)) :
    Traced Holds (first >>= next)
      fun answers => firstAgain answers >>= fun value => nextAgain value answers := by
  intro before result after holds stepped
  obtain ⟨value, between, ran, continued⟩ := stateT_bind_eq_ok.mp stepped
  obtain ⟨held, grows, again⟩ := firstTraced before value between holds ran
  obtain ⟨holdsAfter, growsFurther, andAgain⟩ :=
    nextTraced value between result after held continued
  refine ⟨holdsAfter, grows.trans growsFurther, ?_⟩
  intro answers repeats
  exact bind_eq_ok.mpr
    ⟨value, again answers (repeats.earlier growsFurther), andAgain answers repeats⟩

/-- Answering an inquiry is traced when the lookups are. -/
theorem Inquiry.run_traced {lookUp : String → Setting → Resolving Setting}
    (lookUps : ∀ path fallback,
      Traced Holds (lookUp path fallback) fun answers => answers path fallback)
    (inquiry : Inquiry α) :
    Traced Holds (inquiry.run lookUp) fun answers => inquiry.run answers := by
  induction inquiry with
  | done value => exact traced_pure value
  | failed fault => exact traced_throw fault _
  | ask path fallback next inductionHypothesis =>
    exact traced_bind (lookUps path fallback) inductionHypothesis

end ClassOrder.Theme
