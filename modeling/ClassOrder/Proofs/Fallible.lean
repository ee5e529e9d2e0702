/-!
# Steps that succeed

An operation that may fail is a chain of steps, and it succeeds exactly when each step
does. These laws take such a chain apart from its result, so that no proof has to follow
the cases in which a step fails.
-/
namespace ClassOrder.Fallible

variable {ε α β σ : Type}

/-- A chain of two steps succeeds exactly when both do. -/
theorem bind_eq_ok {first : Except ε α} {next : α → Except ε β} {result : β} :
    first >>= next = .ok result ↔ ∃ value, first = .ok value ∧ next value = .ok result := by
  cases first with
  | error fault => simp [bind, Except.bind]
  | ok value => simp [bind, Except.bind]

/-- A chain of two steps fails exactly when one of them does, the second after the first has
succeeded. -/
theorem bind_eq_error {first : Except ε α} {next : α → Except ε β} {fault : ε} :
    first >>= next = .error fault ↔
      first = .error fault ∨ ∃ value, first = .ok value ∧ next value = .error fault := by
  cases first with
  | error other => simp [bind, Except.bind]
  | ok value => simp [bind, Except.bind]

/-- A changed outcome is a success exactly when the outcome is. -/
theorem map_eq_ok {outcome : Except ε α} {change : α → β} {result : β} :
    outcome.map change = .ok result ↔ ∃ value, outcome = .ok value ∧ change value = result := by
  cases outcome with
  | error fault => simp [Except.map]
  | ok value => simp [Except.map]

/-- A changed outcome is a failure exactly when the outcome is. -/
theorem map_eq_error {outcome : Except ε α} {change : α → β} {fault : ε} :
    outcome.map change = .error fault ↔ outcome = .error fault := by
  cases outcome with
  | error other => simp [Except.map]
  | ok value => simp [Except.map]

/-- What is left of an outcome without its fault is the result. -/
theorem toOption_eq_some {outcome : Except ε α} {result : α} :
    outcome.toOption = some result ↔ outcome = .ok result := by
  cases outcome with
  | error fault => simp [Except.toOption]
  | ok value => simp [Except.toOption]

/-- A chain of two steps with a state succeeds exactly when both do, the second from the
state that the first leaves. -/
theorem stateT_bind_eq_ok {first : StateT σ (Except ε) α} {next : α → StateT σ (Except ε) β}
    {before after : σ} {result : β} :
    (first >>= next) before = .ok (result, after) ↔
      ∃ value between, first before = .ok (value, between) ∧
        next value between = .ok (result, after) := by
  change first before >>= (fun step => next step.1 step.2) = .ok (result, after) ↔ _
  rw [bind_eq_ok]
  constructor
  · rintro ⟨⟨value, between⟩, stepped, rest⟩
    exact ⟨value, between, stepped, rest⟩
  · rintro ⟨value, between, stepped, rest⟩
    exact ⟨(value, between), stepped, rest⟩

/-- A chain of two steps with a state fails exactly when one of them does. -/
theorem stateT_bind_eq_error {first : StateT σ (Except ε) α} {next : α → StateT σ (Except ε) β}
    {before : σ} {fault : ε} :
    (first >>= next) before = .error fault ↔ first before = .error fault ∨
      ∃ value between, first before = .ok (value, between) ∧
        next value between = .error fault := by
  change first before >>= (fun step => next step.1 step.2) = .error fault ↔ _
  rw [bind_eq_error, Prod.exists]

/-- A step that leaves the state alone succeeds exactly when its outcome is a success. -/
theorem stateT_lift_eq_ok {outcome : Except ε α} {before after : σ} {result : α} :
    (liftM outcome : StateT σ (Except ε) α) before = .ok (result, after) ↔
      outcome = .ok result ∧ before = after := by
  cases outcome with
  | error fault => simp [liftM, monadLift, MonadLift.monadLift, StateT.lift, bind, Except.bind]
  | ok value =>
    simp [liftM, monadLift, MonadLift.monadLift, StateT.lift, bind, Except.bind, pure, Except.pure]

/-- A step that leaves the state alone fails exactly when its outcome is a failure. -/
theorem stateT_lift_eq_error {outcome : Except ε α} {before : σ} {fault : ε} :
    (liftM outcome : StateT σ (Except ε) α) before = .error fault ↔ outcome = .error fault := by
  cases outcome with
  | error other => simp [liftM, monadLift, MonadLift.monadLift, StateT.lift, bind, Except.bind]
  | ok value =>
    simp [liftM, monadLift, MonadLift.monadLift, StateT.lift, bind, Except.bind, pure, Except.pure]

end ClassOrder.Fallible
