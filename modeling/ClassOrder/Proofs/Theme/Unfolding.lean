import ClassOrder.Proofs.Theme.Settling

/-!
# Resolving without a memory

The value of an entry can be had by plain recursion: its inquiry is answered by unfolding
the entries that it asks for, down to some depth. Nothing is remembered and nothing is
under way, so the same entry may be unfolded many times over. Remembering only saves work:
an entry is resolved to a value exactly when it unfolds to this value at some depth. The
depth is the measure by which resolving is seen to succeed, because an entry that unfolds
cannot be met again further down at the least depth at which it does.

As unfolding mentions no order, a theme is resolved alike from all layers that say the same,
whatever the order in which they say it.
-/
namespace ClassOrder.Theme

open Fallible

/-! ## Answers that confirm others -/

/-- A way of answering confirms another one when it gives all of its answers. -/
def Confirms (further answers : Answering) : Prop :=
  ∀ path fallback value, answers path fallback = .ok value → further path fallback = .ok value

namespace Inquiry

variable {α : Type} {answers further : Answering} {value : α}

/-- What comes of an inquiry comes of it with answers that confirm the first ones. -/
theorem run_confirmed (confirms : Confirms further answers) (inquiry : Inquiry α)
    (ran : inquiry.run answers = .ok value) : inquiry.run further = .ok value := by
  induction inquiry with
  | done result => exact ran
  | failed fault => cases ran
  | ask path fallback next inductionHypothesis =>
    obtain ⟨found, told, ran⟩ := bind_eq_ok.mp ran
    exact bind_eq_ok.mpr ⟨found, confirms path fallback found told, inductionHypothesis found ran⟩

/-- With answers that confirm the first ones an inquiry asks at least for the same. -/
theorem asked_confirmed (confirms : Confirms further answers) (inquiry : Inquiry α) :
    ∀ path ∈ inquiry.asked answers, path ∈ inquiry.asked further := by
  induction inquiry with
  | done result => simp [asked]
  | failed fault => simp [asked]
  | ask path fallback next inductionHypothesis =>
    intro other member
    rw [asked] at member ⊢
    rcases List.mem_cons.mp member with rfl | later
    · exact List.mem_cons_self
    · cases told : answers path fallback with
      | error fault => simp [told] at later
      | ok found =>
        rw [told] at later
        rw [confirms path fallback found told]
        exact List.mem_cons_of_mem _ (inductionHypothesis found other later)

/-- An inquiry that something comes of has asked only for what was answered, also where more
could be. -/
theorem answered_of_asked (confirms : Confirms further answers) (inquiry : Inquiry α)
    (ran : inquiry.run answers = .ok value) :
    ∀ path ∈ inquiry.asked further, ∃ fallback found, answers path fallback = .ok found := by
  induction inquiry with
  | done result => simp [asked]
  | failed fault => simp [asked]
  | ask path fallback next inductionHypothesis =>
    obtain ⟨found, told, ran⟩ := bind_eq_ok.mp ran
    intro other member
    rw [asked, confirms path fallback found told] at member
    rcases List.mem_cons.mp member with rfl | later
    · exact ⟨fallback, found, told⟩
    · exact inductionHypothesis found ran other later

/-- Lookups that give what some answers say, and keep an invariant of the memory, make of an
inquiry what comes of it with these answers. -/
theorem run_of_answered {Holds : Memory → Prop} {lookUp : String → Setting → Resolving Setting}
    (lookUps : ∀ path fallback found, answers path fallback = .ok found → ∀ before, Holds before →
      ∃ after, lookUp path fallback before = .ok (found, after) ∧ Holds after)
    (inquiry : Inquiry α) (ran : inquiry.run answers = .ok value) {before : Memory}
    (holds : Holds before) :
    ∃ after, inquiry.run lookUp before = .ok (value, after) ∧ Holds after := by
  induction inquiry generalizing before with
  | done result =>
    cases ran
    exact ⟨before, rfl, holds⟩
  | failed fault => cases ran
  | ask path fallback next inductionHypothesis =>
    obtain ⟨found, told, ran⟩ := bind_eq_ok.mp ran
    obtain ⟨between, looked, held⟩ := lookUps path fallback found told before holds
    obtain ⟨after, continued, holdsAfter⟩ := inductionHypothesis found ran held
    exact ⟨after, stateT_bind_eq_ok.mpr ⟨found, between, looked, continued⟩, holdsAfter⟩

end Inquiry

/-! ## Unfolding -/

variable {scales : List String} {layers : Layers} {name : String} {value : Setting}
  {depth : Nat} {memory before after : Memory}

/-- The value of an entry by plain recursion, to a depth. -/
def Layers.unfold (scales : List String) (layers : Layers) : Nat → String → Except Fault Setting
  | 0, name => .error (.config (.circularTheme name))
  | depth + 1, name => do
    let value ← layers.settle (fun path fallback => do
      let entry ← unfold scales layers depth (Text.splitAtFirst '.' path).1
      return answer entry path fallback) name
    checkScale scales name value
    return value

/-- The answers that unfolding to a depth gives. -/
def Layers.answersWithin (scales : List String) (layers : Layers) (depth : Nat) : Answering :=
  fun path fallback => do
    let entry ← layers.unfold scales depth (Text.splitAtFirst '.' path).1
    return answer entry path fallback

/-- An entry unfolds to what comes of its inquiry one level further down, if this passes the
check. -/
theorem unfold_succ_eq_ok :
    layers.unfold scales (depth + 1) name = .ok value ↔
      layers.settle (layers.answersWithin scales depth) name = .ok value ∧
        checkScale scales name value = .ok () := by
  change (layers.settle (layers.answersWithin scales depth) name >>= _) = _ ↔ _
  rw [bind_eq_ok]
  constructor
  · rintro ⟨found, settled, checked⟩
    obtain ⟨⟨⟩, passed, ⟨⟩⟩ := bind_eq_ok.mp checked
    exact ⟨settled, passed⟩
  · rintro ⟨settled, passed⟩
    exact ⟨value, settled, bind_eq_ok.mpr ⟨(), passed, rfl⟩⟩

/-- What unfolds has passed the check. -/
theorem checkScale_of_unfold (unfolded : layers.unfold scales depth name = .ok value) :
    checkScale scales name value = .ok () := by
  cases depth with
  | zero => cases unfolded
  | succ depth => exact (unfold_succ_eq_ok.mp unfolded).2

/-- What an unfolded entry answers. -/
theorem answersWithin_eq_ok {path : String} {fallback found : Setting} :
    layers.answersWithin scales depth path fallback = .ok found ↔
      ∃ entry, layers.unfold scales depth (Text.splitAtFirst '.' path).1 = .ok entry ∧
        answer entry path fallback = found := by
  rw [Layers.answersWithin, bind_eq_ok]
  simp only [pure, Except.pure, Except.ok.injEq]

/-- What an entry unfolds to at some depth it unfolds to at every greater depth. -/
theorem unfold_of_le {deeper : Nat} (below : depth ≤ deeper)
    (unfolded : layers.unfold scales depth name = .ok value) :
    layers.unfold scales deeper name = .ok value := by
  induction depth generalizing deeper name value with
  | zero => cases unfolded
  | succ depth inductionHypothesis =>
    cases deeper with
    | zero => omega
    | succ deeper =>
      -- This is the induction hypothesis for all answers at once.
      have confirms :
          Confirms (layers.answersWithin scales deeper) (layers.answersWithin scales depth) := by
        intro path fallback found told
        obtain ⟨entry, unfolded, same⟩ := answersWithin_eq_ok.mp told
        have unfoldedToo := inductionHypothesis (Nat.le_of_succ_le_succ below) unfolded
        exact answersWithin_eq_ok.mpr ⟨entry, unfoldedToo, same⟩
      obtain ⟨settled, passed⟩ := unfold_succ_eq_ok.mp unfolded
      rw [layers.settle_eq_run] at settled
      refine unfold_succ_eq_ok.mpr ⟨?_, passed⟩
      rw [layers.settle_eq_run]
      exact Inquiry.run_confirmed confirms _ settled

/-- The answers at some depth are given at every greater depth. -/
theorem answersWithin_confirms {deeper : Nat} (below : depth ≤ deeper) :
    Confirms (layers.answersWithin scales deeper) (layers.answersWithin scales depth) := by
  intro path fallback found told
  obtain ⟨entry, unfolded, same⟩ := answersWithin_eq_ok.mp told
  exact answersWithin_eq_ok.mpr ⟨entry, unfold_of_le below unfolded, same⟩

/-- An entry unfolds to one value only. -/
theorem unfold_unique {other : Nat} {known : Setting}
    (unfolded : layers.unfold scales depth name = .ok value)
    (unfoldedToo : layers.unfold scales other name = .ok known) : value = known := by
  have here := unfold_of_le (Nat.le_max_left depth other) unfolded
  have there := unfold_of_le (Nat.le_max_right depth other) unfoldedToo
  exact Except.ok.inj (here.symm.trans there)

/-- An entry that no layer defines unfolds to null. -/
theorem unfold_undefined (undefined : name ∉ layers.names) :
    layers.unfold scales (depth + 1) name = .ok .null :=
  unfold_succ_eq_ok.mpr ⟨layers.settle_undefined _ undefined, rfl⟩

/-! ## What is resolved unfolds -/

/-- At some depth all that is remembered unfolds to what is remembered. -/
def Unfolds (scales : List String) (layers : Layers) (memory : Memory) : Prop :=
  ∃ depth, ∀ name value, Entries.get? memory name = some value →
    layers.unfold scales depth name = .ok value

/-- Where nothing is remembered, everything remembered unfolds. -/
theorem unfolds_nil : Unfolds scales layers [] := by
  refine ⟨0, ?_⟩
  intro name value found
  cases found

/-- A remembered entry unfolds. -/
theorem Unfolds.exists_depth (unfolds : Unfolds scales layers memory)
    (known : Entries.get? memory name = some value) :
    ∃ depth, layers.unfold scales depth name = .ok value := by
  obtain ⟨depth, unfolds⟩ := unfolds
  exact ⟨depth, unfolds name value known⟩

/-- What an entry unfolds to may be remembered. -/
theorem Unfolds.insert (unfolds : Unfolds scales layers memory)
    (unfolded : layers.unfold scales depth name = .ok value) :
    Unfolds scales layers (Entries.insert memory name value) := by
  obtain ⟨reached, unfolds⟩ := unfolds
  refine ⟨max reached depth, ?_⟩
  intro other found known
  rcases Entries.get?_insert_cases known with ⟨rfl, rfl⟩ | ⟨_, earlier⟩
  · exact unfold_of_le (Nat.le_max_right reached depth) unfolded
  · exact unfold_of_le (Nat.le_max_left reached depth) (unfolds other found earlier)

/-- The fold of an entry's layers over a memory that unfolds is what the entry unfolds to, one
level further up. -/
theorem unfolds_survivesRemembering (scales : List String) (layers : Layers) :
    SurvivesRemembering scales layers (Unfolds scales layers) := by
  intro memory name value unfolds fold passed
  obtain ⟨depth, reached⟩ := unfolds
  have repeats : Repeats (layers.answersWithin scales depth) memory := by
    intro path fallback entry known
    exact answersWithin_eq_ok.mpr ⟨entry, reached _ entry known, rfl⟩
  have unfolded : layers.unfold scales (depth + 1) name = .ok value :=
    unfold_succ_eq_ok.mpr ⟨fold _ repeats, passed⟩
  refine ⟨Unfolds.insert ⟨depth, reached⟩ unfolded, grows_insert ?_⟩
  intro known remembered
  exact unfold_unique (reached name known remembered) unfolded

/-- A resolved entry unfolds to the value that it is resolved to. -/
theorem unfold_of_resolve {underWay : List String} (unfolds : Unfolds scales layers before)
    (resolved : resolve scales layers underWay name before = .ok (value, after)) :
    Unfolds scales layers after ∧ ∃ depth, layers.unfold scales depth name = .ok value := by
  obtain ⟨unfolds, _, known⟩ :=
    resolve_remembers (unfolds_survivesRemembering scales layers) underWay name unfolds resolved
  exact ⟨unfolds, unfolds.exists_depth known⟩

/-! ## What unfolds is resolved -/

/-- An entry that unfolds is resolved to its value, from every memory that unfolds, unless
something is under way that unfolds no deeper.

Proof: by induction on the depth, which may be taken to be the least one. Then the entry itself
does not unfold at the depth of the entries that it asks for, and may be under way while these
are resolved. -/
theorem resolve_of_unfold {underWay : List String}
    (unfolded : layers.unfold scales depth name = .ok value)
    (deeper : ∀ other ∈ underWay, ∀ known, layers.unfold scales depth other ≠ .ok known)
    (unfolds : Unfolds scales layers before) :
    ∃ after, resolve scales layers underWay name before = .ok (value, after) ∧
      Unfolds scales layers after := by
  induction depth generalizing underWay name value before with
  | zero => cases unfolded
  | succ depth inductionHypothesis =>
    have deeperToo : ∀ other ∈ underWay, ∀ known, layers.unfold scales depth other ≠ .ok known :=
      fun other member known earlier =>
        deeper other member known (unfold_of_le depth.le_succ earlier)
    by_cases shallower : ∃ known, layers.unfold scales depth name = .ok known
    · obtain ⟨known, earlier⟩ := shallower
      cases unfold_unique earlier unfolded
      exact inductionHypothesis earlier deeperToo unfolds
    rcases resolve_cases scales layers underWay name before with
      ⟨remembered, known, step⟩ | ⟨missing, ⟨circular, step⟩ | ⟨_, undefined, step⟩ |
        ⟨circular, defined, step⟩⟩
    · obtain ⟨reached, again⟩ := unfolds.exists_depth known
      cases unfold_unique again unfolded
      exact ⟨before, step, unfolds⟩
    · exact absurd unfolded (deeper name circular value)
    · have null : layers.unfold scales (depth + 1) name = .ok .null := unfold_undefined undefined
      cases null.symm.trans unfolded
      exact ⟨_, step, unfolds.insert unfolded⟩
    · have lookUps : ∀ path fallback found,
          layers.answersWithin scales depth path fallback = .ok found →
            ∀ between, Unfolds scales layers between → ∃ last,
              lookUpUnder scales layers (name :: underWay) path fallback between =
                .ok (found, last) ∧ Unfolds scales layers last := by
        intro path fallback found told between unfolds
        obtain ⟨entry, nested, rfl⟩ := answersWithin_eq_ok.mp told
        have outside : ∀ other ∈ name :: underWay, ∀ known,
            layers.unfold scales depth other ≠ .ok known :=
          List.forall_mem_cons.mpr ⟨fun known same => shallower ⟨known, same⟩, deeperToo⟩
        obtain ⟨last, looked, unfolds⟩ := inductionHypothesis nested outside unfolds
        exact ⟨last, stateT_bind_eq_ok.mpr ⟨entry, last, looked, rfl⟩, unfolds⟩
      obtain ⟨settled, passed⟩ := unfold_succ_eq_ok.mp unfolded
      rw [layers.settle_eq_run] at settled
      obtain ⟨last, ran, unfolds⟩ := Inquiry.run_of_answered lookUps _ settled unfolds
      refine ⟨Entries.insert last name value, step.trans ?_, unfolds.insert unfolded⟩
      exact stateT_bind_eq_ok.mpr ⟨value, last, ran,
        stateT_bind_eq_ok.mpr ⟨(), last, stateT_lift_eq_ok.mpr ⟨passed, rfl⟩, rfl⟩⟩

/-- Entries that unfold are resolved in turn to their values. -/
theorem resolveAll_of_unfold {theme : Entries Setting}
    (unfolded : ∀ entry ∈ theme, ∃ depth, layers.unfold scales depth entry.1 = .ok entry.2)
    (unfolds : Unfolds scales layers before) :
    ∃ after, resolveAll scales layers (Entries.names theme) before = .ok (theme, after) := by
  induction theme generalizing before with
  | nil => exact ⟨before, rfl⟩
  | cons entry rest inductionHypothesis =>
    obtain ⟨⟨depth, first⟩, others⟩ := List.forall_mem_cons.mp unfolded
    have noneUnderWay : ∀ other ∈ ([] : List String), ∀ known,
        layers.unfold scales depth other ≠ .ok known := by simp
    obtain ⟨between, resolved, unfolds⟩ := resolve_of_unfold first noneUnderWay unfolds
    obtain ⟨after, following⟩ := inductionHypothesis others unfolds
    exact ⟨after, stateT_bind_eq_ok.mpr ⟨entry.2, between, resolved,
      stateT_bind_eq_ok.mpr ⟨rest, after, following, rfl⟩⟩⟩

/-- A theme is what its layers resolve to exactly when it has their names, in their order, and
every entry unfolds to its value. -/
theorem Layers.resolved_eq_ok_iff {theme : Entries Setting} :
    layers.resolved scales = .ok theme ↔ Entries.names theme = layers.names ∧
      ∀ entry ∈ theme, ∃ depth, layers.unfold scales depth entry.1 = .ok entry.2 := by
  constructor
  · intro resolved
    obtain ⟨⟨theme, memory⟩, ran, ⟨⟩⟩ := map_eq_ok.mp resolved
    obtain ⟨unfolds, _, named, remembered⟩ :=
      resolveAll_remembers (unfolds_survivesRemembering scales layers) _ unfolds_nil ran
    exact ⟨named, fun entry member => unfolds.exists_depth (remembered _ _ member)⟩
  · rintro ⟨named, unfolded⟩
    obtain ⟨after, ran⟩ := resolveAll_of_unfold unfolded unfolds_nil
    rw [named] at ran
    exact map_eq_ok.mpr ⟨(theme, after), ran, rfl⟩

/-! ## Themes of data -/

/-- Empty extensions add no names. -/
theorem Layers.names_of_empty (empty : ∀ extension ∈ layers.extensions, extension = []) :
    layers.names = Entries.names layers.base := by
  refine List.foldlRecOn (motive := (· = Entries.names layers.base)) layers.extensions _ rfl ?_
  rintro known rfl extension member
  rw [empty extension member]
  exact List.append_nil _

/-- A theme of data that passes the check is what it resolves to, when the extensions are empty. -/
theorem Layers.resolved_of_data {theme : Entries Setting}
    (base : layers.base = theme) (empty : ∀ extension ∈ layers.extensions, extension = [])
    (once : (Entries.names theme).Nodup) (data : ∀ entry ∈ theme, ∀ rule, entry.2 ≠ .rule rule)
    (passes : ∀ entry ∈ theme, checkScale scales entry.1 entry.2 = .ok ()) :
    layers.resolved scales = .ok theme := by
  have absent : ∀ name, ∀ extension ∈ layers.extensions, Entries.get? extension name = none := by
    intro name extension member
    rw [empty extension member]
    rfl
  have named : Entries.names theme = layers.names := by
    rw [Layers.names_of_empty empty, base]
  refine Layers.resolved_eq_ok_iff.mpr ⟨named, ?_⟩
  intro entry member
  have found : Entries.get? layers.base entry.1 = some entry.2 := by
    rw [base]
    exact (Entries.get?_eq_some_iff once).mpr member
  refine ⟨1, unfold_succ_eq_ok.mpr ⟨?_, passes entry member⟩⟩
  rw [settle, found, Option.getD_some, evaluate_of_ne_rule (data entry member)]
  exact extend_of_absent _ (absent entry.1) entry.2

end ClassOrder.Theme
