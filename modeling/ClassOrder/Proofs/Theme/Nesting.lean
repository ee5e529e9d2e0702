import ClassOrder.Theme.Resolution

/-!
# How deep resolving nests

Resolving an entry resolves others inside of it. Here nesting is cut off at a given depth,
and whatever one likes happens beyond it. Nothing changes when the depth exceeds the number
of defined names: a resolution that nested deeper would have met a circular reference
before.
-/
namespace ClassOrder.Theme

/-- Resolves one entry with a bound on how deep resolutions nest, and something else beyond
the bound. -/
def resolveWithin (beyond : Resolving Setting) (scales : List String) (layers : Layers) :
    Nat → List String → String → Resolving Setting
  | 0, _, _ => beyond
  | depth + 1, underWay, name => do
    match Entries.get? (← get) name with
    | some value => return value
    | none =>
      if name ∈ underWay then throw (.config (.circularTheme name))
      else if name ∈ layers.names then
        let lookUp (path : String) (fallback : Setting) : Resolving Setting := do
          let entry ← resolveWithin beyond scales layers depth (name :: underWay)
            (Text.splitAtFirst '.' path).1
          return answer entry path fallback
        let start ← evaluate lookUp ((Entries.get? layers.base name).getD .null)
        let value ← extend lookUp name layers.extensions start
        checkScale scales name value
        remember name value
      else remember name .null

/-- The bound is never reached when it exceeds the number of names that wait. -/
theorem resolveWithin_eq_resolve (beyond : Resolving Setting) (scales : List String)
    (layers : Layers) {depth : Nat} {underWay : List String}
    (enough : (layers.waiting underWay).length < depth) (name : String) :
    resolveWithin beyond scales layers depth underWay name =
      resolve scales layers underWay name := by
  induction depth generalizing underWay name with
  | zero => omega
  | succ depth inductionHypothesis =>
    rw [resolveWithin, resolve]
    apply bind_congr
    intro memory
    cases Entries.get? memory name with
    | some value => rfl
    | none =>
      by_cases circular : name ∈ underWay
      · simp only [circular, if_true, dif_pos]
      · by_cases defined : name ∈ layers.names
        · have fewer := Layers.length_waiting_lt circular defined
          have nested := @inductionHypothesis (name :: underWay) (by omega)
          simp only [circular, defined, if_true, if_false, dif_pos, dif_neg, not_false_iff, nested]
        · simp only [circular, defined, if_false, dif_neg, not_false_iff]

/-- Resolutions nest at most one deeper than there are defined names. -/
theorem resolveWithin_names (beyond : Resolving Setting) (scales : List String) (layers : Layers)
    (name : String) :
    resolveWithin beyond scales layers (layers.names.length + 1) [] name =
      resolve scales layers [] name := by
  refine resolveWithin_eq_resolve beyond scales layers ?_ name
  have waiting : (layers.waiting []).length ≤ layers.names.length := List.length_filter_le _ _
  omega

end ClassOrder.Theme
