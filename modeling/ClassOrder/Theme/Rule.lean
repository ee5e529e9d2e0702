import ClassOrder.Theme.Scale

/-!
# Rules that derive theme values

A theme value may be a rule. A rule looks up other parts of the theme, each with a
fallback, and builds its value from what it finds. What it finds may hold rules in
turn; those are data to it and are not run. A rule may also go on in a way that
depends on what it found, as far as that can be seen without running anything.

A lookup that fails ends the rule. No rule can handle the fault and go on, so what a
rule yields depends on nothing but the values that its lookups find: not on which
entries happen to be resolved already, nor on which are under way.

Running a rule is defined for any way of looking up and any effect the lookups have,
so that the theme can be resolved while rules run.
-/
namespace ClassOrder

/-- A rule that derives a value from the theme. It is a pure function of what its lookups
find, in the sense that it cannot handle the fault of a lookup that fails: that fault is
the fault of the rule. -/
inductive ThemeRule where
  /-- The value at a path, or the fallback. -/
  | lookup (path : String) (fallback : Value ThemeRule)
  /-- A fixed value. -/
  | constant (value : Value ThemeRule)
  /-- The entries of several mappings, the later over the earlier. -/
  | merge (rules : List ThemeRule)
  /-- The negation of a scale. -/
  | negative (scale : ThemeRule)
  /-- A rule as a value, not run. -/
  | deferred (rule : ThemeRule)
  /-- An error of the theme's own. -/
  | refuse (fault : Fault)
  /-- A lookup that decides how to go on. -/
  | consult (path : String) (fallback : Value ThemeRule) (next : Value Unit → ThemeRule)
  deriving Inhabited

/-- A value in a configuration: nested data whose leaves may be theme rules. -/
abbrev Setting := Value ThemeRule

namespace ThemeRule

variable {m : Type → Type} [Monad m] [MonadExceptOf Fault m]

/-- The entries of a value that is spread into a mapping. -/
def spread (value : Setting) : m (Entries Setting) :=
  match value with
  | .mapping entries => pure entries
  | other => throw (.misused .spread other.kindName)

mutual
/-- Runs a rule. Lookups happen in the order in which the rule names them. -/
def run (lookUp : String → Setting → m Setting) : ThemeRule → m Setting
  | lookup path fallback => lookUp path fallback
  | constant value => pure value
  | merge rules => mergeFrom lookUp rules []
  | negative scale => do
    match Theme.negated (← run lookUp scale) with
    | .ok value => pure value
    | .error fault => throw fault
  | deferred rule => pure (.rule rule)
  | refuse fault => throw fault
  | consult path fallback next => do
    let found ← lookUp path fallback
    run lookUp (next found.outline)

/-- Runs rules in turn and writes what each yields over what came before. -/
def mergeFrom (lookUp : String → Setting → m Setting) :
    List ThemeRule → Entries Setting → m Setting
  | [], below => pure (.mapping below)
  | rule :: rest, below => do
    let above ← spread (← run lookUp rule)
    mergeFrom lookUp rest (Entries.merge below above)
end

end ThemeRule

end ClassOrder
