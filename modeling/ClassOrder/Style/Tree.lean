/-!
# Style trees

A style tree is what a plugin contributes: rules and at-rules with parts inside them,
and declarations. A root holds trees together.
-/
namespace ClassOrder

/-- A tree of style definitions. -/
inductive StyleTree where
  | rule (selector : String) (children : List StyleTree)
  | declaration (name value : String)
  | atRule (name params : String) (children : List StyleTree)
  | root (children : List StyleTree)
  deriving Inhabited

/-- The style trees of one or more plugins, apart by group. -/
structure Styles where
  components : List StyleTree := []
  utilities : List StyleTree := []

end ClassOrder
