import ClassOrder.Theme.Rule

/-!
# Resolving a theme

The themes of several configurations are laid over each other: a base, in which every
entry comes from the first configuration that defines it, and extensions, which are
merged over the base one after the other. An entry's value is the fold of its layers,
with every rule replaced by what it yields. Rules look up entries of the resolved
theme itself, so an override of one entry shows in all that derive from it.

Entries are resolved on demand and remembered, also those that no layer defines. While
the rules of an entry run, its resolution is *under way*, and looking it up again can
only be a circular reference. A rule belongs to an entry that some layer defines, so each
nested resolution puts one more of the defined entries under way, which is why resolving
ends.
-/
namespace ClassOrder.Theme

/-- The layers of a theme: the base, and the extensions that are merged over it, first
one first. -/
structure Layers where
  base : Entries Setting
  extensions : List (Entries Setting)

namespace Layers

/-- The names that some layer defines: those of the base, then the new ones of each
extension. -/
def names (layers : Layers) : List String :=
  layers.extensions.foldl
    (fun known extension =>
      known ++ (Entries.names extension).filter fun name => !known.contains name)
    (Entries.names layers.base)

end Layers

/-- The entries that were resolved so far. -/
abbrev Memory := Entries Setting

/-- A step of resolving: it reads and extends what is remembered, or fails. -/
abbrev Resolving := StateT Memory (Except Fault)

/-- The value at the end of a path of names below a value. -/
def walk : Setting → List String → Option Setting
  | value, [] => some value
  | .mapping entries, name :: rest =>
    match Entries.get? entries name with
    | some inner => walk inner rest
    | none => none
  | _, _ :: _ => none

/-- The names of a dotted path that follow its first name. A path that ends right
after its first dot has none. -/
def innerNames (path : String) : List String :=
  let rest := (Text.splitAtFirst '.' path).2
  if rest == "" then [] else Text.splitAtEach '.' rest

/-- What a lookup answers when it starts from a resolved entry: the value at the path,
or the fallback where there is none or where it is null. -/
def answer (entry : Setting) (path : String) (fallback : Setting) : Setting :=
  match walk entry (innerNames path) with
  | none => fallback
  | some .null => fallback
  | some value => value

/-- Lays a value over another one. Two mappings are merged, anything else is replaced. -/
def overlay (below above : Setting) : Setting :=
  match below, above with
  | .mapping entries, .mapping others => .mapping (Entries.merge entries others)
  | _, _ => above

section

variable {m : Type → Type} [Monad m] [MonadExceptOf Fault m]

/-- The value that a layer gives to an entry: a rule is run once, data stands for
itself. -/
def evaluate (lookUp : String → Setting → m Setting) (value : Setting) : m Setting :=
  match value with
  | .rule rule => rule.run lookUp
  | data => pure data

/-- Merges what each extension says about an entry over a value. -/
def extend (lookUp : String → Setting → m Setting) (name : String) :
    List (Entries Setting) → Setting → m Setting
  | [], value => pure value
  | extension :: rest, value =>
    match Entries.get? extension name with
    | none => extend lookUp name rest value
    | some layer => do
      let above ← evaluate lookUp layer
      extend lookUp name rest (overlay value above)

end

/-- Refuses a scale that is neither null nor a mapping. -/
def checkScale (scales : List String) (name : String) (value : Setting) : Except Fault Unit :=
  match value with
  | .null => .ok ()
  | .mapping _ => .ok ()
  | other =>
    if scales.contains name then
      .error (.config (.partNotAMapping ("theme." ++ name) other.kindName))
    else .ok ()

/-- Remembers the value of an entry, and answers it. -/
def remember (name : String) (value : Setting) : Resolving Setting := do
  modify fun memory => Entries.insert memory name value
  return value

/-- The names that some layer defines, apart from those whose resolution is under way. -/
def Layers.waiting (layers : Layers) (underWay : List String) : List String :=
  layers.names.filter fun name => !underWay.contains name

/-- One more entry under way leaves fewer to wait. -/
theorem Layers.length_waiting_lt {layers : Layers} {underWay : List String} {name : String}
    (fresh : name ∉ underWay) (defined : name ∈ layers.names) :
    (layers.waiting (name :: underWay)).length < (layers.waiting underWay).length := by
  have member : name ∈ layers.waiting underWay := by
    simp [waiting, defined, fresh]
  have kept : layers.waiting (name :: underWay) =
      (layers.waiting underWay).filter fun other => other != name := by
    rw [waiting, waiting, List.filter_filter]
    apply List.filter_congr
    intro other _
    rw [List.contains_cons, Bool.not_or, bne]
  rw [kept]
  exact List.length_filter_lt_length_iff_exists.mpr ⟨name, member, by simp⟩

/-- Resolves one entry, given those whose resolution is under way. An entry that no layer
defines is null. -/
def resolve (scales : List String) (layers : Layers) (underWay : List String) (name : String) :
    Resolving Setting := do
  match Entries.get? (← get) name with
  | some value => return value
  | none =>
    if _ : name ∈ underWay then throw (.config (.circularTheme name))
    else if _ : name ∈ layers.names then
      let lookUp (path : String) (fallback : Setting) : Resolving Setting := do
        let entry ← resolve scales layers (name :: underWay) (Text.splitAtFirst '.' path).1
        return answer entry path fallback
      let start ← evaluate lookUp ((Entries.get? layers.base name).getD .null)
      let value ← extend lookUp name layers.extensions start
      checkScale scales name value
      remember name value
    else remember name .null
termination_by (layers.waiting underWay).length
decreasing_by
  exact Layers.length_waiting_lt ‹_› ‹_›

/-- Resolves entries in turn, each with what was remembered before it. -/
def resolveAll (scales : List String) (layers : Layers) :
    List String → Resolving (Entries Setting)
  | [] => pure []
  | name :: rest => do
    let value ← resolve scales layers [] name
    let others ← resolveAll scales layers rest
    return (name, value) :: others

/-- The resolved theme, in the order of the layers' names. -/
def Layers.resolved (scales : List String) (layers : Layers) : Except Fault (Entries Setting) :=
  (resolveAll scales layers layers.names).run' []

end ClassOrder.Theme
