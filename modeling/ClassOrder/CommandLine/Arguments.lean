import ClassOrder.Text.Segment

/-!
# Options among arguments

A long option begins with two hyphens; its value follows an equals sign or is the next
argument, whatever that looks like. Options of one letter are switches, and several may
share one hyphen. Two hyphens alone end the options, and a hyphen alone is an argument.
Either options may stand among the arguments, or the first argument ends them.
-/
namespace ClassOrder.CommandLine

/-- What an option means: a switch means one thing, and an option with a value means
something for every value. -/
inductive Meaning (α : Type) where
  | switch (meaning : α)
  | valued (meaning : String → α)

/-- The options that a command knows: long ones by name, and switches by letter. -/
structure Vocabulary (α : Type) where
  long : List (String × Meaning α)
  letters : List (Char × α)

/-- Options and arguments apart, both in the order in which they were given. -/
structure Parsed (α : Type) where
  options : List α
  arguments : List String

variable {α : Type}

/-- Whether an argument is written like an option. -/
def looksLikeOption (argument : String) : Bool :=
  match argument.toList with
  | '-' :: _ :: _ => true
  | _ => false

/-- The switches that share one hyphen, if all of their letters are known. -/
def Vocabulary.cluster (vocabulary : Vocabulary α) (argument : String) : Option (List α) :=
  (argument.toList.drop 1).mapM fun letter => vocabulary.letters.lookup letter

/-- The name and the value of an option that is written with an equals sign. -/
def nameAndValue (argument : String) : String × Option String :=
  if argument.toList.contains '=' then
    let (name, value) := Text.splitAtFirst '=' argument
    (name, some value)
  else (argument, none)

/-- Puts options and arguments in front of what was parsed after them. -/
def Parsed.after (options : List α) (arguments : List String) (parsed : Parsed α) : Parsed α :=
  { options := options ++ parsed.options, arguments := arguments ++ parsed.arguments }

/-- Tells options from arguments. There is no answer when an option is unknown, lacks its
value, or has one that it does not take. -/
def Vocabulary.parse (vocabulary : Vocabulary α) (mixed : Bool) :
    List String → Option (Parsed α)
  | [] => some ⟨[], []⟩
  | argument :: rest =>
    if argument == "--" then some ⟨[], rest⟩
    else if looksLikeOption argument then
      let (name, value) := nameAndValue argument
      match vocabulary.long.lookup name, value with
      | some (.switch meaning), none =>
        (vocabulary.parse mixed rest).map (Parsed.after [meaning] [])
      | some (.switch _), some _ => none
      | some (.valued meaning), some text =>
        (vocabulary.parse mixed rest).map (Parsed.after [meaning text] [])
      | some (.valued meaning), none =>
        match rest with
        | [] => none
        | text :: others =>
          (vocabulary.parse mixed others).map (Parsed.after [meaning text] [])
      | none, _ =>
        if "--".toList.isPrefixOf argument.toList then none
        else match vocabulary.cluster argument with
          | some meanings => (vocabulary.parse mixed rest).map (Parsed.after meanings [])
          | none => none
    else if mixed then (vocabulary.parse mixed rest).map (Parsed.after [] [argument])
    else some ⟨[], argument :: rest⟩

end ClassOrder.CommandLine
