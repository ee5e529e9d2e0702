import ClassOrder.Plugin.Prefixed
import ClassOrder.Selector
import ClassOrder.Theme.Resolution
import ClassOrder.Value.Uses

/-!
# What a plugin can do

A plugin reads a resolved configuration and registers style objects, as components or
as utilities. Registering converts the whole object before anything is added, so an
object that cannot be converted leaves no trace. What was registered before an error
stays registered.
-/
namespace ClassOrder

namespace Config

/-- An entry of a configuration. Only a mapping has entries. -/
def entry (config : Setting) (name : String) : Except Fault (Option Setting) :=
  match config with
  | .mapping entries => .ok (Entries.get? entries name)
  | other => .error (.lacks .lookup other.kindName)

/-- The value at a dotted path of the theme, or the fallback. A null that is found is a
value. -/
def themeAt (config : Setting) (path : String) (fallback : Setting) : Except Fault Setting := do
  let theme := (← entry config "theme").getD (.mapping [])
  return (Theme.walk theme (Text.splitAtEach '.' path)).getD fallback

/-- The entry of a configuration under a value. Only a text names one. -/
def entryAt (config : Setting) (key : Plain) : Except Fault (Option Setting) := do
  match config with
  | .mapping entries =>
    match ← key.asKey with
    | .text name => return Entries.get? entries name
    | _ => return none
  | other => .error (.lacks .lookup other.kindName)

/-- The variants that a configuration names for a plugin, or the fallback. -/
def variantsOf (config : Setting) (plugin : Plain) (fallback : Setting) :
    Except Fault (List Setting) := do
  let variants := (← entry config "variants").getD (.mapping [])
  ((← entryAt variants plugin).getD fallback).items

/-- The prefix of class names, when one is given. -/
def classPrefix? (config : Setting) : Except Fault (Option String) := do
  match ← entry config "prefix" with
  | some value => return if value.isGiven then some value.display else none
  | none => return none

end Config

/-- The prefix of class names applied to one selector. Where a prefix is given, the
selector must be a text. -/
def Config.prefixSelector (config : Setting) (selector : Plain) : Except Fault Plain := do
  match ← Config.classPrefix? config with
  | some classPrefix =>
    return .text (StyleObject.prefixedSelector classPrefix (← selector.asText (.lacks .text)))
  | none => return selector

/-- The style trees of an object under the prefix of class names. -/
def Config.stylesOf (config : Setting) (object : Setting) : Except Fault (List StyleTree) := do
  match ← Config.classPrefix? config with
  | some classPrefix => StyleObject.parse (← StyleObject.prefixed classPrefix object)
  | none => StyleObject.parse object

/-- The texts that a value is taken apart into. -/
def Config.textsOf (value : Setting) : Except Fault (List String) := do
  (← value.items).mapM fun item => item.asText (.misused .joined)

/-- Style trees wrapped in their variants, when there are any. -/
def Config.withVariants (variants : Setting) (trees : List StyleTree) :
    Except Fault (List StyleTree) := do
  if variants.isGiven then
    return [.atRule "variants" (", ".intercalate (← Config.textsOf variants)) trees]
  else return trees

/-- A step of a plugin: it adds to the registered styles and may fail. What it added
before it fails stays. -/
abbrev Registering := ExceptT Fault (StateM Styles)

namespace Registering

/-- A step that registers nothing. -/
def ofExcept {α : Type} (outcome : Except Fault α) : Registering α :=
  ExceptT.mk (pure outcome)

/-- Registers an object's styles as components. -/
def addComponents (config object : Setting) : Registering Unit := do
  let trees ← ofExcept (Config.stylesOf config object)
  modify fun styles => { styles with components := styles.components ++ trees }

/-- Registers an object's styles as utilities, in the given variants. -/
def addUtilities (config object variants : Setting) : Registering Unit := do
  let trees ← ofExcept (Config.stylesOf config object)
  let wrapped ← ofExcept (Config.withVariants variants trees)
  modify fun styles => { styles with utilities := styles.utilities ++ wrapped }

end Registering

/-- A plugin: a program that registers styles, or the name of one that only an engine of
another make can process. A program carries the name it goes by. -/
inductive Plugin where
  | program (name : String) (run : Setting → Registering Unit)
  | named (name : String)

namespace Plugin

/-- Runs a plugin. A name alone cannot be run. -/
def run (plugin : Plugin) (config : Setting) : Registering Unit :=
  match plugin with
  | .program _ run => run config
  | .named name => throw (.misused .called (Value.text name : Plain).kindName)

/-- Runs plugins in turn. -/
def runAll (plugins : List Plugin) (config : Setting) : Registering Unit :=
  plugins.forM fun plugin => plugin.run config

/-- The styles that plugins register, in the order of the plugins. -/
def process (plugins : List Plugin) (config : Setting) : Except Fault Styles :=
  match (runAll plugins config).run {} with
  | (.ok (), styles) => .ok styles
  | (.error fault, _) => .error fault

end Plugin

end ClassOrder
