import ClassOrder.Value.Text
import ClassOrder.Json.Failure
import ClassOrder.Files.Path

/-!
# What can go wrong

Every operation that can fail says why by one of these causes. The causes that a
user is expected to meet, an unusable configuration, a missing file and a plugin that
cannot be resolved, have a wording; so do errors that a plugin or a theme rule raises
on purpose. The others say that a value of one kind was used as another.
-/
namespace ClassOrder

/-- Why a configuration cannot be used. -/
inductive ConfigCause where
  /-- The configuration itself is not a mapping. -/
  | notAMapping (kind : String)
  /-- A part of the configuration that must be a mapping is not. -/
  | partNotAMapping (name kind : String)
  /-- The value of a theme entry depends on itself. -/
  | circularTheme (name : String)
  /-- The file is not JSON. -/
  | notJson (path : Files.Path) (failure : Json.Failure)
  /-- The file holds JSON, but no object. -/
  | notAnObject (path : Files.Path) (kind : String)

/-- The file at fault, when there is one. -/
def ConfigCause.path? : ConfigCause → Option Files.Path
  | notJson path _ => some path
  | notAnObject path _ => some path
  | _ => none

/-- The wording of an unusable configuration. -/
def ConfigCause.message : ConfigCause → String
  | notAMapping kind => "Configuration must be a mapping, got " ++ kind
  | partNotAMapping name kind => name ++ " must be a mapping, got " ++ kind
  | circularTheme name => "Circular theme reference involving " ++ Text.quote name
  | notJson path failure => "Invalid JSON in " ++ path.text ++ ": " ++ failure.message
  | notAnObject path kind =>
    "Config in " ++ path.text ++ " must be a JSON object, got " ++ kind

/-- The uses that a value of the wrong kind was put to. -/
inductive Use where
  | iterated
  | key
  | called
  | searched
  | joined
  | spread
  | separator
  | ordered
  | text

/-- The parts that only values of some kinds have. -/
inductive Facet where
  | entries
  | values
  | lookup
  | text

/-- Why an operation failed. -/
inductive Fault where
  /-- The configuration cannot be used. -/
  | config (cause : ConfigCause)
  /-- No configuration file was found on the way up from the start. -/
  | noConfigFound (fileName : String) (searched : List Files.Path)
  /-- The configuration file that was asked for is not there. -/
  | configMissing (path : Files.Path)
  /-- A plugin cannot be loaded or processed. -/
  | unresolvable (plugin reason : Plain)
  /-- A plugin or a theme rule raised an error of its own. -/
  | raised (message : String)
  /-- A text stands where a style mapping is expected. -/
  | styleIsText (text : String)
  /-- A value was used in a way that its kind does not allow. -/
  | misused (use : Use) (kind : String)
  /-- A value lacks a part that its kind does not have. -/
  | lacks (facet : Facet) (kind : String)
  /-- A class cannot be split at an empty separator. -/
  | emptySeparator
  /-- The bytes of a file are not text. -/
  | undecodable (path : Files.Path)
  /-- A path, or a name on the way, is longer than the system takes. -/
  | pathTooLong (path : Files.Path)
  /-- A path holds the null character. -/
  | nullInPath (path : String)

namespace Use

/-- The wording of a use. -/
def message : Use → String
  | iterated => "iterated over"
  | key => "used as a key"
  | called => "called"
  | searched => "searched or searched for"
  | joined => "joined to text"
  | spread => "spread into a mapping"
  | separator => "used as a separator"
  | ordered => "put in order"
  | text => "used as text"

end Use

namespace Facet

/-- The wording of a part. -/
def message : Facet → String
  | entries => "entries"
  | values => "values"
  | lookup => "lookup"
  | text => "text"

end Facet

namespace Fault

/-- The wording of a plugin that cannot be resolved, with the reason if one is given. -/
def unresolvableMessage (plugin reason : Plain) : String :=
  let subject := "Plugin " ++ plugin.literal ++ " cannot be resolved"
  if reason.isGiven then subject ++ ": " ++ reason.display else subject

/-- The wording of a fault. -/
def message : Fault → String
  | config cause => cause.message
  | noConfigFound fileName _ => "Could not find " ++ fileName
  | configMissing path => "Config file not found: " ++ path.text
  | unresolvable plugin reason => unresolvableMessage plugin reason
  | raised message => message
  | styleIsText text => "Expected a style mapping, got " ++ Text.quote text
  | misused use kind => "a " ++ kind ++ " value cannot be " ++ use.message
  | lacks facet kind => "a " ++ kind ++ " value has no " ++ facet.message
  | emptySeparator => "empty separator"
  | undecodable path => path.text ++ " is not valid UTF-8"
  | pathTooLong path => "path too long: " ++ path.text
  | nullInPath path => "null character in path " ++ Text.quote path

end Fault

end ClassOrder
