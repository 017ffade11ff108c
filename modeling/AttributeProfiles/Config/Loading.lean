import AttributeProfiles.Config.Json
import AttributeProfiles.Config.Toml
import AttributeProfiles.Config.Validation
import AttributeProfiles.Event
import AttributeProfiles.Files

/-!
# Loading configurations

A configuration file whose name ends in `.json`, in any case, is read as JSON and every other file
as TOML.
-/

namespace AttributeProfiles.Config

inductive Format where
  | json
  | toml
deriving DecidableEq, Repr

def Format.ofPath (path : String) : Format :=
  if (extension? path).map String.toLower = some "json" then .json else .toml

def parse (format : Format) (text : String) : Except ConfigError Config :=
  match format with
  | .json =>
    match ofJson? text with
    | some c => .ok c
    | none => .error (.notAConfiguration "not a configuration in JSON")
  | .toml =>
    match ofToml? text with
    | some c => .ok c
    | none => .error (.notAConfiguration "not a configuration in TOML")

def read (files : Files) (path : String) : Except ConfigError Config :=
  if !files.existsAt path then .error (.fileNotFound path)
  else
    match files.readText path with
    | .ok text => parse (Format.ofPath path) text
    | .error fault => .error (.unreadable fault.message)

def load (files : Files) (path : String) : Eventful (Except ConfigError Config) := do
  Logged.log (.loadingConfiguration path)
  match read files path with
  | .ok c => do
    Logged.log (.configurationParsed c.attributes.size c.derived.size)
    pure (.ok c)
  | .error cause => pure (.error cause)

def loadValid (files : Files) (path : String) : Eventful (Except ConfigError Config) := do
  match ← load files path with
  | .error cause => pure (.error cause)
  | .ok c => pure (c.validate.map fun _ => c)

end AttributeProfiles.Config
