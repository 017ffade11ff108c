import AttributeProfiles.CommandLine.Arguments
import AttributeProfiles.Json.Records
import AttributeProfiles.Json.Tree
import AttributeProfiles.LogFilter
import AttributeProfiles.Mapper.Export
import AttributeProfiles.Mapper.Import
import AttributeProfiles.Mapper.Loading

/-!
# Running commands

A command reads a configuration, and perhaps a record, and writes its answer to the standard output.
What is logged, and the reason of a failure, goes to the error output. The result of a command
depends on the files, the standard input and the arguments only.
-/

namespace AttributeProfiles.CommandLine

/-- Why a command failed: what it was doing, and the causes from there on, each the cause of the one
before it. -/
abbrev Failure := List String

def Failure.message (f : Failure) : String := ": ".intercalate f

structure Result where
  output : String
  failure : Option Failure := none
deriving DecidableEq, Repr

def Result.failed (output : String) (failure : Failure) : Result := ⟨output, some failure⟩

def lines (ls : List String) : String := String.join (ls.map (· ++ "\n"))

/-- What is said about a valid configuration. -/
def summary (c : Config) : List String :=
  ["", "Configuration summary:",
    "  Internal attributes : " ++ c.attributes.size.repr,
    "  Template attributes : " ++ c.derived.size.repr,
    "  Profiles            : " ++ ", ".intercalate c.profiles,
    "  Nested separator    : " ++ c.options.separator.toString,
    "  Multivalue separator: " ++ c.options.multivalueSeparator.toString,
    "  Template marker     : " ++ c.options.templateMarker.toString,
    "", "Configuration is valid."]

def validate (files : Files) (path : String) : Eventful Result := do
  let heading := ["Validating configuration: " ++ path, ""]
  match ← Config.load files path with
  | .error cause =>
    pure (.failed (lines heading) ("failed to parse configuration" :: cause.chain))
  | .ok c => do
    let structured := heading ++ ["  [OK] Structure is valid"]
    match ← Mapper.build c with
    | .error cause =>
      pure (.failed (lines (structured ++ ["  [FAIL] Validation error: " ++ cause.message]))
        ["configuration validation failed"])
    | .ok m =>
      pure ⟨lines (structured ++ ["  [OK] All mappings and templates are valid"] ++
        summary m.config), none⟩

def withMapper (files : Files) (path : String) (use : Mapper → Eventful Result) :
    Eventful Result := do
  match ← Mapper.load files path with
  | .error cause =>
    pure (.failed "" (("failed to load attribute configuration " ++ path) :: cause.chain))
  | .ok m => use m

def kindDescription : Json.Value → String
  | .null => "null"
  | .boolean _ => "a boolean"
  | .number _ => "a number"
  | .text _ => "a string"
  | .list _ => "an array"
  | .object _ => "an object"

def inputText (files : Files) (standardInput : Except ReadFault ByteArray) (input : String) :
    Except Failure String :=
  if input = "-" then
    match Files.readText (fun _ => standardInput) input with
    | .ok text => .ok text
    | .error fault => .error ["failed to read stdin", fault.message]
  else
    match files.readText input with
    | .ok text => .ok text
    | .error fault => .error ["failed to read " ++ input, fault.message]

/-- Read a JSON value from the input and print the value that `use` makes of it. -/
def withInput (files : Files) (standardInput : Except ReadFault ByteArray) (input : String)
    (use : Json.Value → Eventful (Except Failure Json.Value)) : Eventful Result := do
  match inputText files standardInput input with
  | .error failure => pure (.failed "" failure)
  | .ok text => do
    Logged.log (.recordRead text.utf8ByteSize)
    match Json.Value.read? text with
    | none => pure (.failed "" ["input is not valid JSON", "the text does not follow the grammar"])
    | some value =>
      match ← use value with
      | .error failure => pure (.failed "" failure)
      | .ok value => pure ⟨value.laidOut ++ "\n", none⟩

def internalOf (m : Mapper) (profile : String) (value : Json.Value) :
    Eventful (Except Failure Json.Value) :=
  match ExternalRecord.ofValue? value with
  | none => pure (.error ["expected a JSON object, got " ++ kindDescription value])
  | some external => do
    let internal ← m.toInternal profile external
    pure (.ok internal.toValue)

def externalOf (m : Mapper) (profile : String) (value : Json.Value) :
    Eventful (Except Failure Json.Value) :=
  match Record.ofValue? value with
  | none =>
    pure (.error ["internal record must map attribute names to lists of strings",
      "found " ++ kindDescription value ++ " of another shape"])
  | some internal => do
    let external ← m.fromInternal profile internal
    pure (.ok (ExternalRecord.toValue external))

def execute (files : Files) (standardInput : Except ReadFault ByteArray) (config : String) :
    Command → Eventful Result
  | .validate => validate files config
  | .profiles => withMapper files config fun m =>
    pure ⟨lines (if m.profiles.isEmpty then ["No profiles configured."] else m.profiles), none⟩
  | .filter profile names => withMapper files config fun m => do
    let internal ← m.filter profile names
    pure ⟨lines internal, none⟩
  | .toInternal profile input => withMapper files config fun m =>
    withInput files standardInput input (internalOf m profile)
  | .fromInternal profile input => withMapper files config fun m =>
    withInput files standardInput input (externalOf m profile)

structure Outcome where
  exitCode : UInt8
  output : String
  errorOutput : String
deriving DecidableEq, Repr

/-- Run an invocation. The log comes before the reason of a failure. -/
def Invocation.run (i : Invocation) (files : Files)
    (standardInput : Except ReadFault ByteArray) : Outcome :=
  let logged := execute files standardInput i.config i.command
  let log := (LogFilter.ofText i.logLevel).render logged.events
  match logged.value.failure with
  | none => ⟨0, logged.value.output, log⟩
  | some failure => ⟨1, logged.value.output, log ++ "Error: " ++ failure.message ++ "\n"⟩

def versionText : String := "attrmap 0.1.0\n"

def helpText : String := lines
  ["Translate attribute records between internal and external profiles", "",
    "Usage: attrmap [OPTIONS] <COMMAND>", "",
    "Commands:",
    "  validate       Validate the configuration and print a summary",
    "  profiles       List the profiles that have plain attribute mappings",
    "  filter         Translate external attribute names to internal names",
    "  to-internal    Translate an external JSON record to the internal representation",
    "  from-internal  Translate an internal JSON record to an external profile", "",
    "Options:",
    "  -c, --config <CONFIG>        Path to the TOML or JSON attribute configuration",
    "      --log-level <LOG_LEVEL>  Log filter",
    "  -h, --help                   Print help",
    "  -V, --version                Print version"]

/-- What a program that was called wrongly says. -/
def usageText : String :=
  lines ["error: the arguments are not understood", "", "For more information, try '--help'."]

def run (arguments : List String) (files : Files) (standardInput : Except ReadFault ByteArray) :
    Outcome :=
  match request? arguments with
  | none => ⟨2, "", usageText⟩
  | some .version => ⟨0, versionText, ""⟩
  | some .help => ⟨0, helpText, ""⟩
  | some (.run invocation) => invocation.run files standardInput

end AttributeProfiles.CommandLine
