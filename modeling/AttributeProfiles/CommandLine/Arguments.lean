import AttributeProfiles.Text.Pieces

/-!
# Arguments

The command line names a command and gives options and names to it. Options for the configuration
and the log are accepted before and after the command, and count for both; after it they win. An
option given twice in one place, an unknown option and a missing or surplus argument are errors of
usage. After two dashes everything is a name. Arguments are read in order, so a question for help is
answered unless an error stands before it.
-/

namespace AttributeProfiles.CommandLine

inductive Command where
  | validate
  | profiles
  | filter (profile : String) (names : List String)
  | toInternal (profile input : String)
  | fromInternal (profile input : String)
deriving DecidableEq, Repr

structure Invocation where
  config : String
  logLevel : String
  command : Command
deriving DecidableEq, Repr

inductive Request where
  | run (invocation : Invocation)
  | version
  | help
deriving DecidableEq, Repr

/-- The options that take a value. -/
inductive Setting where
  | config
  | logLevel
  | profile
  | input
deriving DecidableEq, Repr

def Setting.long : Setting → String
  | .config => "config"
  | .logLevel => "log-level"
  | .profile => "profile"
  | .input => "input"

def Setting.letter? : Setting → Option Char
  | .config => some 'c'
  | .logLevel => none
  | .profile => some 'p'
  | .input => some 'i'

inductive CommandName where
  | validate
  | profiles
  | filter
  | toInternal
  | fromInternal
deriving DecidableEq, Repr

def CommandName.ofText? : String → Option CommandName
  | "validate" => some .validate
  | "profiles" => some .profiles
  | "filter" => some .filter
  | "to-internal" => some .toInternal
  | "from-internal" => some .fromInternal
  | _ => none

/-- What can stand at one level of the command line: options with values, words, and a question for
the version. -/
structure Accepted where
  settings : List Setting
  words : Bool
  version : Bool
deriving DecidableEq, Repr

/-- The options that can stand on both sides of the command. -/
def commonSettings : List Setting := [.config, .logLevel]

/-- What can stand up to the command's name, which is the first word. -/
def Accepted.beforeCommand : Accepted := ⟨commonSettings, true, true⟩

/-- What can stand after a command's name. Only the filter takes names. -/
def CommandName.accepted : CommandName → Accepted
  | .validate | .profiles => ⟨commonSettings, false, false⟩
  | .filter => ⟨.profile :: commonSettings, true, false⟩
  | .toInternal | .fromInternal => ⟨.profile :: .input :: commonSettings, false, false⟩

inductive Form where
  | endOfOptions
  | long (name : String) (value : Option String)
  | letters (first : Char) (others : List Char)
  | word (content : String)
deriving DecidableEq, Repr

/-- The form that an argument has. A single dash is a word. -/
def Form.of (argument : String) : Form :=
  match argument.toList with
  | ['-', '-'] => .endOfOptions
  | '-' :: '-' :: rest =>
    let name := rest.takeWhile (· != '=')
    .long (String.ofList name) <|
      match rest.drop name.length with
      | [] => none
      | _ :: value => some (String.ofList value)
  | '-' :: first :: others => .letters first others
  | _ => .word argument

/-- What has been read at one level of the command line: values of options, words, the option that
waits for its value, and whether only words can follow. -/
structure Progress where
  given : List (Setting × String) := []
  words : List String := []
  waiting : Option Setting := none
  onlyWords : Bool := false
deriving DecidableEq, Repr

namespace Progress

def value? (p : Progress) (s : Setting) : Option String := p.given.lookup s

/-- Give a value to an option, once. The configuration has to have a name. -/
def give? (p : Progress) (s : Setting) (value : String) : Option Progress :=
  if (p.value? s).isSome ∨ (s = .config ∧ value = "") then none
  else some { p with given := (s, value) :: p.given, waiting := none }

/-- What a form of argument makes of what was read so far: more of it, or a request that is answered
at once. -/
inductive Step where
  | more (p : Progress)
  | answered (r : Request)
  | refused
deriving DecidableEq, Repr

def setting (p : Progress) (s : Setting) : Option String → Step
  | some value =>
    match p.give? s value with
    | some p => .more p
    | none => .refused
  | none => .more { p with waiting := some s }

def option (p : Progress) (accepted : Accepted) : Form → Step
  | .endOfOptions => .more { p with onlyWords := true }
  | .long name value =>
    match accepted.settings.find? (·.long = name) with
    | some s => p.setting s value
    | none =>
      if value.isSome then .refused
      else if name = "help" then .answered .help
      else if name = "version" ∧ accepted.version then .answered .version
      else .refused
  | .letters first others =>
    match accepted.settings.find? (·.letter? = some first) with
    | some s =>
      p.setting s <|
        match others with
        | [] => none
        | '=' :: value => some (String.ofList value)
        | value => some (String.ofList value)
    | none =>
      if first = 'h' then .answered .help
      else if first = 'V' ∧ accepted.version then .answered .version
      else .refused
  | .word content =>
    if accepted.words then .more { p with words := p.words ++ [content] } else .refused

/-- The step that an argument makes. An option that waits for its value takes a word. -/
def step (p : Progress) (accepted : Accepted) (argument : String) : Step :=
  if p.onlyWords then p.option accepted (.word argument)
  else
    match p.waiting, Form.of argument with
    | some s, .word content => p.setting s (some content)
    | some _, _ => .refused
    | none, form => p.option accepted form

end Progress

def CommandName.command? (name : CommandName) (p : Progress) : Option Command :=
  match name, p.words with
  | .validate, [] => some .validate
  | .profiles, [] => some .profiles
  | .filter, first :: others => do some (.filter (← p.value? .profile) (first :: others))
  | .toInternal, [] => do some (.toInternal (← p.value? .profile) ((p.value? .input).getD "-"))
  | .fromInternal, [] => do
    some (.fromInternal (← p.value? .profile) ((p.value? .input).getD "-"))
  | _, _ => none

def defaultConfig : String := "./attributes.toml"

def defaultLogLevel : String := "warn"

def afterCommand? (name : CommandName) (outer : Progress) :
    Progress → List String → Option Request
  | p, [] => do
    if p.waiting.isSome then none
    let command ← name.command? p
    let value (s : Setting) (default : String) : String :=
      ((p.value? s).or (outer.value? s)).getD default
    some (.run ⟨value .config defaultConfig, value .logLevel defaultLogLevel, command⟩)
  | p, argument :: rest =>
    match p.step name.accepted argument with
    | .more p => afterCommand? name outer p rest
    | .answered r => some r
    | .refused => none

/-- What the arguments after `help` ask for: help on the program or on one command. -/
def afterHelp? : List String → Option Request
  | [] => some .help
  | [name] => if name = "help" ∨ (CommandName.ofText? name).isSome then some .help else none
  | _ => none

/-- What arguments ask for, if they are in order. The first word that no option takes is the name of
the command. -/
def requestFrom? : Progress → List String → Option Request
  | _, [] => none
  | p, argument :: rest =>
    match p.step .beforeCommand argument with
    | .answered r => some r
    | .refused => none
    | .more next =>
      match next.words with
      | [] => requestFrom? next rest
      | word :: _ =>
        if next.onlyWords then none
        else if word = "help" then afterHelp? rest
        else (CommandName.ofText? word).bind fun name => afterCommand? name p {} rest

def request? (arguments : List String) : Option Request := requestFrom? {} arguments

end AttributeProfiles.CommandLine
