import AttributeProfiles.Names
import AttributeProfiles.Table
import AttributeProfiles.Template.Basic

/-!
# Configurations

A configuration says, for every internal attribute and every profile, under which external names the
attribute goes there. A second table derives attributes from templates. The options are the three
characters that structure nested names and template output. Tables keep the order of declaration.
-/

namespace AttributeProfiles

/-- For each profile, the external names of an attribute, the preferred ones first. -/
abbrev NameLists := Table (List String)

abbrev AttributeTable := Table NameLists

/-- The characters that drive nested names and templates. -/
structure Options where
  separator : Char := '.'
  multivalueSeparator : Char := ';'
  templateMarker : Char := '$'
deriving DecidableEq, Repr

structure Config where
  attributes : AttributeTable
  templateAttributes : Option AttributeTable := none
  options : Options := {}

namespace Config

instance : DecidableEq Config := fun a b =>
  decidable_of_iff
    (a.attributes = b.attributes ∧ a.templateAttributes = b.templateAttributes ∧
      a.options = b.options)
    (by cases a; cases b; simp)

/-- The template attributes, none where the section is absent. -/
def derived (c : Config) : AttributeTable := c.templateAttributes.getD .empty

/-- The profiles that either section mentions, in ascending order. -/
def profiles (c : Config) : List String :=
  Names.ascending ((c.attributes.entries ++ c.derived.entries).flatMap fun e => e.2.names)

end Config

/-- The two tables of a configuration. -/
inductive Section where
  | attributes
  | templateAttributes
deriving DecidableEq, Repr

def Section.name : Section → String
  | .attributes => "attributes"
  | .templateAttributes => "template_attributes"

def entryPlace (s : Section) (internal profile : String) (index : Nat) : String :=
  s.name ++ "." ++ internal ++ "." ++ profile ++ "[" ++ index.repr ++ "]"

inductive Violation where
  | emptyInternalName (table : Section)
  | emptyExternalName (table : Section) (internal profile : String) (index : Nat)
  | repeatedOption (options : Options)
deriving DecidableEq, Repr

def Violation.field : Violation → String
  | .emptyInternalName table => table.name
  | .emptyExternalName table internal profile index => entryPlace table internal profile index
  | .repeatedOption _ => "options"

def Violation.detail : Violation → String
  | .emptyInternalName _ => "internal attribute name must not be empty"
  | .emptyExternalName .. => "external name must not be empty"
  | .repeatedOption o =>
    "separator '" ++ o.separator.toString ++ "', multivalue_separator '" ++
      o.multivalueSeparator.toString ++ "' and template_marker '" ++ o.templateMarker.toString ++
      "' must be distinct"

inductive ConfigError where
  | fileNotFound (path : String)
  | unreadable (reason : String)
  | notAConfiguration (reason : String)
  | invalidValue (violation : Violation)
  | invalidTemplate (internal profile : String) (index : Nat) (cause : Template.Error)
deriving DecidableEq, Repr

def ConfigError.message : ConfigError → String
  | .fileNotFound path => "configuration file not found: " ++ path
  | .unreadable reason => "configuration I/O error: " ++ reason
  | .notAConfiguration reason => "configuration parse error: " ++ reason
  | .invalidValue violation =>
    "invalid configuration value for '" ++ violation.field ++ "': " ++ violation.detail
  | .invalidTemplate internal profile index cause =>
    "invalid template for '" ++ entryPlace .templateAttributes internal profile index ++ "': " ++
      cause.message

/-- The wordings of an error and of what caused it, the cause last. Only a file that cannot be read
has a cause of its own. -/
def ConfigError.chain (e : ConfigError) : List String :=
  match e with
  | .unreadable reason => [e.message, reason]
  | _ => [e.message]

end AttributeProfiles
