import AttributeProfiles.Config.Validation
import AttributeProfiles.Mapper.NameIndex
import AttributeProfiles.Template.Reader

/-!
# Mappers

A mapper is a valid configuration together with what is computed from it once: the index of external
names and the compiled templates. Building it is the only step at which a configuration is refused;
everything a mapper does afterwards succeeds.
-/

namespace AttributeProfiles

/-- A template attribute: its name, and for each profile its templates in declaration order. -/
structure DerivedAttribute where
  name : String
  templates : List (String × List Template)
deriving DecidableEq, Repr

/-- The templates of an attribute for a profile. Entries without the marker are no templates and are
left out, but they count for the place that an error gives. -/
def compileEntries (marker : Char) (internal profile : String) (entries : List String) :
    Except ConfigError (List Template) :=
  (entries.zipIdx.filter fun (entry, _) => marker ∈ entry.toList).mapM fun (entry, index) =>
    match Template.compile entry marker with
    | .ok t => .ok t
    | .error cause => .error (.invalidTemplate internal profile index cause)

def compileDerived (marker : Char) (internal : String) (lists : NameLists) :
    Except ConfigError DerivedAttribute := do
  let templates ← lists.entries.mapM fun (profile, entries) => do
    let compiled ← compileEntries marker internal profile entries
    .ok (profile, compiled)
  .ok ⟨internal, templates⟩

def Config.compile (c : Config) : Except ConfigError (List DerivedAttribute) :=
  c.derived.entries.mapM fun (internal, lists) =>
    compileDerived c.options.templateMarker internal lists

/-- A valid configuration with its index and its compiled templates. -/
structure Mapper where
  config : Config
  index : NameIndex
  derived : List DerivedAttribute
  valid : config.violation? = none
  indexed : (NameIndex.ofAttributes config.attributes).value = index
  compiled : config.compile = .ok derived

namespace Mapper

/-- The mapper of a configuration, unless the configuration is invalid or one of its templates does
not compile. -/
def build (c : Config) : Eventful (Except ConfigError Mapper) :=
  match valid : c.violation? with
  | some violation => pure (.error (.invalidValue violation))
  | none => do
    let indexing := NameIndex.ofAttributes c.attributes
    let index ← indexing
    match compiled : c.compile with
    | .error cause => pure (.error cause)
    | .ok derived => do
      Logged.log (.mapperReady c.attributes.size derived.length index.size)
      pure (.ok ⟨c, indexing.value, derived, valid, rfl, compiled⟩)

def options (m : Mapper) : Options := m.config.options

/-- The profiles that have a list of external names, in ascending order. -/
def profiles (m : Mapper) : List String := Names.sort m.index.names

/-- The internal attributes that own these external names of a profile, in ascending order. Names
without an owner are ignored. -/
def filter (m : Mapper) (profile : String) (names : List String) : Eventful (List String) :=
  match m.index.get? profile with
  | some owners => pure (Names.ascending (names.filterMap owners.get?))
  | none => do
    Logged.log (.unknownProfile profile)
    pure []

end Mapper

end AttributeProfiles
