import AttributeProfiles.Logged
import AttributeProfiles.Template.Basic
import AttributeProfiles.Text.Quoted

/-!
# Events

What happens while a configuration is loaded, a mapper is built and records are mapped is told by
events. An event has a level, a wording and named fields, and it belongs to the part of the program
that log filters know it by.
-/

namespace AttributeProfiles

/-- How much an event matters. Levels ascend from what matters most. -/
inductive Level where
  | error
  | warn
  | info
  | debug
  | trace
deriving DecidableEq, Repr

/-- The rank of a level: a filter that shows a level shows those of lower rank. -/
def Level.rank : Level → Nat
  | .error => 1
  | .warn => 2
  | .info => 3
  | .debug => 4
  | .trace => 5

def Level.name : Level → String
  | .error => "ERROR"
  | .warn => "WARN"
  | .info => "INFO"
  | .debug => "DEBUG"
  | .trace => "TRACE"

/-- The content of a field. A text is shown as it is; a name is quoted in log lines. -/
inductive Field where
  | text (content : String)
  | name (content : String)
  | names (items : List String)
  | count (n : Nat)
deriving DecidableEq, Repr

def Field.plain : Field → String
  | .text content => content
  | .name content => content
  | .names items => Text.quotedList items
  | .count n => n.repr

/-- The content of a field in a log line. -/
def Field.inLine : Field → String
  | .name content => Text.quoted content
  | field => field.plain

inductive Event where
  | loadingConfiguration (path : String)
  | configurationParsed (attributes templateAttributes : Nat)
  | mapperReady (attributes templateAttributes profiles : Nat)
  | nameTaken (profile external previous internal : String)
  | unknownProfile (profile : String)
  | unmappedForImport (internal profile : String)
  | noValueFound (external : List String)
  | attributeImported (external : List String) (internal : String) (values : List String)
  | templateRendered (template output : String)
  | templateFailed (internal template : String) (cause : Template.Error)
  | derivedAttributeSet (internal : String) (values : List String)
  | mappedValueKept (internal : String)
  | unmappedAttribute (internal : String)
  | unmappedForExport (internal profile : String)
  | attributeExported (external internal : String) (values : List String)
  | recordRead (bytes : Nat)
deriving DecidableEq, Repr

namespace Event

def level : Event → Level
  | .loadingConfiguration _ => .info
  | .unknownProfile _ => .warn
  | _ => .debug

/-- The part of the program that an event belongs to. -/
def target : Event → String
  | .loadingConfiguration _ | .configurationParsed .. => "attrmap_core::config"
  | .templateRendered .. => "attrmap_core::mapping::template"
  | .recordRead _ => "attrmap"
  | _ => "attrmap_core::mapping::mapper"

def message : Event → String
  | .loadingConfiguration _ => "loading attribute configuration"
  | .configurationParsed .. => "configuration parsed successfully"
  | .mapperReady .. => "attribute mapper initialized"
  | .nameTaken .. => "external attribute remapped, last mapping wins"
  | .unknownProfile _ => "no attribute mapping found for the given attribute profile"
  | .unmappedForImport .. => "no attribute mapping found for internal attribute in profile"
  | .noValueFound _ => "skipped backend attribute: no value found"
  | .attributeImported .. => "backend attribute mapped"
  | .templateRendered .. => "rendered template"
  | .templateFailed .. => "template produced no value"
  | .derivedAttributeSet .. => "template attribute rendered"
  | .mappedValueKept _ => "templates empty, keeping mapped value"
  | .unmappedAttribute _ => "no attribute mapping found for the internal attribute"
  | .unmappedForExport .. => "no mapping found for internal attribute in attribute profile"
  | .attributeExported .. => "frontend attribute mapped"
  | .recordRead _ => "read input record"

def fields : Event → List (String × Field)
  | .loadingConfiguration path => [("path", .text path)]
  | .configurationParsed attributes templateAttributes =>
    [("attributes", .count attributes), ("template_attributes", .count templateAttributes)]
  | .mapperReady attributes templateAttributes profiles =>
    [("attributes", .count attributes), ("template_attributes", .count templateAttributes),
     ("profiles", .count profiles)]
  | .nameTaken profile external previous internal =>
    [("profile", .text profile), ("external", .text external), ("previous", .text previous),
     ("internal", .text internal)]
  | .unknownProfile profile => [("profile", .name profile)]
  | .unmappedForImport internal profile | .unmappedForExport internal profile =>
    [("internal", .text internal), ("profile", .name profile)]
  | .noValueFound external => [("external", .names external)]
  | .attributeImported external internal values =>
    [("external", .names external), ("internal", .text internal), ("values", .names values)]
  | .templateRendered template output => [("template", .text template), ("rendered", .text output)]
  | .templateFailed internal template cause =>
    [("internal", .text internal), ("template", .name template), ("error", .text cause.message)]
  | .derivedAttributeSet internal values =>
    [("internal", .text internal), ("values", .names values)]
  | .mappedValueKept internal | .unmappedAttribute internal => [("internal", .text internal)]
  | .attributeExported external internal values =>
    [("external", .text external), ("internal", .text internal), ("values", .names values)]
  | .recordRead bytes => [("bytes", .count bytes)]

/-- An event as a line of the log: the level in five columns, the wording, and the fields. -/
def line (e : Event) : String :=
  let level := e.level.name
  String.ofList (List.replicate (5 - level.length) ' ') ++ level ++ " " ++ e.message ++
    String.join (e.fields.map fun (name, field) => " " ++ name ++ "=" ++ field.inLine)

end Event

abbrev Eventful := Logged Event

end AttributeProfiles
