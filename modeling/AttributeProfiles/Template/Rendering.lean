import AttributeProfiles.Template.Reader

/-!
# Rendering templates

Rendering evaluates the placeholders of a template against a record and strings the results
together with the text between them. A placeholder that is a list gives its items, joined by the
separator. The output is cut at the same separator again where a template is to give values.
-/

namespace AttributeProfiles.Template

/-- The part of a scoped value after its first `@`. -/
def scope (value : String) : Except Error String :=
  match value.toList.dropWhile (· != '@') with
  | [] => .error (.unscoped value)
  | _ :: domain => .ok (String.ofList domain)

/-- The item of a list at a position, which counts from the end if it is negative. -/
def item? (items : List String) (position : Int) : Option String :=
  let place := if position < 0 then (items.length : Int) + position else position
  if place < 0 then none else items[place.toNat]?

def Value.at (position : Int) : Value → Except Error Value
  | .list items =>
    match item? items position with
    | some item => .ok (.text item)
    | none => .error (.indexOutOfRange position items.length)
  | .text _ => .error (.typeMismatch .indexIntoText)

/-- Two texts, or two lists, as one. -/
def Value.append : Value → Value → Except Error Value
  | .text a, .text b => .ok (.text (a ++ b))
  | .list a, .list b => .ok (.list (a ++ b))
  | a, b => .error (.typeMismatch (.concatenation a.kind b.kind))

/-- What the function of a name makes of a value. A tree can name a function that there is not. -/
def Value.call (function : String) (argument : Value) : Except Error Value :=
  match function, argument with
  | "scope", .text value => (scope value).map .text
  | "scope", other => .error (.typeMismatch (.argument "scope" other.kind))
  | other, _ => .error (.unknownFunction other)

/-- The value of an expression, with variables bound to the attributes of a record. -/
def Expr.eval (bindings : Record) : Expr → Except Error Value
  | .variable name =>
    match bindings.get? name with
    | some values => .ok (.list values)
    | none => .error (.undefinedVariable name)
  | .literal text => .ok (.text text)
  | .index list position => do (← list.eval bindings).at position
  | .concat left right => do
    let a ← left.eval bindings
    let b ← right.eval bindings
    a.append b
  | .call function argument => do (← argument.eval bindings).call function

def Value.toText (separator : Char) : Value → String
  | .text content => content
  | .list items => Text.join separator items

def Segment.render (bindings : Record) (separator : Char) : Segment → Except Error String
  | .text content => .ok content
  | .placeholder e => do .ok ((← e.eval bindings).toText separator)

/-- The output so far with the text of one more segment, within the limit. -/
def extend (bindings : Record) (separator : Char) (output : String) (segment : Segment) :
    Except Error String := do
  let output := output ++ (← segment.render bindings separator)
  if maxRenderedBytes < output.utf8ByteSize then .error (.tooComplex .output) else .ok output

def render (t : Template) (bindings : Record) (separator : Char) : Except Error String :=
  t.segments.foldlM (extend bindings separator) ""

def outputValues (separator : Char) (output : String) : List String :=
  (Text.split separator output).filter (· ≠ "")

def renderValues (t : Template) (bindings : Record) (separator : Char) :
    Except Error (List String) :=
  (t.render bindings separator).map (outputValues separator)

end AttributeProfiles.Template
