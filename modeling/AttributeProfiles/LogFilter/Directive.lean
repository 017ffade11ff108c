import AttributeProfiles.Event
import AttributeProfiles.LogFilter.Pattern
import AttributeProfiles.Number.Digits
import AttributeProfiles.Text.Alphanumeric
import AttributeProfiles.Text.Blank
import AttributeProfiles.Text.Pieces

/-!
# Directives

A directive of a log filter follows the grammar

    directive := level | target | target? brackets ('=' level?)? | target '=' level?
    brackets  := '[' span ']' | '[' span? '{' field ('=' value)? '}' ']'

and says up to which level events are shown: those of a part of the program, the target, and with
brackets those inside a span of a name or with a field. Where no level is given, all levels are
meant. The texts between the marks are free, but a directive without brackets in front starts with a
letter, a number or one of the marks that can stand in the name of a part of the program.
-/

namespace AttributeProfiles.LogFilter

/-- A field that a directive asks for, by its name alone or also by its value. -/
structure FieldTest where
  name : String
  valued : Bool
deriving DecidableEq, Repr

/-- What a directive says: the part of the program, the span and the field that it asks for, and the
rank up to which it shows events. -/
structure Directive where
  target : Option String := none
  inSpan : Bool := false
  field : Option FieldTest := none
  rank : Nat := Level.trace.rank
deriving DecidableEq, Repr

/-- The rank up to which a level shows events. A level is given by a number up to five or by its
name, in either case of letters; the lowest one shows nothing. -/
def levelRank? (cs : List Char) : Option Nat :=
  let digits := if cs.head? = some '+' then cs.tail else cs
  if digits ≠ [] ∧ digits.all Char.isDigit then
    let rank := Digits.number 10 digits
    if rank ≤ Level.trace.rank then some rank else none
  else
    match String.ofList (cs.map Char.toLower) with
    | "off" => some 0
    | "error" => some Level.error.rank
    | "warn" => some Level.warn.rank
    | "info" => some Level.info.rank
    | "debug" => some Level.debug.rank
    | "trace" => some Level.trace.rank
    | _ => none

/-- Whether a text spells a number without a sign: digits with at most one point and perhaps an
exponent, or one of the names for what is no finite number. -/
def isUnsignedNumber (cs : List Char) : Bool :=
  let whole := cs.takeWhile Char.isDigit
  let rest := cs.drop whole.length
  let pointed := rest.head? == some '.'
  let fraction := if pointed then rest.tail.takeWhile Char.isDigit else []
  let rest := if pointed then rest.tail.drop fraction.length else rest
  let exponent (cs : List Char) : Bool :=
    let digits := if cs.head? = some '+' ∨ cs.head? = some '-' then cs.tail else cs
    !digits.isEmpty && digits.all Char.isDigit
  ["inf", "infinity", "nan"].contains (String.ofList (cs.map Char.toLower)) ||
    !(whole ++ fraction).isEmpty &&
      match rest with
      | [] => true
      | 'e' :: rest | 'E' :: rest => exponent rest
      | _ => false

/-- Whether a field can be asked for this value: a number, or else a pattern. A number is a pattern
too, unless it starts with a plus sign. -/
def isValue (cs : List Char) : Bool :=
  Pattern.isWellFormed cs || (cs.head? == some '+' && isUnsignedNumber cs.tail)

/-- The field that a text asks for. A second equals sign ends the value. -/
def FieldTest.ofText? (cs : List Char) : Option FieldTest :=
  match cs.splitOn '=' with
  | [] | [[]] => none
  | [name] => some ⟨String.ofList name, false⟩
  | name :: value :: _ => if isValue value then some ⟨String.ofList name, true⟩ else none

namespace Directive

/-- What is being read of a directive, and the byte position at which it starts. -/
inductive Stage where
  | start
  | target
  | span (start : Nat)
  | field (start : Nat)
  | fieldEnd
  | bracketEnd
  | level (start : Nat)
deriving DecidableEq, Repr

/-- The directive as far as it is read, at a character that starts at a byte position of the text
that is given. The parts of the directive are those of the given text. -/
def step? (given : List Char) (position : Nat) (c : Char) (d : Directive) :
    Stage → Option (Directive × Stage)
  | .start =>
    if c = '[' then some (d, .span (position + 1))
    else if c = '-' ∨ c = ':' ∨ c = '_' ∨ Text.isAlphanumeric c then some (d, .target)
    else none
  | .target =>
    if c = '=' ∨ c = '[' then do
      let target ← Text.takeBytes? position given
      some ({ d with target := some (String.ofList target) },
        if c = '=' then .level (position + 1) else .span (position + 1))
    else some (d, .target)
  | .span start =>
    if c = ']' then some ({ d with inSpan := true }, .bracketEnd)
    else if c = '\x7b' then
      some ({ d with inSpan := decide (start < position) }, .field (position + 1))
    else some (d, .span start)
  | .field start =>
    if c = '\x7d' then do
      let field ← FieldTest.ofText? (← Text.slice? start position given)
      some ({ d with field := some field }, .fieldEnd)
    else some (d, .field start)
  | .fieldEnd => if c = ']' then some (d, .bracketEnd) else none
  | .bracketEnd => if c = '=' then some (d, .level (position + 1)) else none
  | .level start => some (d, .level start)

def finish? (given : List Char) (d : Directive) : Stage → Option Directive
  | .target =>
    match levelRank? given with
    | some rank => some { rank }
    | none => some { target := some (String.ofList given) }
  | .bracketEnd => some d
  | .level start => do
    match ← Text.dropBytes? start given with
    | [] => some d
    | level => some { d with rank := ← levelRank? level }
  | .start | .span _ | .field _ | .fieldEnd => none

def complete? (given : List Char) (d : Directive) : Stage → Nat → List Char → Option Directive
  | stage, _, [] => d.finish? given stage
  | stage, position, c :: cs => do
    let (d, stage) ← d.step? given position c stage
    d.complete? given stage (position + c.utf8Size) cs

/-- The directive that a text spells. The positions of its parts are those in the text without the
blanks around it, so blanks before a directive become part of its first name and spoil the rest. -/
def ofText? (given : List Char) : Option Directive :=
  let trimmed := ((given.dropWhile Text.isBlank).reverse.dropWhile Text.isBlank).reverse
  complete? given {} .start 0 trimmed

/-- Whether a directive concerns an event: it names the beginning of the event's part of the
program, and a field that the event has. The wording of an event is a field too. The program has no
spans, and values are asked of spans alone. -/
def concerns (e : Event) (d : Directive) : Bool :=
  !d.inSpan &&
    d.target.all (fun target => target.toList.isPrefixOf e.target.toList) &&
    d.field.all fun field =>
      !field.valued && ("message" :: e.fields.map Prod.fst).contains field.name

def targetSize (d : Directive) : Nat := (d.target.map (·.utf8ByteSize + 1)).getD 0

/-- Whether a directive is more specific than another one that concerns the same event: its target
is longer, or only it asks for a field, or its field comes later in the order of names. -/
def isMoreSpecific (a b : Directive) : Bool :=
  if a.targetSize ≠ b.targetSize then decide (b.targetSize < a.targetSize)
  else
    match a.field, b.field with
    | some f, some g => decide (g.name < f.name)
    | some _, none => true
    | none, _ => false

/-- The more specific of two directives, the second if they are alike. -/
def prefer (a b : Directive) : Directive := if a.isMoreSpecific b then a else b

end Directive

end AttributeProfiles.LogFilter
