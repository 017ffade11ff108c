import AttributeProfiles.Record
import AttributeProfiles.Text.Pieces

/-!
# Templates

A template is text with placeholders. A placeholder holds an expression over the attributes of a
record, whose value is a text or a list of texts. This module holds the tree of a template, the
limits on its size, and the causes for which compiling or rendering one can fail.
-/

namespace AttributeProfiles.Template

/-- The longest source of a template, in bytes. -/
def maxSourceBytes : Nat := 4096

def maxNesting : Nat := 32

/-- The longest output of a template, in bytes. -/
def maxRenderedBytes : Nat := 65536

/-- The names of the functions that there are. -/
def builtins : List String := ["scope"]

theorem mem_builtins {name : String} : name ∈ builtins ↔ name = "scope" := List.mem_singleton

/-- An expression. A call has the name of its function as it stands in the source. -/
inductive Expr where
  | variable (name : String)
  | literal (text : String)
  | index (list : Expr) (position : Int)
  | concat (left right : Expr)
  | call (function : String) (argument : Expr)
deriving DecidableEq, Repr

inductive Segment where
  | text (content : String)
  | placeholder (expression : Expr)
deriving DecidableEq, Repr

inductive Kind where
  | text
  | list
deriving DecidableEq, Repr

def Kind.description : Kind → String
  | .text => "string"
  | .list => "list"

inductive Value where
  | text (content : String)
  | list (items : List String)
deriving DecidableEq, Repr

def Value.kind : Value → Kind
  | .text _ => .text
  | .list _ => .list

inductive Fault where
  | unclosedPlaceholder
  | unclosedGroup
  | unclosedCall
  | unclosedIndex
  | unterminatedLiteral
  | unknownEscape (c : Char)
  | invalidIndex (spelling : String)
  | expectedIdentifier
  | unexpectedCharacter (c : Char)
  | unexpectedEnd
deriving DecidableEq, Repr

def Fault.message : Fault → String
  | .unclosedPlaceholder => "expected '\x7d' to close placeholder"
  | .unclosedGroup => "expected ')'"
  | .unclosedCall => "expected ')' after function argument"
  | .unclosedIndex => "expected ']' after index"
  | .unterminatedLiteral => "unterminated string literal"
  | .unknownEscape c => "unknown escape '\\" ++ c.toString ++ "'"
  | .invalidIndex spelling => "invalid index '" ++ spelling ++ "'"
  | .expectedIdentifier => "expected an identifier"
  | .unexpectedCharacter c => "unexpected character '" ++ c.toString ++ "'"
  | .unexpectedEnd => "unexpected end of template"

/-- An operation that does not go with the kind of its operands. -/
inductive Mismatch where
  | indexIntoText
  | concatenation (left right : Kind)
  | argument (function : String) (given : Kind)
deriving DecidableEq, Repr

def Mismatch.message : Mismatch → String
  | .indexIntoText => "cannot index into a string"
  | .concatenation left right =>
    "cannot concatenate " ++ left.description ++ " and " ++ right.description
  | .argument function given =>
    function ++ " expects a string, got a " ++ given.description

inductive Excess where
  | source (bytes : Nat)
  | nesting
  | output
deriving DecidableEq, Repr

def Excess.message : Excess → String
  | .source bytes =>
    "template is " ++ bytes.repr ++ " bytes, limit is " ++ maxSourceBytes.repr
  | .nesting => "expression nesting exceeds " ++ maxNesting.repr
  | .output => "rendered output exceeds " ++ maxRenderedBytes.repr ++ " bytes"

inductive Error where
  | malformed (position : Nat) (fault : Fault)
  | undefinedVariable (name : String)
  | unscoped (value : String)
  | unknownFunction (name : String)
  | typeMismatch (mismatch : Mismatch)
  | indexOutOfRange (position : Int) (length : Nat)
  | tooComplex (excess : Excess)
deriving DecidableEq, Repr

def Error.message : Error → String
  | .malformed position fault =>
    "template syntax error at byte " ++ position.repr ++ ": " ++ fault.message
  | .undefinedVariable name => "undefined variable '" ++ name ++ "'"
  | .unscoped value => "unscoped string '" ++ value ++ "'"
  | .unknownFunction name => "unknown function '" ++ name ++ "'"
  | .typeMismatch mismatch => "type mismatch: " ++ mismatch.message
  | .indexOutOfRange position length =>
    "index " ++ position.repr ++ " out of range for list of length " ++ length.repr
  | .tooComplex excess => "template too complex: " ++ excess.message

end AttributeProfiles.Template

namespace AttributeProfiles

structure Template where
  source : String
  segments : List Template.Segment
deriving DecidableEq, Repr

end AttributeProfiles
