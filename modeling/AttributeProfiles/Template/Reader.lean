import AttributeProfiles.Number.Digits
import AttributeProfiles.Number.Word
import AttributeProfiles.Template.Cursor

/-!
# Compiling templates

The reader of templates follows the grammar

    filtered := sum ('|' identifier)*
    sum      := term ('+' term)*
    term     := primary ('[' integer ']')*
    primary  := literal | identifier | identifier '(' filtered ')' | '(' filtered ')'

for what stands between the braces of a placeholder, with blanks allowed around every token.
Outside placeholders a doubled marker is one marker, a marker before a brace opens a placeholder,
and everything else is text. Each reader takes a cursor and returns what it read and the place
after it. The loops run at most as often as there are characters left, and so does the nesting of
expressions.
-/

namespace AttributeProfiles.Template

def isIdentifierStart (c : Char) : Bool := c.isAlpha || c == '_'

def isIdentifierPart (c : Char) : Bool := c.isAlphanum || c == '_'

def readIdentifier (c : Cursor) : Except Error (String × Cursor) :=
  if c.rest.head?.any isIdentifierStart then
    .ok (String.ofList (c.rest.takeWhile isIdentifierPart), c.skipWhile isIdentifierPart)
  else .error (c.fault .expectedIdentifier)

/-- The integer that a spelling means, if it has digits and fits 64 bits. -/
def indexValue? (negative : Bool) (digits : List Char) : Option Int :=
  let value := Word.signed negative (Digits.number 10 digits)
  if digits ≠ [] ∧ Word.IsSigned value then some value else none

/-- The integer at a place: an optional minus and decimal digits. -/
def readInteger (c : Cursor) : Except Error (Int × Cursor) :=
  let negative := decide (c.rest.head? = some '-')
  let unsigned := if negative then c.next else c
  let digits := unsigned.rest.takeWhile Char.isDigit
  match indexValue? negative digits with
  | some value => .ok (value, unsigned.skipWhile Char.isDigit)
  | none =>
    .error (c.fault (.invalidIndex (String.ofList (if negative then '-' :: digits else digits))))

def unescape? (c : Char) : Option Char :=
  match c with
  | 'n' => some '\n'
  | 't' => some '\t'
  | '\\' => some '\\'
  | '"' => some '"'
  | '\'' => some '\''
  | _ => none

/-- The content of a literal whose opening quote is passed, and the place after its closing quote.
The characters of the content before this place are those of `read`, in reverse. -/
def readLiteral (quote : Char) (depth : Nat) :
    List Char → Nat → List Char → Except Error (String × Cursor)
  | [], position, _ => .error (.malformed position .unterminatedLiteral)
  | x :: xs, position, read =>
    if x = quote then .ok (String.ofList read.reverse, ⟨xs, position + x.utf8Size, depth⟩)
    else if x = '\\' then
      match xs with
      | [] => .error (.malformed (position + x.utf8Size) .unterminatedLiteral)
      | y :: ys =>
        let after := position + x.utf8Size + y.utf8Size
        match unescape? y with
        | some z => readLiteral quote depth ys after (z :: read)
        | none => .error (.malformed after (.unknownEscape y))
    else readLiteral quote depth xs (position + x.utf8Size) (x :: read)

def callByName (name : String) (argument : Expr) : Except Error Expr :=
  if name ∈ builtins then .ok (.call name argument) else .error (.unknownFunction name)

/-- The primary expression at a place, where `nested` reads what stands in parentheses. -/
def readPrimary (nested : Cursor → Except Error (Expr × Cursor)) (c : Cursor) :
    Except Error (Expr × Cursor) :=
  let c := c.skipBlanks
  match c.rest with
  | [] => .error (c.fault .unexpectedEnd)
  | x :: _ =>
    if x = '"' ∨ x = '\'' then do
      let (content, c) ← readLiteral x c.depth c.next.rest c.next.position []
      .ok (.literal content, c)
    else if x = '(' then do
      let (inner, c) ← nested c.next
      match c.eat? ')' with
      | some c => .ok (inner, c)
      | none => .error (c.skipBlanks.fault .unclosedGroup)
    else if isIdentifierStart x then do
      let (name, c) ← readIdentifier c
      match c.eat? '(' with
      | none => .ok (.variable name, c)
      | some c => do
        let (argument, c) ← nested c
        match c.eat? ')' with
        | some c => do
          let call ← callByName name argument
          .ok (call, c)
        | none => .error (c.skipBlanks.fault .unclosedCall)
    else .error (c.fault (.unexpectedCharacter x))

/-- An expression with the indices that follow it, at most `limit` of them. -/
def readIndices : Nat → Expr → Cursor → Except Error (Expr × Cursor)
  | 0, e, c => .ok (e, c)
  | limit + 1, e, c =>
    match c.eat? '[' with
    | none => .ok (e, c)
    | some c => do
      let (position, c) ← readInteger c.skipBlanks
      match c.eat? ']' with
      | some c => readIndices limit (.index e position) c
      | none => .error (c.skipBlanks.fault .unclosedIndex)

def readTerm (nested : Cursor → Except Error (Expr × Cursor)) (c : Cursor) :
    Except Error (Expr × Cursor) := do
  let (e, c) ← readPrimary nested c
  readIndices c.rest.length e c

/-- An expression with the terms added to it, at most `limit` of them. -/
def readSummands (nested : Cursor → Except Error (Expr × Cursor)) :
    Nat → Expr → Cursor → Except Error (Expr × Cursor)
  | 0, e, c => .ok (e, c)
  | limit + 1, e, c =>
    match c.eat? '+' with
    | none => .ok (e, c)
    | some c => do
      let (summand, c) ← readTerm nested c
      readSummands nested limit (.concat e summand) c

def readSum (nested : Cursor → Except Error (Expr × Cursor)) (c : Cursor) :
    Except Error (Expr × Cursor) := do
  let (e, c) ← readTerm nested c
  readSummands nested c.rest.length e c

/-- An expression with the filters applied to it, at most `limit` of them. -/
def readFilters : Nat → Expr → Cursor → Except Error (Expr × Cursor)
  | 0, e, c => .ok (e, c)
  | limit + 1, e, c =>
    match c.eat? '|' with
    | none => .ok (e, c)
    | some c => do
      let (name, c) ← readIdentifier c.skipBlanks
      let call ← callByName name e
      readFilters limit call c

/-- The expression at a place that has at most `limit` characters after it. -/
def readFiltered (limit : Nat) (c : Cursor) : Except Error (Expr × Cursor) :=
  if maxNesting ≤ c.depth then .error (.tooComplex .nesting)
  else match limit with
    | 0 => .error (c.fault .unexpectedEnd)
    | limit + 1 => do
      let (e, c) ← readSum (readFiltered limit) c.deeper
      let (e, c) ← readFilters c.rest.length e c
      .ok (e, c.shallower)

def readPlaceholder (c : Cursor) : Except Error (Expr × Cursor) := do
  let (e, c) ← readFiltered c.rest.length c
  match c.eat? '\x7d' with
  | some c => .ok (e, c)
  | none => .error (c.skipBlanks.fault .unclosedPlaceholder)

/-- Text in reverse as a segment, unless it is empty. -/
def textSegment (read : List Char) : List Segment :=
  if read = [] then [] else [.text (String.ofList read.reverse)]

/-- The segments from a place on, of which the first begins with the text `read`, in reverse. At
most `limit` characters follow. -/
def readSegments (marker : Char) : Nat → List Char → Cursor → Except Error (List Segment)
  | 0, read, _ => .ok (textSegment read)
  | limit + 1, read, c =>
    match c.rest with
    | [] => .ok (textSegment read)
    | x :: xs =>
      if x ≠ marker then readSegments marker limit (x :: read) c.next
      else if xs.head? = some marker then
        readSegments marker limit (marker :: read) c.next.next
      else if xs.head? = some '\x7b' then do
        let (e, c) ← readPlaceholder c.next.next
        let others ← readSegments marker limit [] c
        .ok (textSegment read ++ .placeholder e :: others)
      else readSegments marker limit (x :: read) c.next

end AttributeProfiles.Template

namespace AttributeProfiles

/-- The template that a source spells, with `marker` opening its placeholders. -/
def Template.compile (source : String) (marker : Char) : Except Template.Error Template :=
  if Template.maxSourceBytes < source.utf8ByteSize then
    .error (.tooComplex (.source source.utf8ByteSize))
  else do
    let segments ← Template.readSegments marker source.toList.length [] (.start source)
    .ok ⟨source, segments⟩

end AttributeProfiles
