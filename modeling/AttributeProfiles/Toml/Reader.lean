import AttributeProfiles.Toml.Node

/-!
# Reading TOML

A document is a sequence of lines: keys with values, and headers that say to which table the keys
below them belong. Values that are lists run over several lines, tables in braces do not.
-/

namespace AttributeProfiles.Toml

/-- The text after spaces, line breaks and comments, which may stand anywhere inside a list. -/
def skipFiller (inComment : Bool) : List Char → List Char
  | [] => []
  | c :: cs =>
    if c = '\n' then skipFiller false cs
    else if c = '\r' ∧ cs.head? = some '\n' then skipFiller inComment cs
    else if inComment then (if isVisible c then skipFiller true cs else c :: cs)
    else if isSpace c then skipFiller false cs
    else if c = '#' then skipFiller true cs
    else c :: cs

/-- The items of a list up to its closing bracket, at most `limit` of them. A comma may follow the
last one. -/
def items? (value : List Char → Option (Document × List Char)) :
    Nat → List Char → Option (List Document × List Char)
  | 0, _ => none
  | limit + 1, cs =>
    match skipFiller false cs with
    | ']' :: rest => some ([], rest)
    | cs => do
      let (item, rest) ← value cs
      match skipFiller false rest with
      | ',' :: rest =>
        let (others, rest) ← items? value limit rest
        some (item :: others, rest)
      | ']' :: rest => some ([item], rest)
      | _ => none

/-- A key, an equals sign and a value. -/
def pair? (value : List Char → Option (Document × List Char)) (cs : List Char) :
    Option ((Key × Document) × List Char) := do
  let (key, rest) ← key? cs
  let '=' :: rest := rest | none
  let (content, rest) ← value (skipSpaces rest)
  some ((key, content), rest)

/-- The pairs of a table in braces up to its closing brace, at most `limit` of them. -/
def bracedPairs? (value : List Char → Option (Document × List Char)) :
    Nat → List Char → Option (Pairs × List Char)
  | 0, _ => none
  | limit + 1, cs => do
    let (first, rest) ← pair? value cs
    match skipSpaces rest with
    | ',' :: rest =>
      let (others, rest) ← bracedPairs? value limit rest
      some (first :: others, rest)
    | '\x7d' :: rest => some ([first], rest)
    | _ => none

/-- A table in braces, after its opening brace. -/
def bracedTable? (value : List Char → Option (Document × List Char)) (cs : List Char) :
    Option (Document × List Char) := do
  let (pairs, rest) ← match skipSpaces cs with
    | '\x7d' :: rest => some ([], rest)
    | cs => bracedPairs? value cs.length cs
  let entries ← addPairs? [] pairs
  some (.table (Node.entriesDocument entries), rest)

def flatValue? (cs : List Char) : Option (Document × List Char) :=
  ((string? cs).map fun (content, rest) => (.text content, rest))
    <|> ((moment? cs).map fun rest => (.moment, rest))
    <|> ((plainScalar? cs).map fun rest => (.other, rest))

/-- A value whose lists and tables in braces are nested at most `depth` deep. -/
def value? : Nat → List Char → Option (Document × List Char)
  | 0, cs => flatValue? cs
  | depth + 1, cs =>
    match cs with
    | '[' :: rest =>
      (items? (value? depth) rest.length rest).map fun (items, rest) => (.list items, rest)
    | '\x7b' :: rest => bracedTable? (value? depth) rest
    | cs => flatValue? cs

/-- The deepest nesting of lists and tables in braces that is read. -/
def maxDepth : Nat := 79

/-- The text after the end of a line, before which only spaces and a comment may stand. -/
def lineEnd? (cs : List Char) : Option (List Char) :=
  let cs := skipSpaces cs
  let rest := if cs.head? = some '#' then cs.dropWhile isVisible else cs
  if rest.isEmpty then some [] else lineBreak? rest

/-- The key of a table's header, and the text after the header's line. -/
def tableHeader? (cs : List Char) : Option (Key × List Char) := do
  let (key, rest) ← key? cs
  let ']' :: rest := rest | none
  some (key, ← lineEnd? rest)

/-- The key of the header of an array's next table, and the text after the header's line. -/
def elementHeader? (cs : List Char) : Option (Key × List Char) := do
  let (key, rest) ← key? cs
  let ']' :: ']' :: rest := rest | none
  some (key, ← lineEnd? rest)

/-- The keys above the first header, and the parts from there on. At most `limit` characters
follow. -/
def parts? : Nat → List Char → Option (Pairs × List Part)
  | 0, cs => if cs.isEmpty then some ([], []) else none
  | limit + 1, cs =>
    match skipSpaces cs with
    | [] => some ([], [])
    | '[' :: '[' :: rest => do
      let (key, rest) ← elementHeader? rest
      let (pairs, parts) ← parts? limit rest
      some ([], .element key pairs :: parts)
    | '[' :: rest => do
      let (key, rest) ← tableHeader? rest
      let (pairs, parts) ← parts? limit rest
      some ([], .table key pairs :: parts)
    | cs =>
      match lineEnd? cs with
      | some rest => parts? limit rest
      | none => do
        let (pair, rest) ← pair? (value? maxDepth) cs
        let (pairs, parts) ← parts? limit (← lineEnd? rest)
        some (pair :: pairs, parts)

/-- The document that a text spells. A byte order mark may stand before it. -/
def read? (text : String) : Option Document := do
  let cs := match text.toList with
    | '\ufeff' :: cs => cs
    | cs => cs
  let (pairs, parts) ← parts? (cs.length + 1) cs
  let root ← addPairs? [] pairs
  let entries ← parts.foldlM addPart? root
  some (.table (Node.entriesDocument entries))

end AttributeProfiles.Toml
