import AttributeProfiles.Toml.Scalar

/-!
# TOML strings and keys

Strings come in four forms: with escapes or literal, on one line or on several. Keys are bare words
or strings on one line, and dots join them to paths.
-/

namespace AttributeProfiles.Toml

def isSpace (c : Char) : Bool := c == ' ' || c == '\t'

/-- Whether a character can stand for itself: a tab, or anything but a control character. -/
def isVisible (c : Char) : Bool := c == '\t' || (decide (0x20 ≤ c.toNat) && c.toNat != 0x7F)

def skipSpaces (cs : List Char) : List Char := cs.dropWhile isSpace

def lineBreak? : List Char → Option (List Char)
  | '\n' :: rest => some rest
  | '\r' :: '\n' :: rest => some rest
  | _ => none

def coded? (count : Nat) (cs : List Char) : Option (Char × List Char) :=
  let digits := cs.take count
  let code := Digits.number 16 digits
  if digits.length = count ∧ digits.all Digits.isHex ∧ code.isValidChar then
    some (Char.ofNat code, cs.drop count)
  else none

def escape? : List Char → Option (Char × List Char)
  | [] => none
  | c :: rest =>
    match c with
    | 'b' => some ('\x08', rest)
    | 'f' => some ('\x0c', rest)
    | 'n' => some ('\n', rest)
    | 'r' => some ('\r', rest)
    | 't' => some ('\t', rest)
    | '"' => some ('"', rest)
    | '\\' => some ('\\', rest)
    | 'u' => coded? 4 rest
    | 'U' => coded? 8 rest
    | _ => none

/-- A string with escapes on one line, after its opening quotation mark. The characters before this
place are those of `read`, in reverse; at most `limit` characters follow. -/
def basic? : Nat → List Char → List Char → Option (String × List Char)
  | 0, _, _ => none
  | limit + 1, read, cs =>
    match cs with
    | [] => none
    | '"' :: rest => some (String.ofList read.reverse, rest)
    | '\\' :: rest => do
      let (c, rest) ← escape? rest
      basic? limit (c :: read) rest
    | c :: rest => if isVisible c then basic? limit (c :: read) rest else none

/-- A literal string on one line, after its opening quotation mark. -/
def literal? (cs : List Char) : Option (String × List Char) :=
  let content := cs.takeWhile fun c => isVisible c && c != '\''
  (after? (· == '\'') (cs.drop content.length)).map fun rest => (String.ofList content, rest)

/-- The text after spaces and line breaks. -/
def skipLines : List Char → List Char
  | [] => []
  | c :: cs =>
    if isSpace c ∨ c = '\n' then skipLines cs
    else if c = '\r' ∧ cs.head? = some '\n' then skipLines cs
    else c :: cs

/-- What a run of quotation marks means inside a string on several lines: one or two are content,
three close the string, and up to two more before those three are content. The result is the number
of marks that are content and whether the string is closed. -/
def quoteRun? (count : Nat) : Option (Nat × Bool) :=
  if count < 3 then some (count, false) else if count ≤ 5 then some (count - 3, true) else none

/-- A string on several lines, after its opening quotation marks, which are three times `quote`. The
characters before this place are those of `read`, in reverse; at most `limit` characters follow. A
backslash at the end of a line, where escapes are used, joins the next text to this line. -/
def multiline? (quote : Char) (escapes : Bool) :
    Nat → List Char → List Char → Option (String × List Char)
  | 0, _, _ => none
  | limit + 1, read, cs =>
    match cs with
    | [] => none
    | c :: rest =>
      if c = quote then do
        let run := cs.takeWhile (· == quote)
        let (content, closed) ← quoteRun? run.length
        let read := List.replicate content quote ++ read
        let rest := cs.drop run.length
        if closed then some (String.ofList read.reverse, rest)
        else multiline? quote escapes limit read rest
      else if c = '\\' ∧ escapes then
        match lineBreak? (skipSpaces rest) with
        | some rest => multiline? quote escapes limit read (skipLines rest)
        | none => do
          let (c, rest) ← escape? rest
          multiline? quote escapes limit (c :: read) rest
      else
        match lineBreak? cs with
        | some rest => multiline? quote escapes limit ('\n' :: read) rest
        | none => if isVisible c then multiline? quote escapes limit (c :: read) rest else none

/-- A string. A line break directly after three opening quotation marks is not part of it. -/
def string? (cs : List Char) : Option (String × List Char) :=
  match cs with
  | '"' :: '"' :: '"' :: rest =>
    multiline? '"' true cs.length [] ((lineBreak? rest).getD rest)
  | '\'' :: '\'' :: '\'' :: rest =>
    multiline? '\'' false cs.length [] ((lineBreak? rest).getD rest)
  | '"' :: rest => basic? cs.length [] rest
  | '\'' :: rest => literal? rest
  | _ => none

def isBareKeyChar (c : Char) : Bool := c.isAlphanum || c == '_' || c == '-'

def keySegment? (cs : List Char) : Option (String × List Char) :=
  match cs with
  | '"' :: rest => basic? cs.length [] rest
  | '\'' :: rest => literal? rest
  | cs =>
    let word := cs.takeWhile isBareKeyChar
    if word.isEmpty then none else some (String.ofList word, cs.drop word.length)

/-- The segments of a key with spaces around them, at most `limit` of them. -/
def keySegments? : Nat → List Char → Option (List String × List Char)
  | 0, _ => none
  | limit + 1, cs => do
    let (segment, rest) ← keySegment? (skipSpaces cs)
    match skipSpaces rest with
    | '.' :: rest =>
      let (segments, rest) ← keySegments? limit rest
      some (segment :: segments, rest)
    | rest => some ([segment], rest)

def maxKeySegments : Nat := 79

/-- A key: the tables that lead to it, and its own name there. -/
structure Key where
  path : List String
  name : String
deriving DecidableEq, Repr

def Key.ofSegments? (segments : List String) : Option Key :=
  segments.getLast?.map fun name => ⟨segments.dropLast, name⟩

def key? (cs : List Char) : Option (Key × List Char) := do
  let (segments, rest) ← keySegments? maxKeySegments cs
  some (← Key.ofSegments? segments, rest)

end AttributeProfiles.Toml
