import AttributeProfiles.Number.Digits
import AttributeProfiles.Text.Alphanumeric
import AttributeProfiles.Text.Blank

/-!
# Patterns

A directive of a log filter can ask for the value of a field by a pattern, a regular expression.
What the pattern matches never counts, because only spans are asked for values and the program has
none, but a filter with a malformed pattern is malformed. Patterns know no tables of letters: escapes
for kinds of characters and comparison without regard to case are for patterns that are switched to
ASCII, and those in turn match nothing else. A pattern holds no closing brace and no equals sign, so
repetitions are never counted.
-/

namespace AttributeProfiles.LogFilter.Pattern

/-- How characters are read at a place of a pattern: whether all of Unicode is meant, whether case
makes no difference, and whether blanks and comments mean nothing. -/
structure Mode where
  unicode : Bool := true
  ignoresCase : Bool := false
  ignoresBlanks : Bool := false
deriving DecidableEq, Repr

/-- What follows the blanks and the comments that stand first. A comment ends with its line. -/
def afterBlanks (inComment : Bool) : List Char → List Char
  | [] => []
  | c :: cs =>
    if inComment then afterBlanks (c != '\n') cs
    else if Text.isBlank c then afterBlanks false cs
    else if c = '#' then afterBlanks true cs
    else c :: cs

def Mode.skip (m : Mode) (cs : List Char) : List Char :=
  if m.ignoresBlanks then afterBlanks false cs else cs

/-- What an escape stands for: a character, perhaps given as a byte, a kind of characters or all
others, an end of the text, or an edge of a word. -/
inductive Escape where
  | character (code : Nat) (asByte : Bool)
  | kind (negated : Bool)
  | textEnd
  | wordEdge
deriving DecidableEq, Repr

def hexDigits? (m : Mode) : Nat → List Char → Option (List Char × List Char)
  | 0, cs => some ([], cs)
  | n + 1, cs =>
    match m.skip cs with
    | [] => none
    | c :: rest =>
      if Digits.isHex c then (hexDigits? m n rest).map fun (digits, rest) => (c :: digits, rest)
      else none

def coded? (m : Mode) (digits : Nat) (cs : List Char) : Option (Escape × List Char) := do
  let (spelt, rest) ← hexDigits? m digits cs
  let code := Digits.number 16 spelt
  if code.isValidChar then some (.character code (digits == 2), rest) else none

/-- Whether a character other than the letters with a meaning can stand after a backslash. -/
def isEscapable (c : Char) : Bool :=
  decide (c.toNat < 0x80) && !c.isAlphanum && c != '<' && c != '>'

def escape? (m : Mode) : List Char → Option (Escape × List Char)
  | [] => none
  | c :: rest =>
    match c with
    | 'x' => coded? m 2 rest
    | 'u' => coded? m 4 rest
    | 'U' => coded? m 8 rest
    | 'd' | 's' | 'w' => some (.kind false, rest)
    | 'D' | 'S' | 'W' => some (.kind true, rest)
    | 'A' | 'z' => some (.textEnd, rest)
    | 'b' | 'B' | '<' | '>' => some (.wordEdge, rest)
    | 'a' => some (.character 0x07 false, rest)
    | 't' => some (.character 0x09 false, rest)
    | 'n' => some (.character 0x0A false, rest)
    | 'v' => some (.character 0x0B false, rest)
    | 'f' => some (.character 0x0C false, rest)
    | 'r' => some (.character 0x0D false, rest)
    | c => if isEscapable c then some (.character c.toNat false, rest) else none

/-- Whether a mode allows something that stands on its own. Without Unicode nothing may match a part
of a character beyond ASCII. -/
def Mode.allows (m : Mode) : Escape → Bool
  | .character code asByte =>
    if m.unicode then !m.ignoresCase else !asByte || decide (code < 0x80)
  | .kind negated => !m.unicode && !negated
  | .textEnd => true
  | .wordEdge => !m.unicode

def Mode.allowsInClass (m : Mode) : Escape → Bool
  | .character code _ => if m.unicode then !m.ignoresCase else decide (code < 0x80)
  | .kind negated => !m.unicode && !negated
  | .textEnd | .wordEdge => false

def member? (m : Mode) : List Char → Option (Escape × List Char)
  | [] => none
  | '\\' :: rest => escape? m rest
  | c :: rest => some (.character c.toNat false, rest)

/-- What follows a member of a class, or a range between two characters in their order. A dash
before a bracket or another dash makes no range. -/
def afterRange? (m : Mode) (cs : List Char) : Option (List Char) := do
  let (first, rest) ← member? m cs
  if !m.allowsInClass first then none
  else
    match m.skip rest with
    | '-' :: others =>
      match m.skip others with
      | ']' :: _ | '-' :: _ => some ('-' :: others)
      | others =>
        let (last, rest) ← member? m others
        match first, last with
        | .character low _, .character high _ =>
          if m.allowsInClass last && decide (low ≤ high) then some rest else none
        | _, _ => none
    | rest => some rest

def classNames : List String :=
  ["alnum", "alpha", "ascii", "blank", "cntrl", "digit", "graph", "lower", "print", "punct",
    "space", "upper", "word", "xdigit"]

/-- Whether a named class is negated, and what follows it. Its opening bracket is passed. -/
def namedClass? : List Char → Option (Bool × List Char)
  | ':' :: cs =>
    let negated := cs.head? == some '^'
    let cs := if negated then cs.tail else cs
    let name := cs.takeWhile (· != ':')
    match cs.drop name.length with
    | ':' :: ']' :: rest =>
      if classNames.contains (String.ofList name) then some (negated, rest) else none
    | _ => none
  | _ => none

/-- What follows the dashes that stand first, at most `limit` of them. -/
def afterDashes (m : Mode) : Nat → List Char → List Char
  | limit + 1, '-' :: cs => afterDashes m limit (m.skip cs)
  | _, cs => cs

/-- What follows the beginning of a class whose opening bracket is passed: a caret, which negates
the class, and dashes, or else a closing bracket, which stand for themselves. -/
def afterOpening? (m : Mode) (cs : List Char) : Option (List Char) :=
  let cs := m.skip cs
  let negated := cs.head? == some '^'
  let cs := if negated then m.skip cs.tail else cs
  let literal := cs.head? == some '-' || cs.head? == some ']'
  if negated && !m.unicode || literal && !m.allowsInClass (.character '-'.toNat false) then none
  else
    match cs with
    | ']' :: rest => some (m.skip rest)
    | cs => some (afterDashes m cs.length cs)

/-- What follows the end of a class, where `depth` further classes enclose the place and at most
`limit` parts of the class are left. -/
def afterClass? (m : Mode) : Nat → Nat → List Char → Option (List Char)
  | 0, _, _ => none
  | limit + 1, depth, cs =>
    match m.skip cs with
    | '[' :: rest =>
      match namedClass? rest with
      | some (negated, rest) =>
        if if m.unicode then m.ignoresCase else negated then none
        else afterClass? m limit depth rest
      | none => (afterOpening? m rest).bind (afterClass? m limit (depth + 1))
    | ']' :: rest =>
      match depth with
      | 0 => some rest
      | depth + 1 => afterClass? m limit depth rest
    | '&' :: '&' :: rest | '-' :: '-' :: rest | '~' :: '~' :: rest => afterClass? m limit depth rest
    | cs => (afterRange? m cs).bind (afterClass? m limit depth)

/-- What has been read of a pattern: the mode at this place and those to return to where the groups
that enclose it end, whether something stands before it that can be repeated, and the names of
groups. -/
structure Progress where
  mode : Mode := {}
  outer : List Mode := []
  repeatable : Bool := false
  names : List (List Char) := []
deriving DecidableEq, Repr

namespace Progress

def item (p : Progress) : Progress := { p with repeatable := true }

def enter (p : Progress) : Progress := { p with outer := p.mode :: p.outer, repeatable := false }

def alternative (p : Progress) : Progress := { p with repeatable := false }

end Progress

def isNamePart (c : Char) : Bool :=
  c == '_' || c == '.' || c == '[' || c == ']' || Text.isAlphanumeric c

def named? (p : Progress) (cs : List Char) : Option (Progress × List Char) :=
  let name := cs.takeWhile (· != '>')
  if name.head?.any (fun c => c == '_' || Text.isLetter c) && name.all isNamePart &&
      !p.names.contains name then
    match cs.drop name.length with
    | _ :: rest => some ({ p.enter with names := name :: p.names }, rest)
    | [] => none
  else none

/-- The value of a switch after the letters that turn it on and those that turn it off. -/
def switched (letter : Char) (on off : List Char) (before : Bool) : Bool :=
  on.contains letter || !off.contains letter && before

def Mode.switch (m : Mode) (letters : List Char) : Mode :=
  let on := letters.takeWhile (· != '-')
  let off := letters.drop on.length
  ⟨switched 'u' on off m.unicode, switched 'i' on off m.ignoresCase,
    switched 'x' on off m.ignoresBlanks⟩

/-- The letters that change the mode, each used at most once. -/
def switches : List Char := ['i', 'm', 's', 'U', 'u', 'R', 'x', '-']

/-- The beginning of a group that is no more than a group, or a change of the mode from here on. -/
def switchedGroup? (p : Progress) (cs : List Char) : Option (Progress × List Char) :=
  let letters := cs.takeWhile fun c => c != ':' && c != ')'
  if letters.all switches.contains && decide letters.Nodup && letters.getLast? != some '-' then
    match cs.drop letters.length with
    | ':' :: rest => some ({ p.enter with mode := p.mode.switch letters }, rest)
    | ')' :: rest =>
      if letters.isEmpty then none
      else some ({ p with mode := p.mode.switch letters, repeatable := false }, rest)
    | _ => none
  else none

/-- The beginning of a group whose opening parenthesis is passed. -/
def group? (p : Progress) (cs : List Char) : Option (Progress × List Char) :=
  match p.mode.skip cs with
  | '?' :: 'P' :: '<' :: rest | '?' :: '<' :: rest => named? p rest
  | '?' :: rest => switchedGroup? p rest
  | rest => some (p.enter, rest)

def part? (p : Progress) : List Char → Option (Progress × List Char)
  | [] => none
  | c :: rest =>
    match c with
    | '(' => group? p rest
    | ')' =>
      match p.outer with
      | [] => none
      | mode :: outer => some ({ p.item with mode, outer }, rest)
    | '|' => some (p.alternative, rest)
    | '[' => do
      let cs ← afterOpening? p.mode rest
      let cs ← afterClass? p.mode cs.length 0 cs
      some (p.item, cs)
    | '?' | '*' | '+' =>
      if p.repeatable then some (p, if rest.head? = some '?' then rest.tail else rest) else none
    | '\x7b' => none
    | '.' => if p.mode.unicode then some (p.item, rest) else none
    | '^' | '$' => some (p.item, rest)
    | '\\' => do
      let (escape, rest) ← escape? p.mode rest
      if p.mode.allows escape then some (p.item, rest) else none
    | c => if p.mode.allows (.character c.toNat false) then some (p.item, rest) else none

/-- Whether what follows completes a pattern, which has at most `limit` parts left. -/
def completes : Nat → Progress → List Char → Bool
  | 0, p, cs => p.outer.isEmpty && (p.mode.skip cs).isEmpty
  | limit + 1, p, cs =>
    match p.mode.skip cs with
    | [] => p.outer.isEmpty
    | cs =>
      match part? p cs with
      | none => false
      | some (p, rest) => completes limit p rest

def isWellFormed (cs : List Char) : Bool := completes cs.length {} cs

example : isWellFormed "a(b|c)*".toList ∧ ¬ isWellFormed "a(b|*".toList := by decide

end AttributeProfiles.LogFilter.Pattern
