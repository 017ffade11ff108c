import AttributeProfiles.Json.Value
import AttributeProfiles.Number.Digits
import AttributeProfiles.Number.Word

/-!
# JSON texts as trees

Reading a JSON text takes two steps. The first follows the grammar and keeps how things are spelled:
the digits of a number, the escapes of a string, every member of an object. The second gives the
tree a value. It can fail where the grammar cannot tell: for a number beyond the doubles, half of a
surrogate pair, or too deep a nesting. A reader that has no use for a part of the tree leaves that
part without a value.
-/

namespace AttributeProfiles.Json

structure Numeral where
  negative : Bool
  whole : List Char
  fraction : Option (List Char)
  exponent : Option (Bool × List Char)
deriving DecidableEq, Repr

/-- A letter of a string: a character, or the code of an escape with four hexadecimal digits. -/
inductive Letter where
  | plain (c : Char)
  | code (n : Nat)
deriving DecidableEq, Repr

/-- A JSON text as it is spelled. -/
inductive Tree where
  | null
  | boolean (value : Bool)
  | number (spelling : Numeral)
  | text (letters : List Letter)
  | list (items : List Tree)
  | object (members : List (List Letter × Tree))
deriving Repr

namespace Tree

/-- The four characters that may stand between tokens. -/
def isBlank (c : Char) : Bool := c == ' ' || c == '\t' || c == '\n' || c == '\r'

def skipBlanks (cs : List Char) : List Char := cs.dropWhile isBlank

def hexNumber? (cs : List Char) : Option Nat :=
  if cs.all Digits.isHex then some (Digits.number 16 cs) else none

def escaped? (c : Char) : Option Char :=
  match c with
  | '"' => some '"'
  | '\\' => some '\\'
  | '/' => some '/'
  | 'b' => some '\x08'
  | 'f' => some '\x0c'
  | 'n' => some '\n'
  | 'r' => some '\r'
  | 't' => some '\t'
  | _ => none

/-- The letters up to the closing quotation mark, put before those already `read` in reverse, and
the text after it. -/
def letters? (read : List Letter) : List Char → Option (List Letter × List Char)
  | [] => none
  | c :: cs =>
    if c = '"' then some (read.reverse, cs)
    else if c = '\\' then
      match cs with
      | 'u' :: a :: b :: c :: d :: rest =>
        match hexNumber? [a, b, c, d] with
        | some n => letters? (.code n :: read) rest
        | none => none
      | e :: rest =>
        match escaped? e with
        | some x => letters? (.plain x :: read) rest
        | none => none
      | [] => none
    else if c.toNat < 0x20 then none
    else letters? (.plain c :: read) cs

/-- The longest run of digits, which must not be empty, and the text after it. -/
def digits? (cs : List Char) : Option (List Char × List Char) :=
  let run := cs.takeWhile Char.isDigit
  if run.isEmpty then none else some (run, cs.dropWhile Char.isDigit)

def fraction? : List Char → Option (Option (List Char) × List Char)
  | '.' :: rest => (digits? rest).map fun (run, rest) => (some run, rest)
  | cs => some (none, cs)

/-- The exponent of a number, if one follows: whether it is negative, and its digits. -/
def exponent? : List Char → Option (Option (Bool × List Char) × List Char)
  | c :: rest =>
    if c = 'e' ∨ c = 'E' then
      let signed : Bool × List Char := match rest with
        | '+' :: rest => (false, rest)
        | '-' :: rest => (true, rest)
        | rest => (false, rest)
      (digits? signed.2).map fun (run, rest) => (some (signed.1, run), rest)
    else some (none, c :: rest)
  | [] => some (none, [])

/-- A number and the text after it. Its whole part has no needless leading zero. -/
def numeral? (cs : List Char) : Option (Numeral × List Char) := do
  let negative := cs.head? = some '-'
  let (whole, rest) ← digits? (if negative then cs.tail else cs)
  if 1 < whole.length ∧ whole.head? = some '0' then none
  let (fraction, rest) ← fraction? rest
  let (exponent, rest) ← exponent? rest
  some (⟨negative, whole, fraction, exponent⟩, rest)

/-- The items of a list up to its closing bracket, at most `limit` of them. -/
def items? (item : List Char → Option (Tree × List Char)) :
    Nat → List Char → Option (List Tree × List Char)
  | 0, _ => none
  | limit + 1, cs => do
    let (first, rest) ← item cs
    match skipBlanks rest with
    | ',' :: rest =>
      let (others, rest) ← items? item limit rest
      some (first :: others, rest)
    | ']' :: rest => some ([first], rest)
    | _ => none

/-- The members of an object up to its closing brace, at most `limit` of them. -/
def members? (item : List Char → Option (Tree × List Char)) :
    Nat → List Char → Option (List (List Letter × Tree) × List Char)
  | 0, _ => none
  | limit + 1, cs => do
    let '"' :: rest := skipBlanks cs | none
    let (name, rest) ← letters? [] rest
    let ':' :: rest := skipBlanks rest | none
    let (value, rest) ← item rest
    match skipBlanks rest with
    | ',' :: rest =>
      let (others, rest) ← members? item limit rest
      some ((name, value) :: others, rest)
    | '\x7d' :: rest => some ([(name, value)], rest)
    | _ => none

/-- The tree at the start of a text of less than `size` characters, and the text after it. -/
def tree? : Nat → List Char → Option (Tree × List Char)
  | 0, _ => none
  | size + 1, cs =>
    match skipBlanks cs with
    | 'n' :: 'u' :: 'l' :: 'l' :: rest => some (.null, rest)
    | 't' :: 'r' :: 'u' :: 'e' :: rest => some (.boolean true, rest)
    | 'f' :: 'a' :: 'l' :: 's' :: 'e' :: rest => some (.boolean false, rest)
    | '"' :: rest => (letters? [] rest).map fun (letters, rest) => (.text letters, rest)
    | '[' :: rest =>
      match skipBlanks rest with
      | ']' :: rest => some (.list [], rest)
      | rest => (items? (tree? size) size rest).map fun (items, rest) => (.list items, rest)
    | '\x7b' :: rest =>
      match skipBlanks rest with
      | '\x7d' :: rest => some (.object [], rest)
      | rest => (members? (tree? size) size rest).map fun (members, rest) =>
          (.object members, rest)
    | rest => (numeral? rest).map fun (spelling, rest) => (.number spelling, rest)

def read? (text : String) : Option Tree := do
  let cs := text.toList
  let (tree, rest) ← tree? (cs.length + 1) cs
  if skipBlanks rest = [] then some tree else none

end Tree

/-- The characters that letters spell, after those already `read` in reverse. A code between
`D800` and `DFFF` stands for a character only together with its other half. -/
def charsOfLetters? (read : List Char) : List Letter → Option (List Char)
  | [] => some read.reverse
  | .plain c :: rest => charsOfLetters? (c :: read) rest
  | .code n :: rest =>
    if n < 0xD800 ∨ 0xDFFF < n then charsOfLetters? (Char.ofNat n :: read) rest
    else if n < 0xDC00 then
      match rest with
      | .code m :: rest =>
        if 0xDC00 ≤ m ∧ m ≤ 0xDFFF then
          charsOfLetters? (Char.ofNat (0x10000 + (n - 0xD800) * 0x400 + (m - 0xDC00)) :: read) rest
        else none
      | _ => none
    else none

def textOfLetters? (letters : List Letter) : Option String :=
  (charsOfLetters? [] letters).map String.ofList

namespace Numeral

/-- Digits taken into a significand of 64 bits: the significand, and how many were taken. From the
first digit that does not fit on, none is taken. -/
def significand (start : Nat) (digits : List Char) : Nat × Nat :=
  let (value, taken, _) := digits.foldl (fun (value, taken, full) c =>
    let next := 10 * value + Digits.value c
    if full || decide (Word.unsignedBound ≤ next) then (value, taken, true)
    else (next, taken + 1, false)) (start, 0, false)
  (value, taken)

/-- A double times a power of ten, unless it is too large. Beyond the powers of ten that are
doubles, the division goes in steps. -/
def scaleTen? (d : Double) (power : Int) : Option Double :=
  if power.natAbs ≤ 308 then
    if 0 ≤ power then d.mul? (.tenPower power.natAbs) else d.div? (.tenPower power.natAbs)
  else if d.isZero then some d
  else if 0 ≤ power then none
  else (d.div? (.tenPower 308)).bind fun d => scaleTen? d (power + 308)
termination_by power.natAbs
decreasing_by omega

def exponentValue : Option (Bool × List Char) → Int
  | none => 0
  | some (negative, digits) => Word.signed negative (Digits.number 10 digits)

/-- The number that is spelled, unless it lies beyond the doubles. -/
def number? (s : Numeral) : Option Number :=
  let (whole, takenWhole) := significand 0 s.whole
  if s.fraction.isNone && s.exponent.isNone && takenWhole == s.whole.length then
    if !s.negative then some (.integer whole)
    else if whole ≠ 0 ∧ whole ≤ Word.signedBound then some (.integer (-whole))
    else (Double.nearest? whole 1).map (.double true)
  else
    let (value, takenFraction) := significand whole (s.fraction.getD [])
    let power : Int := (s.whole.length - takenWhole : Nat) - (takenFraction : Int) +
      exponentValue s.exponent
    ((Double.nearest? value 1).bind (scaleTen? · power)).map (.double s.negative)

end Numeral

namespace Tree

/-- The value of a tree that is nested at most `depth` deep. Of two members with one name the later
value is kept, at the earlier place. -/
def value? : Nat → Tree → Option Value
  | _, .null => some .null
  | _, .boolean b => some (.boolean b)
  | _, .number s => s.number?.map .number
  | _, .text letters => (textOfLetters? letters).map .text
  | 0, .list _ => none
  | 0, .object _ => none
  | depth + 1, .list items => (items.mapM (value? depth)).map .list
  | depth + 1, .object members => do
    let entries ← members.mapM fun (name, tree) => do
      some (← textOfLetters? name, ← value? depth tree)
    some (.object (Table.ofList entries).entries)

end Tree

def maxDepth : Nat := 127

def Value.read? (text : String) : Option Value :=
  (Tree.read? text).bind (Tree.value? maxDepth)

end AttributeProfiles.Json
