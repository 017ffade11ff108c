import AttributeProfiles.Json.Value

/-!
# Printing JSON

A value is printed in one of two forms: compact, on one line without blanks, or laid out, with each
item and member on a line of its own and two more spaces for each level. Empty lists and objects
are closed at once in both.
-/

namespace AttributeProfiles.Json

def hexDigit (n : Nat) : Char := Nat.digitChar n

/-- A character as it is written in a string: quotation marks, backslashes and control characters
are escaped, all others stand for themselves. -/
def escape (c : Char) : List Char :=
  match c with
  | '"' => ['\\', '"']
  | '\\' => ['\\', '\\']
  | '\x08' => ['\\', 'b']
  | '\x0c' => ['\\', 'f']
  | '\n' => ['\\', 'n']
  | '\r' => ['\\', 'r']
  | '\t' => ['\\', 't']
  | c =>
    if c.toNat < 0x20 then
      ['\\', 'u', '0', '0', hexDigit (c.toNat / 16), hexDigit (c.toNat % 16)]
    else [c]

def quoted (s : String) : List Char := '"' :: s.toList.flatMap escape ++ ['"']

namespace Value

mutual

def compactChars : Value → List Char
  | .null => "null".toList
  | .boolean true => "true".toList
  | .boolean false => "false".toList
  | .number n => n.toText.toList
  | .text s => quoted s
  | .list [] => "[]".toList
  | .list (item :: items) => '[' :: compactChars item ++ compactItems items
  | .object [] => "\x7b\x7d".toList
  | .object ((name, value) :: members) =>
    '\x7b' :: quoted name ++ ':' :: compactChars value ++ compactMembers members

/-- The items after the first, and the closing bracket. -/
def compactItems : List Value → List Char
  | [] => [']']
  | item :: items => ',' :: compactChars item ++ compactItems items

/-- The members after the first, and the closing brace. -/
def compactMembers : List (String × Value) → List Char
  | [] => ['\x7d']
  | (name, value) :: members =>
    ',' :: quoted name ++ ':' :: compactChars value ++ compactMembers members

end

def compact (v : Value) : String := String.ofList v.compactChars

def newLine (level : Nat) : List Char := '\n' :: List.replicate (2 * level) ' '

mutual

def laidOutChars (level : Nat) : Value → List Char
  | .null => "null".toList
  | .boolean true => "true".toList
  | .boolean false => "false".toList
  | .number n => n.toText.toList
  | .text s => quoted s
  | .list [] => "[]".toList
  | .list (item :: items) =>
    '[' :: newLine (level + 1) ++ laidOutChars (level + 1) item ++ laidOutItems level items
  | .object [] => "\x7b\x7d".toList
  | .object ((name, value) :: members) =>
    '\x7b' :: newLine (level + 1) ++ quoted name ++ ':' :: ' ' :: laidOutChars (level + 1) value ++
      laidOutMembers level members

/-- The items after the first, and the closing bracket on its own line. -/
def laidOutItems (level : Nat) : List Value → List Char
  | [] => newLine level ++ [']']
  | item :: items =>
    ',' :: newLine (level + 1) ++ laidOutChars (level + 1) item ++ laidOutItems level items

/-- The members after the first, and the closing brace on its own line. -/
def laidOutMembers (level : Nat) : List (String × Value) → List Char
  | [] => newLine level ++ ['\x7d']
  | (name, value) :: members =>
    ',' :: newLine (level + 1) ++ quoted name ++ ':' :: ' ' :: laidOutChars (level + 1) value ++
      laidOutMembers level members

end

def laidOut (v : Value) : String := String.ofList (v.laidOutChars 0)

end Value

end AttributeProfiles.Json
