import AttributeProfiles.Number.Digits
import AttributeProfiles.Number.Double
import AttributeProfiles.Number.Word

/-!
# TOML scalars other than strings

Numbers, booleans, dates and times. A configuration has no use for their values, so a reader says
only where a well-formed scalar ends. Still, an integer has to fit 64 bits, a date has to exist, and
a float must not be beyond the largest double.
-/

namespace AttributeProfiles.Toml

/-- The text after one of these characters. -/
def after? (p : Char → Bool) : List Char → Option (List Char)
  | c :: rest => if p c then some rest else none
  | [] => none

/-- Further digits after a digit, each of which may follow an underscore. -/
def moreDigits (isDigit : Char → Bool) : List Char → List Char × List Char
  | [] => ([], [])
  | c :: cs =>
    if isDigit c then
      let (digits, rest) := moreDigits isDigit cs
      (c :: digits, rest)
    else if c = '_' then
      match cs with
      | d :: cs' =>
        if isDigit d then
          let (digits, rest) := moreDigits isDigit cs'
          (d :: digits, rest)
        else ([], c :: cs)
      | [] => ([], [c])
    else ([], c :: cs)

/-- Digits with underscores between them, without these underscores, and the text after them. -/
def digits? (isDigit : Char → Bool) : List Char → Option (List Char × List Char)
  | c :: cs =>
    if isDigit c then
      let (digits, rest) := moreDigits isDigit cs
      some (c :: digits, rest)
    else none
  | [] => none

/-- A text without its sign, and whether the sign is a minus. -/
def unsigned : List Char → Bool × List Char
  | '+' :: rest => (false, rest)
  | '-' :: rest => (true, rest)
  | cs => (false, cs)

/-- A decimal integer: whether it is negative, and its digits. Only 0 begins with the digit 0. -/
def decimalInteger? (cs : List Char) : Option ((Bool × List Char) × List Char) :=
  let (negative, cs) := unsigned cs
  match cs with
  | '0' :: rest => some ((negative, ['0']), rest)
  | cs => (digits? Char.isDigit cs).map fun (digits, rest) => ((negative, digits), rest)

/-- The end of an integer with a base. -/
def basedInteger? (base : Nat) (isDigit : Char → Bool) (cs : List Char) : Option (List Char) := do
  let (digits, rest) ← digits? isDigit cs
  if Digits.number base digits < Word.signedBound then some rest else none

def integer? : List Char → Option (List Char)
  | '0' :: 'x' :: rest => basedInteger? 16 Digits.isHex rest
  | '0' :: 'o' :: rest => basedInteger? 8 (fun c => decide ('0' ≤ c ∧ c ≤ '7')) rest
  | '0' :: 'b' :: rest => basedInteger? 2 (fun c => c == '0' || c == '1') rest
  | cs => do
    let ((negative, digits), rest) ← decimalInteger? cs
    if Word.IsSigned (Word.signed negative (Digits.number 10 digits)) then some rest else none

/-- Whether digits times a power of ten lie beyond the largest double. -/
def isTooLarge (digits : List Char) (power : Int) : Bool :=
  let significant := digits.dropWhile (· == '0')
  let magnitude : Int := significant.length + power
  if significant.isEmpty ∨ magnitude < 300 then false
  else if 320 < magnitude then true
  else
    let (num, den) := Double.scaleRatio 10 (Digits.number 10 significant) 1 power
    (Double.nearest? num den).isNone

def fraction? : List Char → Option (List Char × List Char)
  | '.' :: rest => digits? Char.isDigit rest
  | _ => none

def exponent? : List Char → Option (Int × List Char)
  | c :: rest =>
    if c = 'e' ∨ c = 'E' then do
      let (negative, rest) := unsigned rest
      let (digits, rest) ← digits? Char.isDigit rest
      some (Word.signed negative (Digits.number 10 digits), rest)
    else none
  | [] => none

/-- The end of a float with a fraction, an exponent or both. A negative one may be too large. -/
def decimalFloat? (cs : List Char) : Option (List Char) := do
  let ((negative, whole), rest) ← decimalInteger? cs
  let (fraction, hasFraction, rest) := match fraction? rest with
    | some (fraction, rest) => (fraction, true, rest)
    | none => ([], false, rest)
  let (power, hasExponent, rest) := match exponent? rest with
    | some (power, rest) => (power, true, rest)
    | none => (0, false, rest)
  if !hasFraction && !hasExponent then none
  else if !negative && isTooLarge (whole ++ fraction) (power - fraction.length) then none
  else some rest

/-- The end of a float without digits. -/
def namedFloat? (cs : List Char) : Option (List Char) :=
  match (unsigned cs).2 with
  | 'i' :: 'n' :: 'f' :: rest => some rest
  | 'n' :: 'a' :: 'n' :: rest => some rest
  | _ => none

def boolean? : List Char → Option (List Char)
  | 't' :: 'r' :: 'u' :: 'e' :: rest => some rest
  | 'f' :: 'a' :: 'l' :: 's' :: 'e' :: rest => some rest
  | _ => none

/-- The number that exactly `count` digits spell. -/
def fixedDigits? (count : Nat) (cs : List Char) : Option (Nat × List Char) :=
  let digits := cs.take count
  if digits.length = count ∧ digits.all Char.isDigit then
    some (Digits.number 10 digits, cs.drop count)
  else none

def daysInMonth (year month : Nat) : Nat :=
  if month = 2 then
    if year % 4 = 0 ∧ (year % 100 ≠ 0 ∨ year % 400 = 0) then 29 else 28
  else if month ∈ [4, 6, 9, 11] then 30 else 31

def date? (cs : List Char) : Option (List Char) := do
  let (year, rest) ← fixedDigits? 4 cs
  let (month, rest) ← fixedDigits? 2 (← after? (· == '-') rest)
  let (day, rest) ← fixedDigits? 2 (← after? (· == '-') rest)
  if 1 ≤ month ∧ month ≤ 12 ∧ 1 ≤ day ∧ day ≤ daysInMonth year month then some rest else none

def time? (cs : List Char) : Option (List Char) := do
  let (hour, rest) ← fixedDigits? 2 cs
  let (minute, rest) ← fixedDigits? 2 (← after? (· == ':') rest)
  let (second, rest) ← fixedDigits? 2 (← after? (· == ':') rest)
  if 23 < hour ∨ 59 < minute ∨ 60 < second then none
  match rest with
  | '.' :: d :: more => some (if d.isDigit then more.dropWhile Char.isDigit else rest)
  | rest => some rest

def offset? (cs : List Char) : Option (List Char) :=
  match cs with
  | c :: rest =>
    if c = 'Z' ∨ c = 'z' then some rest
    else if c = '+' ∨ c = '-' then do
      let (hour, rest) ← fixedDigits? 2 rest
      let (minute, rest) ← fixedDigits? 2 (← after? (· == ':') rest)
      if hour ≤ 23 ∧ minute ≤ 59 then some rest else none
    else none
  | [] => none

/-- The end of a date with or without a time of day, or of a time of day alone. -/
def moment? (cs : List Char) : Option (List Char) :=
  match date? cs with
  | none => time? cs
  | some rest =>
    match (after? (fun c => c == 'T' || c == 't' || c == ' ') rest).bind time? with
    | none => some rest
    | some rest => some ((offset? rest).getD rest)

/-- The end of a number or a boolean. -/
def plainScalar? (cs : List Char) : Option (List Char) :=
  decimalFloat? cs <|> namedFloat? cs <|> integer? cs <|> boolean? cs

end AttributeProfiles.Toml
