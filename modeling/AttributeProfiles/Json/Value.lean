import AttributeProfiles.Number.Shortest
import AttributeProfiles.Table

/-!
# JSON values

A value keeps the members of an object in their order. A number is an integer where its text was
one that fits 64 bits, signed or unsigned, and a double otherwise.
-/

namespace AttributeProfiles.Json

inductive Number where
  | integer (value : Int)
  | double (negative : Bool) (magnitude : Double)
deriving DecidableEq, Repr

inductive Value where
  | null
  | boolean (value : Bool)
  | number (value : Number)
  | text (value : String)
  | list (items : List Value)
  | object (members : List (String × Value))
deriving Repr

instance : Inhabited Value := ⟨.null⟩

namespace Value

def member? : Value → String → Option Value
  | .object members, name => members.lookup name
  | _, _ => none

def texts (values : List String) : Value := .list (values.map .text)

/-- The texts of a list, if the value is a list of nothing else. -/
def texts? : Value → Option (List String)
  | .list items => items.mapM fun
    | .text s => some s
    | _ => none
  | _ => none

@[simp] theorem texts?_texts (values : List String) : (texts values).texts? = some values := by
  induction values with
  | nil => rfl
  | cons v vs ih =>
    simp only [texts, texts?, List.map_cons] at ih ⊢
    simp [ih]

end Value

/-- The exponents of the leading digit for which a double is written without an exponent. -/
def positionalExponents : Int × Int := (-5, 15)

/-- A double in decimal. It has a point or an exponent, so it does not read back as an integer. -/
def doubleText (magnitude : Double) : String :=
  if magnitude.isZero then "0.0"
  else
    let shortest := magnitude.shortest
    let digits := shortest.digits.repr.toList
    let leading : Int := shortest.exponent + digits.length - 1
    let zeros (n : Int) : List Char := List.replicate n.toNat '0'
    String.ofList <|
      if positionalExponents.1 ≤ leading ∧ leading ≤ positionalExponents.2 then
        if 0 ≤ shortest.exponent then digits ++ zeros shortest.exponent ++ ['.', '0']
        else if 0 ≤ leading then
          digits.take (leading + 1).toNat ++ '.' :: digits.drop (leading + 1).toNat
        else '0' :: '.' :: zeros (-leading - 1) ++ digits
      else
        let fraction := digits.drop 1
        digits.take 1 ++ (if fraction.isEmpty then [] else '.' :: fraction) ++
          'e' :: (if 0 ≤ leading then '+' else '-') :: leading.natAbs.repr.toList

def Number.toText : Number → String
  | .integer n => n.repr
  | .double negative magnitude => (if negative then "-" else "") ++ doubleText magnitude

example : Number.toText (.double true (Double.zero)) = "-0.0" := by decide +kernel

example : Number.toText (.double false ⟨7205759403792794, -56⟩) = "0.1" := by decide +kernel

end AttributeProfiles.Json
