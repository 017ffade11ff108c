/-!
# Double-precision magnitudes

A finite double without its sign is an integer mantissa times a power of two. A ratio of natural
numbers is rounded to the nearest of them, a tie to the even mantissa, and products and quotients
are rounded from their exact value.
-/

namespace AttributeProfiles

/-- The magnitude `mantissa * 2 ^ exponent`. A nonzero magnitude made by rounding has a mantissa of
53 bits, or fewer at the least exponent, which is -1074. -/
structure Double where
  mantissa : Nat
  exponent : Int
deriving DecidableEq, Repr

namespace Double

def zero : Double := ⟨0, -1074⟩

instance : Inhabited Double := ⟨zero⟩

def isZero (d : Double) : Bool := d.mantissa == 0

def scaleRatio (base num den : Nat) (power : Int) : Nat × Nat :=
  if 0 ≤ power then (num * base.pow power.toNat, den) else (num, den * base.pow (-power).toNat)

/-- The least mantissa of 53 bits. -/
def leastFull : Nat := 4503599627370496

/-- The natural number nearest to `num / den`, the even one where two are equally near. -/
def roundEven (num den : Nat) : Nat :=
  let q := num / den
  let r := num % den
  if 2 * r < den then q else if den < 2 * r then q + 1 else q + q % 2

/-- The double nearest to `num / den`, unless it lies beyond the largest double. -/
def nearest? (num den : Nat) : Option Double :=
  if num = 0 then some zero
  else
    let estimate : Int := (num.log2 : Int) - den.log2 - 52
    let trial := scaleRatio 2 num den (-estimate)
    let regular := if trial.1 / trial.2 < leastFull then estimate - 1 else estimate
    let exponent := max regular (-1074)
    let ratio := scaleRatio 2 num den (-exponent)
    let mantissa := roundEven ratio.1 ratio.2
    let rounded : Double :=
      if mantissa = 2 * leastFull then ⟨leastFull, exponent + 1⟩ else ⟨mantissa, exponent⟩
    if 971 < rounded.exponent then none else some rounded

def ratio (d : Double) : Nat × Nat := scaleRatio 2 d.mantissa 1 d.exponent

def mul? (a b : Double) : Option Double :=
  nearest? (a.ratio.1 * b.ratio.1) (a.ratio.2 * b.ratio.2)

def div? (a b : Double) : Option Double :=
  nearest? (a.ratio.1 * b.ratio.2) (a.ratio.2 * b.ratio.1)

def tenPower (n : Nat) : Double := (nearest? (Nat.pow 10 n) 1).getD zero

example : nearest? 1 10 = some ⟨7205759403792794, -56⟩ := by decide +kernel

end Double

end AttributeProfiles
