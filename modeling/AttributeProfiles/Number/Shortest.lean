import AttributeProfiles.Number.Double

/-!
# Shortest decimal digits

Every double has decimal numbers that round to it. Of those with the fewest digits the one nearest
to the double is chosen, so its text reads back as the same double and no shorter text does.
-/

namespace AttributeProfiles.Double

structure Decimal where
  digits : Nat
  exponent : Int
deriving DecidableEq, Repr

/-- The exponent of the leading decimal digit of a nonzero double. -/
def leadingExponent (d : Double) : Int :=
  let lifted := d.ratio.1 * Nat.pow 10 400 / d.ratio.2
  ((Nat.toDigits 10 lifted).length : Int) - 401

/-- Whether a decimal number rounds to the double: it lies between the midpoints to both neighbours,
which themselves round to the double if its mantissa is even. Below a power of two the lower
neighbour is half as far away. -/
def admits (d : Double) (t : Decimal) : Bool :=
  let lower := if d.mantissa = leastFull ∧ -1074 < d.exponent then 4 * d.mantissa - 1
    else 4 * d.mantissa - 2
  let upper := 4 * d.mantissa + 2
  let low := scaleRatio 2 lower 1 (d.exponent - 2)
  let high := scaleRatio 2 upper 1 (d.exponent - 2)
  let value := scaleRatio 10 t.digits 1 t.exponent
  if d.mantissa % 2 = 0 then
    decide (low.1 * value.2 ≤ value.1 * low.2) && decide (value.1 * high.2 ≤ high.1 * value.2)
  else
    decide (low.1 * value.2 < value.1 * low.2) && decide (value.1 * high.2 < high.1 * value.2)

/-- The decimal number with this many digits that rounds to the double and is nearest to it, if
there is one. Only the two neighbours of the double on the decimal grid can be. The exponent of the
double's leading digit is `leading`. -/
def atPrecision? (d : Double) (leading : Int) (count : Nat) : Option Decimal :=
  let exponent := leading - count + 1
  let scaled := scaleRatio 10 d.ratio.1 d.ratio.2 (-exponent)
  let below : Decimal := ⟨scaled.1 / scaled.2, exponent⟩
  let above : Decimal := ⟨scaled.1 / scaled.2 + 1, exponent⟩
  let nearer := if roundEven scaled.1 scaled.2 = below.digits then [below, above]
    else [above, below]
  nearer.find? (admits d)

def Decimal.reduce : Nat → Decimal → Decimal
  | 0, t => t
  | n + 1, t =>
    if t.digits % 10 = 0 ∧ t.digits ≠ 0 then reduce n ⟨t.digits / 10, t.exponent + 1⟩ else t

/-- The shortest decimal number that rounds to a nonzero double; seventeen digits always do. -/
def shortest (d : Double) : Decimal :=
  let leading := leadingExponent d
  (((List.range 17).findSome? fun n => atPrecision? d leading (n + 1)).getD ⟨0, 0⟩).reduce 17

example : shortest ⟨7205759403792794, -56⟩ = ⟨1, -1⟩ := by decide +kernel

example : shortest ⟨1, -1074⟩ = ⟨5, -324⟩ := by decide +kernel

end AttributeProfiles.Double
