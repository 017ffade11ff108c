/-!
# Integers of 64 bits

The integers that fit a word of 64 bits, with a sign and without one.
-/

namespace AttributeProfiles.Word

/-- The least natural number that is too large for a word with a sign. -/
def signedBound : Nat := 9223372036854775808

/-- The least natural number that is too large for a word without a sign. -/
def unsignedBound : Nat := 18446744073709551616

/-- An integer fits a word with a sign; the negative side reaches one further. -/
def IsSigned (n : Int) : Prop := -(signedBound : Int) ≤ n ∧ n < (signedBound : Int)

instance (n : Int) : Decidable (IsSigned n) := by
  unfold IsSigned
  infer_instance

def signed (negative : Bool) (magnitude : Nat) : Int := if negative then -magnitude else magnitude

end AttributeProfiles.Word
