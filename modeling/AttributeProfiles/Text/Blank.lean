/-!
# Blank characters

The 25 characters that Unicode calls white space. Between the braces of a placeholder they separate
tokens and mean nothing.
-/

namespace AttributeProfiles.Text

/-- The code points with the property White_Space, as inclusive ranges in ascending order. -/
def blankRanges : List (Nat × Nat) :=
  [(0x09, 0x0D), (0x20, 0x20), (0x85, 0x85), (0xA0, 0xA0), (0x1680, 0x1680), (0x2000, 0x200A),
   (0x2028, 0x2029), (0x202F, 0x202F), (0x205F, 0x205F), (0x3000, 0x3000)]

def isBlank (c : Char) : Bool :=
  blankRanges.any fun r => decide (r.1 ≤ c.toNat) && decide (c.toNat ≤ r.2)

theorem isBlank_eq_false_of_ascii {c : Char} (low : 0x20 < c.toNat) (high : c.toNat < 0x7F) :
    isBlank c = false := by
  simp [isBlank, blankRanges]
  omega

example : (blankRanges.map fun r => r.2 + 1 - r.1).sum = 25 := by decide

end AttributeProfiles.Text
