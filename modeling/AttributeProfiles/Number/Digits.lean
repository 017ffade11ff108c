/-!
# Digits

The number that a row of digits spells in a base up to sixteen.
-/

namespace AttributeProfiles.Digits

def isHex (c : Char) : Bool :=
  c.isDigit || decide ('a' ≤ c ∧ c ≤ 'f') || decide ('A' ≤ c ∧ c ≤ 'F')

def value (c : Char) : Nat :=
  if c.isDigit then c.toNat - '0'.toNat
  else if 'a' ≤ c ∧ c ≤ 'f' then c.toNat - 'a'.toNat + 10
  else c.toNat - 'A'.toNat + 10

/-- The number that digits of a base spell, the most significant one first. -/
def number (base : Nat) (digits : List Char) : Nat :=
  digits.foldl (fun n c => base * n + value c) 0

@[simp] theorem number_nil (base : Nat) : number base [] = 0 := rfl

theorem number_concat (base : Nat) (digits : List Char) (c : Char) :
    number base (digits ++ [c]) = base * number base digits + value c := by
  simp [number]

example : number 16 ['1', 'f', 'F'] = 511 := by decide

theorem number_zeros_append (base zeros : Nat) (digits : List Char) :
    number base (List.replicate zeros '0' ++ digits) = number base digits := by
  have hzero : value '0' = 0 := by decide
  induction zeros with
  | zero => rfl
  | succ zeros ih =>
    rw [← ih, List.replicate_succ, List.cons_append, number, List.foldl_cons, hzero]
    rfl

theorem value_digitChar {n : Nat} (h : n < 10) : value n.digitChar = n := by
  have hdigits : ∀ n, n < 10 → value n.digitChar = n := by decide
  exact hdigits n h

theorem number_toDigits (n : Nat) : number 10 (Nat.toDigits 10 n) = n := by
  induction n using Nat.strongRecOn with
  | ind n ih =>
    rw [Nat.toDigits_eq_if (by decide)]
    split
    next h => simp [number, value_digitChar h]
    next h =>
      rw [number_concat, ih (n / 10) (by omega), value_digitChar (by omega)]
      omega

end AttributeProfiles.Digits
