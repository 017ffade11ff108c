import AttributeProfiles.Json.Printer
import AttributeProfiles.Json.Tree

/-!
# Strings read back

A character is written as itself or as an escape, and is read as one letter in either case. The
letters of a printed string spell the string again, whatever characters it has.
-/

namespace AttributeProfiles.Json

/-- The control characters that have an escape of their own. -/
def shortEscapes : List Char := ['\x08', '\x0c', '\n', '\r', '\t']

def letter (c : Char) : Letter :=
  if c.toNat < 0x20 ∧ c ∉ shortEscapes then .code c.toNat else .plain c

theorem hexNumber?_hexDigits : ∀ n < 0x20,
    Tree.hexNumber? ['0', '0', hexDigit (n / 16), hexDigit (n % 16)] = some n := by
  decide

theorem letters?_escape (read : List Letter) (c : Char) (rest : List Char) :
    Tree.letters? read (escape c ++ rest) = Tree.letters? (letter c :: read) rest := by
  unfold escape
  split
  case h_8 hquote hbackslash hb hf hn hr ht =>
    have hshort : c ∉ shortEscapes := by
      simpa [shortEscapes] using ⟨hb, hf, hn, hr, ht⟩
    by_cases hcontrol : c.toNat < 0x20
    · have hletter : letter c = .code c.toNat := if_pos ⟨hcontrol, hshort⟩
      rw [if_pos hcontrol, hletter]
      simp [Tree.letters?, hexNumber?_hexDigits c.toNat hcontrol]
    · have hletter : letter c = .plain c := if_neg fun h => hcontrol h.1
      rw [if_neg hcontrol, hletter, List.cons_append, List.nil_append]
      conv => lhs; unfold Tree.letters?
      rw [if_neg hquote, if_neg hbackslash, if_neg hcontrol]
  all_goals rfl

theorem letters?_escaped (read : List Letter) (cs rest : List Char) :
    Tree.letters? read (cs.flatMap escape ++ '"' :: rest) =
      some (read.reverse ++ cs.map letter, rest) := by
  induction cs generalizing read with
  | nil =>
    rw [List.map_nil, List.append_nil, List.flatMap_nil, List.nil_append]
    unfold Tree.letters?
    rw [if_pos rfl]
  | cons c cs ih =>
    rw [List.flatMap_cons, List.append_assoc, letters?_escape, ih]
    simp

theorem quoted_append (s : String) (rest : List Char) :
    quoted s ++ rest = '"' :: (s.toList.flatMap escape ++ '"' :: rest) := by
  simp [quoted]

theorem letters?_quoted (s : String) (rest : List Char) :
    Tree.letters? [] (s.toList.flatMap escape ++ '"' :: rest) = some (s.toList.map letter, rest) :=
  letters?_escaped [] s.toList rest

theorem charsOfLetters?_letters (read cs : List Char) :
    charsOfLetters? read (cs.map letter) = some (read.reverse ++ cs) := by
  induction cs generalizing read with
  | nil => simp [charsOfLetters?]
  | cons c cs ih =>
    rw [List.map_cons]
    by_cases hcode : c.toNat < 0x20 ∧ c ∉ shortEscapes
    · have hletter : letter c = .code c.toNat := if_pos hcode
      have hrange : c.toNat < 0xD800 ∨ 0xDFFF < c.toNat := by omega
      rw [hletter]
      unfold charsOfLetters?
      rw [if_pos hrange, Char.ofNat_toNat, ih]
      simp
    · have hletter : letter c = .plain c := if_neg hcode
      rw [hletter, charsOfLetters?, ih]
      simp

@[simp] theorem textOfLetters?_letters (s : String) :
    textOfLetters? (s.toList.map letter) = some s := by
  simp [textOfLetters?, charsOfLetters?_letters]

example : letter '\x1f' = .code 31 := by decide

end AttributeProfiles.Json
