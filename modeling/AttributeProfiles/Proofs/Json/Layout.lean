import AttributeProfiles.Json.Printer
import AttributeProfiles.Json.Tree

/-!
# Layouts

The two printed forms of a JSON value differ only in what stands between its tokens. A layout says
what that is: blanks, on which a reader does not depend. So what is proved of texts in any layout
holds of the compact form and of the laid out form.
-/

namespace AttributeProfiles.Json

/-- What stands before each item and member of a level and before the bracket that closes it, and
what stands after a colon. -/
structure Layout where
  line : Nat → List Char
  gap : List Char
  blank_line : ∀ level, ∀ c ∈ line level, Tree.isBlank c = true
  blank_gap : ∀ c ∈ gap, Tree.isBlank c = true

namespace Layout

def compact : Layout where
  line _ := []
  gap := []
  blank_line := by simp
  blank_gap := by simp

def indented : Layout where
  line := Value.newLine
  gap := [' ']
  blank_line := by
    intro level c hc
    rcases List.mem_cons.1 hc with rfl | hc
    · rfl
    · rw [List.eq_of_mem_replicate hc]
      rfl
  blank_gap := by simp [Tree.isBlank]

mutual

def chars (l : Layout) (level : Nat) : Value → List Char
  | .null => "null".toList
  | .boolean true => "true".toList
  | .boolean false => "false".toList
  | .number n => n.toText.toList
  | .text s => quoted s
  | .list [] => "[]".toList
  | .list (item :: items) =>
    '[' :: l.line (level + 1) ++ chars l (level + 1) item ++ itemChars l level items
  | .object [] => "\x7b\x7d".toList
  | .object ((name, value) :: members) =>
    '\x7b' :: l.line (level + 1) ++ quoted name ++ ':' :: l.gap ++ chars l (level + 1) value ++
      memberChars l level members

def itemChars (l : Layout) (level : Nat) : List Value → List Char
  | [] => l.line level ++ [']']
  | item :: items =>
    ',' :: l.line (level + 1) ++ chars l (level + 1) item ++ itemChars l level items

def memberChars (l : Layout) (level : Nat) : List (String × Value) → List Char
  | [] => l.line level ++ ['\x7d']
  | (name, value) :: members =>
    ',' :: l.line (level + 1) ++ quoted name ++ ':' :: l.gap ++ chars l (level + 1) value ++
      memberChars l level members

end

mutual

theorem chars_compact (level : Nat) : (v : Value) → compact.chars level v = v.compactChars
  | .null | .boolean true | .boolean false | .number _ | .text _ | .list [] | .object [] => by
    simp only [chars, Value.compactChars]
  | .list (item :: items) => by
    simp [chars, Value.compactChars, compact, ← chars_compact (level + 1) item,
      ← itemChars_compact level items]
  | .object ((name, value) :: members) => by
    simp [chars, Value.compactChars, compact, ← chars_compact (level + 1) value,
      ← memberChars_compact level members]

theorem itemChars_compact (level : Nat) :
    (items : List Value) → compact.itemChars level items = Value.compactItems items
  | [] => rfl
  | item :: items => by
    simp [itemChars, Value.compactItems, compact, ← chars_compact (level + 1) item,
      ← itemChars_compact level items]

theorem memberChars_compact (level : Nat) : (members : List (String × Value)) →
    compact.memberChars level members = Value.compactMembers members
  | [] => rfl
  | (name, value) :: members => by
    simp [memberChars, Value.compactMembers, compact, ← chars_compact (level + 1) value,
      ← memberChars_compact level members]

end

mutual

theorem chars_indented (level : Nat) : (v : Value) → indented.chars level v = v.laidOutChars level
  | .null | .boolean true | .boolean false | .number _ | .text _ | .list [] | .object [] => by
    simp only [chars, Value.laidOutChars]
  | .list (item :: items) => by
    simp [chars, Value.laidOutChars, indented, ← chars_indented (level + 1) item,
      ← itemChars_indented level items]
  | .object ((name, value) :: members) => by
    simp [chars, Value.laidOutChars, indented, ← chars_indented (level + 1) value,
      ← memberChars_indented level members]

theorem itemChars_indented (level : Nat) :
    (items : List Value) → indented.itemChars level items = Value.laidOutItems level items
  | [] => rfl
  | item :: items => by
    simp [itemChars, Value.laidOutItems, indented, ← chars_indented (level + 1) item,
      ← itemChars_indented level items]

theorem memberChars_indented (level : Nat) : (members : List (String × Value)) →
    indented.memberChars level members = Value.laidOutMembers level members
  | [] => rfl
  | (name, value) :: members => by
    simp [memberChars, Value.laidOutMembers, indented, ← chars_indented (level + 1) value,
      ← memberChars_indented level members]

end

end Layout

end AttributeProfiles.Json
