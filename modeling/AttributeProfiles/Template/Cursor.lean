import AttributeProfiles.Template.Basic
import AttributeProfiles.Text.Blank

/-!
# Cursors

A cursor stands between two characters of a template's source. It knows the characters that follow,
the number of bytes that it has passed, which is what error messages report, and how many
expressions enclose it.
-/

namespace AttributeProfiles.Template

structure Cursor where
  rest : List Char
  position : Nat
  depth : Nat
deriving DecidableEq, Repr

namespace Cursor

def start (source : String) : Cursor := ⟨source.toList, 0, 0⟩

def next (c : Cursor) : Cursor :=
  match c.rest with
  | [] => c
  | x :: xs => { c with rest := xs, position := c.position + x.utf8Size }

/-- The place after the run of characters that satisfy `p`. -/
def skipWhile (p : Char → Bool) (c : Cursor) : Cursor :=
  { c with
    rest := c.rest.dropWhile p
    position := c.position + Text.byteLength (c.rest.takeWhile p) }

def skipBlanks (c : Cursor) : Cursor := c.skipWhile Text.isBlank

/-- The place after `x`, if that is what follows the blanks. -/
def eat? (x : Char) (c : Cursor) : Option Cursor :=
  if c.skipBlanks.rest.head? = some x then some c.skipBlanks.next else none

def fault (c : Cursor) (fault : Fault) : Error := .malformed c.position fault

def deeper (c : Cursor) : Cursor := { c with depth := c.depth + 1 }

/-- The same place outside the innermost expression. -/
def shallower (c : Cursor) : Cursor := { c with depth := c.depth - 1 }

@[simp] theorem skipWhile_rest (p : Char → Bool) (c : Cursor) :
    (c.skipWhile p).rest = c.rest.dropWhile p := rfl

@[simp] theorem skipWhile_depth (p : Char → Bool) (c : Cursor) :
    (c.skipWhile p).depth = c.depth := rfl

@[simp] theorem skipBlanks_depth (c : Cursor) : c.skipBlanks.depth = c.depth := rfl

@[simp] theorem next_rest (c : Cursor) : c.next.rest = c.rest.tail := by
  unfold next
  split <;> simp_all

@[simp] theorem next_depth (c : Cursor) : c.next.depth = c.depth := by
  unfold next
  split <;> rfl

theorem eat?_eq_some_iff {x : Char} {c c' : Cursor} :
    c.eat? x = some c' ↔ c.skipBlanks.rest.head? = some x ∧ c' = c.skipBlanks.next := by
  rw [eat?, Option.ite_none_right_eq_some, Option.some.injEq, eq_comm (a := c')]

end Cursor

end AttributeProfiles.Template
