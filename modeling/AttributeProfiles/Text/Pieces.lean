/-!
# Pieces of a text

A separator character cuts a text into pieces and joins pieces into a text. Cutting yields at least
one piece, also where the text is empty, and joining the pieces of a text restores it. A text can
also be cut at positions that count the bytes before them.
-/

namespace AttributeProfiles.Text

/-- The pieces of `s` between the occurrences of `sep`, in order. -/
def split (sep : Char) (s : String) : List String :=
  (s.toList.splitOn sep).map String.ofList

/-- The text made of `pieces` with `sep` between neighbours. -/
def join (sep : Char) (pieces : List String) : String :=
  String.ofList ([sep].intercalate (pieces.map String.toList))

theorem split_ne_nil (sep : Char) (s : String) : split sep s ≠ [] := by
  simp [split, List.splitOn_eq_splitOnP, List.splitOnP_ne_nil]

@[simp] theorem join_split (sep : Char) (s : String) : join sep (split sep s) = s := by
  have h : (String.toList ∘ String.ofList) = id := by
    funext cs
    simp
  simp [join, split, h, List.intercalate_splitOn]

theorem split_eq_singleton {sep : Char} {s : String} (h : sep ∉ s.toList) :
    split sep s = [s] := by
  simp [split, List.splitOn_eq_singleton h]

/-- The number of bytes that UTF-8 takes for these characters. -/
def byteLength (cs : List Char) : Nat := cs.foldr (fun c n => c.utf8Size + n) 0

@[simp] theorem byteLength_nil : byteLength [] = 0 := rfl

@[simp] theorem byteLength_cons (c : Char) (cs : List Char) :
    byteLength (c :: cs) = c.utf8Size + byteLength cs := rfl

@[simp] theorem byteLength_append (cs ds : List Char) :
    byteLength (cs ++ ds) = byteLength cs + byteLength ds := by
  induction cs with
  | nil => simp
  | cons c cs ih => simp [ih, Nat.add_assoc]

theorem byteLength_replicate (n : Nat) (c : Char) :
    byteLength (List.replicate n c) = n * c.utf8Size := by
  induction n with
  | zero => simp
  | succ n ih => rw [List.replicate_succ, byteLength_cons, ih, Nat.succ_mul, Nat.add_comm]

/-- The characters from the byte position `n` on, if that is the start of a character or the end. -/
def dropBytes? : Nat → List Char → Option (List Char)
  | 0, cs => some cs
  | _ + 1, [] => none
  | n + 1, c :: cs => if c.utf8Size ≤ n + 1 then dropBytes? (n + 1 - c.utf8Size) cs else none

/-- The characters before the byte position `n`, if that is the start of a character or the end. -/
def takeBytes? : Nat → List Char → Option (List Char)
  | 0, _ => some []
  | _ + 1, [] => none
  | n + 1, c :: cs =>
    if c.utf8Size ≤ n + 1 then (takeBytes? (n + 1 - c.utf8Size) cs).map (c :: ·) else none

/-- The characters between two byte positions. -/
def slice? (start stop : Nat) (cs : List Char) : Option (List Char) :=
  (dropBytes? start cs).bind (takeBytes? (stop - start))

@[simp] theorem dropBytes?_append (cs ds : List Char) :
    dropBytes? (byteLength cs) (cs ++ ds) = some ds := by
  induction cs with
  | nil => simp [dropBytes?]
  | cons c cs ih =>
    have size : c.utf8Size ≠ 0 := Nat.pos_iff_ne_zero.mp c.utf8Size_pos
    obtain ⟨n, hn⟩ := Nat.exists_eq_succ_of_ne_zero (n := c.utf8Size + byteLength cs) (by omega)
    rw [byteLength_cons, hn, List.cons_append, dropBytes?, if_pos (by omega)]
    rw [← ih]
    congr 1
    omega

@[simp] theorem takeBytes?_append (cs ds : List Char) :
    takeBytes? (byteLength cs) (cs ++ ds) = some cs := by
  induction cs with
  | nil => simp [takeBytes?]
  | cons c cs ih =>
    have size : c.utf8Size ≠ 0 := Nat.pos_iff_ne_zero.mp c.utf8Size_pos
    obtain ⟨n, hn⟩ := Nat.exists_eq_succ_of_ne_zero (n := c.utf8Size + byteLength cs) (by omega)
    rw [byteLength_cons, hn, List.cons_append, takeBytes?, if_pos (by omega)]
    rw [show n + 1 - c.utf8Size = byteLength cs by omega, ih]
    rfl

theorem slice?_append (before part after : List Char) :
    slice? (byteLength before) (byteLength before + byteLength part) (before ++ part ++ after) =
      some part := by
  simp [slice?]

end AttributeProfiles.Text
