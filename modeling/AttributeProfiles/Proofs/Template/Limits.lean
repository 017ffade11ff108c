import AttributeProfiles.Proofs.Template.Completeness

/-!
# Why reading ends

A reader that succeeds has passed at least one character, and it is as deep in expressions as it
was. So every turn of a loop and every nested expression begins further on than the one before, also
where the source is malformed. The limits of the readers count the characters that are left. They
are never what ends a loop or the nesting: with a larger limit the readers do the same.
-/

namespace AttributeProfiles.Template

open Grammar

/-- A reader that succeeds is further on, and inside the same expressions. -/
structure Advances {α : Type} (read : Cursor → Except Error (α × Cursor)) : Prop where
  position_lt : ∀ {c a c'}, read c = .ok (a, c') → c.position < c'.position
  depth_eq : ∀ {c a c'}, read c = .ok (a, c') → c'.depth = c.depth

/-- A reader with a limit does the same with every limit that covers the characters left. -/
def EndsByItself {α : Type} (read : Nat → Cursor → α) : Prop :=
  ∀ limit c, c.rest.length ≤ limit → read limit c = read c.rest.length c

theorem Grammar.Token.length_le {spelling word : List Char} (h : Token spelling word) :
    spelling.length ≤ word.length := by
  obtain ⟨before, after, -, -, rfl⟩ := h
  rw [List.length_append, List.length_append]
  omega

theorem Grammar.IsIdentifier.length_pos {word : List Char} (h : IsIdentifier word) :
    0 < word.length := by
  obtain ⟨x, xs, rfl, -⟩ := h
  exact Nat.succ_pos _

theorem Grammar.Spells.length_pos {layer : Layer} {n : Nat} {e : Expr} {word : List Char}
    (h : Spells layer n e word) : 0 < word.length := by
  induction h with
  | literal h ht =>
    obtain ⟨quote, body, -, -, rfl⟩ := h
    exact Nat.lt_of_lt_of_le (by simp) ht.length_le
  | reference h ht => exact Nat.lt_of_lt_of_le h.length_pos ht.length_le
  | call _ _ _ _ ih | group _ _ _ ih | concat _ _ _ ih _ | index _ _ _ _ _ ih | filter _ _ _ ih =>
    simp only [List.length_append]
    omega
  | ofPrimary _ ih | ofTerm _ ih | ofSum _ ih => exact ih

namespace Cursor

variable {c c' : Cursor} {word : List Char}

theorem Passes.length_eq (h : c.Passes word c') :
    c.rest.length = word.length + c'.rest.length := by
  rw [h.rest, List.length_append]

theorem Passes.position_lt (h : c.Passes word c') (hword : 0 < word.length) :
    c.position < c'.position := by
  obtain ⟨x, xs, rfl⟩ := List.exists_cons_of_length_pos hword
  have hsize : 0 < x.utf8Size := x.utf8Size_pos
  have hposition := h.position
  rw [Text.byteLength_cons] at hposition
  omega

theorem length_lt_of_eat? {x : Char} (h : c.eat? x = some c') :
    c'.rest.length < c.rest.length := by
  obtain ⟨blanks, -, hpass⟩ := eat?_passes h
  have hlength := hpass.length_eq
  rw [List.length_append, List.length_singleton] at hlength
  omega

theorem skipBlanks_of_rest_eq_nil (h : c.rest = []) : c.skipBlanks = c := by
  cases c
  cases h
  rfl

theorem eat?_of_rest_eq_nil {x : Char} (h : c.rest = []) : c.eat? x = none := by
  rw [eat?, skipBlanks_of_rest_eq_nil h, h, if_neg (by simp)]

end Cursor

theorem IsSound.advances {layer : Layer} {read : Cursor → Except Error (Expr × Cursor)}
    (h : IsSound layer read) : Advances read where
  position_lt hread := by
    obtain ⟨word, hpass, hspells⟩ := h _ _ _ hread
    exact hpass.position_lt hspells.length_pos
  depth_eq hread := by
    obtain ⟨word, hpass, -⟩ := h _ _ _ hread
    exact hpass.depth

theorem IsSound.length_le {layer : Layer} {read : Cursor → Except Error (Expr × Cursor)}
    {c c' : Cursor} {e : Expr} (h : IsSound layer read) (hread : read c = .ok (e, c')) :
    c'.rest.length ≤ c.rest.length := by
  obtain ⟨word, hpass, -⟩ := h _ _ _ hread
  rw [hpass.length_eq]
  omega

theorem advances_readIdentifier : Advances readIdentifier where
  position_lt h := by
    obtain ⟨word, hword, -, hpass⟩ := readIdentifier_sound h
    exact hpass.position_lt hword.length_pos
  depth_eq h := by
    obtain ⟨word, -, -, hpass⟩ := readIdentifier_sound h
    exact hpass.depth

section Nested

variable {nested nested' : Cursor → Except Error (Expr × Cursor)} {c : Cursor}

/-- A primary expression takes up what is nested only behind a character of its own. -/
theorem readPrimary_congr (h : ∀ d : Cursor, d.rest.length < c.rest.length → nested d = nested' d) :
    readPrimary nested c = readPrimary nested' c := by
  have hskip : c.skipBlanks.rest.length ≤ c.rest.length := skipBlanks_length_le c
  unfold readPrimary
  dsimp only
  split
  · rfl
  next x xs hrest =>
    rw [hrest, List.length_cons] at hskip
    have hnext : c.skipBlanks.next.rest.length < c.rest.length := by
      rw [Cursor.next_rest, hrest, List.tail_cons]
      omega
    split_ifs
    · rfl
    · rw [h _ hnext]
    · cases hread : readIdentifier c.skipBlanks with
      | error cause => rfl
      | ok read =>
        obtain ⟨name, c₁⟩ := read
        obtain ⟨word, -, -, hpass⟩ := readIdentifier_sound hread
        have hlength := hpass.length_eq
        simp only [bind, Except.bind]
        cases heat : c₁.eat? '(' with
        | none => rfl
        | some c₂ =>
          have hshorter := Cursor.length_lt_of_eat? heat
          rw [hrest, List.length_cons] at hlength
          simp only [h c₂ (by omega)]
    · rfl

theorem readTerm_congr (h : ∀ d : Cursor, d.rest.length < c.rest.length → nested d = nested' d) :
    readTerm nested c = readTerm nested' c := by
  rw [readTerm, readTerm, readPrimary_congr h]

theorem readSummands_congr (hsound : IsSound .filtered nested') (limit : Nat) (e : Expr)
    (h : ∀ d : Cursor, d.rest.length < c.rest.length → nested d = nested' d) :
    readSummands nested limit e c = readSummands nested' limit e c := by
  induction limit generalizing e c with
  | zero => rfl
  | succ limit ih =>
    rw [readSummands, readSummands]
    cases heat : c.eat? '+' with
    | none => rfl
    | some c₁ =>
      have hshorter := Cursor.length_lt_of_eat? heat
      simp only [readTerm_congr fun d hd => h d (hd.trans hshorter)]
      cases hread : readTerm nested' c₁ with
      | error cause => rfl
      | ok read =>
        have hlength := (readTerm_sound hsound).length_le hread
        exact ih _ fun d hd => h d (by omega)

theorem readSum_congr (hsound : IsSound .filtered nested')
    (h : ∀ d : Cursor, d.rest.length < c.rest.length → nested d = nested' d) :
    readSum nested c = readSum nested' c := by
  rw [readSum, readSum, readTerm_congr h]
  cases hread : readTerm nested' c with
  | error cause => rfl
  | ok read =>
    have hlength := (readTerm_sound hsound).length_le hread
    exact readSummands_congr hsound _ _ fun d hd => h d (by omega)

end Nested

theorem readFiltered_of_rest_eq_nil {c : Cursor} (h : c.rest = []) (limit : Nat) :
    readFiltered limit c = readFiltered 0 c := by
  cases limit with
  | zero => rfl
  | succ limit =>
    have hrest : c.deeper.rest = [] := h
    rw [readFiltered, readFiltered, readSum, readTerm, readPrimary]
    dsimp only
    rw [Cursor.skipBlanks_of_rest_eq_nil hrest, hrest]
    rfl

theorem readFiltered_limit {limit limit' : Nat} {c : Cursor} (h : c.rest.length ≤ limit)
    (h' : c.rest.length ≤ limit') : readFiltered limit c = readFiltered limit' c := by
  induction limit generalizing limit' c with
  | zero =>
    have hnil : c.rest = [] := List.eq_nil_of_length_eq_zero (by omega)
    rw [readFiltered_of_rest_eq_nil hnil limit']
  | succ limit ih =>
    cases limit' with
    | zero =>
      have hnil : c.rest = [] := List.eq_nil_of_length_eq_zero (by omega)
      rw [readFiltered_of_rest_eq_nil hnil]
    | succ limit' =>
      have hnested :
          readSum (readFiltered limit) c.deeper = readSum (readFiltered limit') c.deeper :=
        readSum_congr (readFiltered_sound limit') fun d hd => by
          have hlength : c.deeper.rest.length = c.rest.length := rfl
          exact ih (by omega) (by omega)
      rw [readFiltered, readFiltered, hnested]

theorem readIndices_limit {limit limit' : Nat} {c : Cursor} (h : c.rest.length ≤ limit)
    (h' : c.rest.length ≤ limit') (e : Expr) : readIndices limit e c = readIndices limit' e c := by
  induction limit generalizing limit' e c with
  | zero =>
    have hnil : c.rest = [] := List.eq_nil_of_length_eq_zero (by omega)
    rw [readIndices, readIndices_stop (Cursor.eat?_of_rest_eq_nil hnil)]
  | succ limit ih =>
    cases heat : c.eat? '[' with
    | none => rw [readIndices_stop heat, readIndices_stop heat]
    | some c₁ =>
      have hlength₁ := Cursor.length_lt_of_eat? heat
      obtain ⟨limit', rfl⟩ : ∃ k, limit' = k + 1 := ⟨limit' - 1, by omega⟩
      simp only [readIndices, heat]
      cases hread : readInteger c₁.skipBlanks with
      | error cause => rfl
      | ok read =>
        obtain ⟨position, c₂⟩ := read
        obtain ⟨word, -, hpass⟩ := readInteger_sound hread
        have hlength₂ := hpass.length_eq
        have hskip := skipBlanks_length_le c₁
        simp only [bind, Except.bind]
        cases heat₃ : c₂.eat? ']' with
        | none => rfl
        | some c₃ =>
          have hlength₃ := Cursor.length_lt_of_eat? heat₃
          exact ih (by omega) (by omega) _

theorem readSummands_limit {nested : Cursor → Except Error (Expr × Cursor)}
    (hsound : IsSound .filtered nested) {limit limit' : Nat} {c : Cursor}
    (h : c.rest.length ≤ limit) (h' : c.rest.length ≤ limit') (e : Expr) :
    readSummands nested limit e c = readSummands nested limit' e c := by
  induction limit generalizing limit' e c with
  | zero =>
    have hnil : c.rest = [] := List.eq_nil_of_length_eq_zero (by omega)
    rw [readSummands, readSummands_stop (Cursor.eat?_of_rest_eq_nil hnil)]
  | succ limit ih =>
    cases heat : c.eat? '+' with
    | none => rw [readSummands_stop heat, readSummands_stop heat]
    | some c₁ =>
      have hlength₁ := Cursor.length_lt_of_eat? heat
      obtain ⟨limit', rfl⟩ : ∃ k, limit' = k + 1 := ⟨limit' - 1, by omega⟩
      simp only [readSummands, heat]
      cases hread : readTerm nested c₁ with
      | error cause => rfl
      | ok read =>
        have hlength₂ := (readTerm_sound hsound).length_le hread
        exact ih (by omega) (by omega) _

theorem readFilters_limit {limit limit' : Nat} {c : Cursor} (h : c.rest.length ≤ limit)
    (h' : c.rest.length ≤ limit') (e : Expr) : readFilters limit e c = readFilters limit' e c := by
  induction limit generalizing limit' e c with
  | zero =>
    have hnil : c.rest = [] := List.eq_nil_of_length_eq_zero (by omega)
    rw [readFilters, readFilters_stop (Cursor.eat?_of_rest_eq_nil hnil)]
  | succ limit ih =>
    cases heat : c.eat? '|' with
    | none => rw [readFilters_stop heat, readFilters_stop heat]
    | some c₁ =>
      have hlength₁ := Cursor.length_lt_of_eat? heat
      obtain ⟨limit', rfl⟩ : ∃ k, limit' = k + 1 := ⟨limit' - 1, by omega⟩
      simp only [readFilters, heat]
      cases hread : readIdentifier c₁.skipBlanks with
      | error cause => rfl
      | ok read =>
        obtain ⟨name, c₂⟩ := read
        obtain ⟨word, -, -, hpass⟩ := readIdentifier_sound hread
        have hlength₂ := hpass.length_eq
        have hskip := skipBlanks_length_le c₁
        simp only [bind, Except.bind]
        cases callByName name e with
        | error cause => rfl
        | ok call => exact ih (by omega) (by omega) _

theorem length_lt_of_readPlaceholder {c c' : Cursor} {e : Expr}
    (h : readPlaceholder c = .ok (e, c')) : c'.rest.length < c.rest.length := by
  obtain ⟨⟨e, c₁⟩, hread, h⟩ := Outcome.bind_eq_ok_iff.1 h
  have hlength := (readFiltered_sound _).length_le hread
  dsimp only at h
  split at h
  next c₂ heat =>
    cases h
    have hshorter := Cursor.length_lt_of_eat? heat
    omega
  · cases h

theorem readSegments_of_rest_eq_nil {marker : Char} {c : Cursor} (h : c.rest = []) (limit : Nat)
    (read : List Char) : readSegments marker limit read c = .ok (textSegment read) := by
  cases limit with
  | zero => rfl
  | succ limit => simp only [readSegments, h]

theorem readSegments_limit {marker : Char} {limit limit' : Nat} {c : Cursor}
    (h : c.rest.length ≤ limit) (h' : c.rest.length ≤ limit') (read : List Char) :
    readSegments marker limit read c = readSegments marker limit' read c := by
  induction limit generalizing limit' read c with
  | zero =>
    have hnil : c.rest = [] := List.eq_nil_of_length_eq_zero (by omega)
    rw [readSegments_of_rest_eq_nil hnil, readSegments_of_rest_eq_nil hnil]
  | succ limit ih =>
    cases hrest : c.rest with
    | nil => rw [readSegments_of_rest_eq_nil hrest, readSegments_of_rest_eq_nil hrest]
    | cons x xs =>
      have hnext : c.next.rest.length ≤ xs.length := by rw [Cursor.next_rest, hrest, List.tail_cons]
      have hnext₂ : c.next.next.rest.length ≤ xs.length := by
        rw [Cursor.next_rest, List.length_tail]
        omega
      rw [hrest, List.length_cons] at h h'
      obtain ⟨limit', rfl⟩ : ∃ k, limit' = k + 1 := ⟨limit' - 1, by omega⟩
      simp only [readSegments, hrest]
      split_ifs
      · exact ih (by omega) (by omega) _
      · exact ih (by omega) (by omega) _
      · cases hread : readPlaceholder c.next.next with
        | error cause => rfl
        | ok read =>
          have hshorter := length_lt_of_readPlaceholder hread
          have hothers :
              readSegments marker limit [] read.2 = readSegments marker limit' [] read.2 :=
            ih (by omega) (by omega) []
          simp only [bind, Except.bind, hothers]
      · exact ih (by omega) (by omega) _

end AttributeProfiles.Template
