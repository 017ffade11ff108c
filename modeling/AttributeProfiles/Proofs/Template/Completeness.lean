import AttributeProfiles.Proofs.Template.Soundness

/-!
# What is spelled is read

A reader that stands before a word of the grammar reads it whole and nothing more, whatever follows
that cannot continue the word. A token may carry blanks that its reader leaves to the next one, so
"stands before" is meant up to blanks. Operators go to the left: the lemma of a layer with a loop
says in which state the loop is once the word is read, and the next operator continues from there.
-/

namespace AttributeProfiles.Template

open Grammar

/-- Up to blanks, these characters follow. -/
def Cursor.Before (c : Cursor) (cs : List Char) : Prop :=
  c.rest.dropWhile Text.isBlank = cs.dropWhile Text.isBlank

/-- A place that a reader can reach from a cursor, before these characters. -/
structure Cursor.Reaches (c : Cursor) (cs : List Char) (c' : Cursor) : Prop where
  before : c'.Before cs
  depth : c'.depth = c.depth
  length : c'.rest.length ≤ c.rest.length

/-- The first character of a text that is not blank is one of these. -/
def Stops (stops cs : List Char) : Prop :=
  ∃ x ∈ stops, (cs.dropWhile Text.isBlank).head? = some x

/-- The characters that can follow an expression of a layer without continuing it. -/
def follow : Layer → List Char
  | .primary => ['[', '+', '|', ')', '\x7d']
  | .term => ['[', '+', '|', ')', '\x7d']
  | .sum => ['+', '|', ')', '\x7d']
  | .filtered => ['|', ')', '\x7d']

theorem Cursor.Reaches.trans {c c' c'' : Cursor} {cs ds : List Char} (h : c.Reaches cs c')
    (h' : c'.Reaches ds c'') : c.Reaches ds c'' :=
  ⟨h'.before, h'.depth.trans h.depth, h'.length.trans h.length⟩

theorem Stops.mono {stops others cs : List Char} (hsub : stops ⊆ others) (h : Stops stops cs) :
    Stops others cs := by
  obtain ⟨x, hx, hhead⟩ := h
  exact ⟨x, hsub hx, hhead⟩

theorem exists_dropWhile_token {x : Char} {xs word : List Char} (hx : Text.isBlank x = false)
    (ht : Token (x :: xs) word) (rest : List Char) :
    ∃ blanks, (∀ c ∈ blanks, Text.isBlank c) ∧
      (word ++ rest).dropWhile Text.isBlank = x :: xs ++ (blanks ++ rest) := by
  obtain ⟨before, after, hbefore, hafter, rfl⟩ := ht
  refine ⟨after, hafter, ?_⟩
  simp only [List.append_assoc]
  rw [List.dropWhile_append_of_pos hbefore]
  simp [hx]

theorem stops_token {x : Char} {xs word rest stops : List Char} (hx : Text.isBlank x = false)
    (ht : Token (x :: xs) word) (hmem : x ∈ stops) : Stops stops (word ++ rest) := by
  obtain ⟨blanks, _, hrest⟩ := exists_dropWhile_token hx ht rest
  exact ⟨x, hmem, by rw [hrest]; rfl⟩

theorem Cursor.Before.skipBlanks_rest {c : Cursor} {cs : List Char} (h : c.Before cs) :
    c.skipBlanks.rest = cs.dropWhile Text.isBlank := h

theorem skipBlanks_length_le (c : Cursor) : c.skipBlanks.rest.length ≤ c.rest.length :=
  (List.dropWhile_suffix _).length_le

theorem eat?_complete {c : Cursor} {x : Char} {word rest : List Char}
    (hx : Text.isBlank x = false) (ht : Token [x] word) (h : c.Before (word ++ rest)) :
    ∃ c', c.eat? x = some c' ∧ c.Reaches rest c' ∧ c'.rest.length < c.rest.length := by
  obtain ⟨blanks, hblanks, hword⟩ := exists_dropWhile_token hx ht rest
  have hrest : c.skipBlanks.rest = x :: (blanks ++ rest) := h.skipBlanks_rest.trans hword
  have hnext : c.skipBlanks.next.rest = blanks ++ rest := by
    rw [Cursor.next_rest, hrest, List.tail_cons]
  have hshorter : c.skipBlanks.next.rest.length < c.rest.length := by
    have hlength := skipBlanks_length_le c
    rw [hrest, List.length_cons] at hlength
    rw [hnext]
    omega
  refine ⟨c.skipBlanks.next, ?_, ⟨?_, ?_, hshorter.le⟩, hshorter⟩
  · rw [Cursor.eat?, if_pos]
    rw [hrest, List.head?_cons]
  · rw [Cursor.Before, hnext, List.dropWhile_append_of_pos hblanks]
  · rw [Cursor.next_depth, Cursor.skipBlanks_depth]

theorem eat?_eq_none {c : Cursor} {x : Char} {cs stops : List Char} (h : c.Before cs)
    (hstops : Stops stops cs) (hx : x ∉ stops) : c.eat? x = none := by
  obtain ⟨y, hy, hhead⟩ := hstops
  have hne : c.skipBlanks.rest.head? ≠ some x := by
    rw [h.skipBlanks_rest, hhead]
    rintro ⟨⟩
    exact hx hy
  rw [Cursor.eat?, if_neg hne]

theorem isBlank_eq_false_of_isIdentifierPart {c : Char} (h : isIdentifierPart c) :
    Text.isBlank c = false := by
  change (decide (c.val ≥ 'A'.val ∧ c.val ≤ 'Z'.val) || (c.val ≥ 'a'.val && c.val ≤ 'z'.val) ||
    (c.val ≥ '0'.val && c.val ≤ '9'.val) || c == '_') = true at h
  simp only [Bool.or_eq_true, Bool.and_eq_true, decide_eq_true_eq, beq_iff_eq, ge_iff_le,
    UInt32.le_iff_toNat_le] at h
  have hval : c.toNat = c.val.toNat := rfl
  rcases h with h | rfl
  · apply Text.isBlank_eq_false_of_ascii <;> rw [hval] <;> simp at h <;> omega
  · decide

/-- What follows a token, blanks and then one of the stops, does not continue a run of `p`. -/
theorem takeWhile_eq_nil_of_stops {p : Char → Bool} {stops blanks rest : List Char}
    (hp : ∀ c, p c → Text.isBlank c = false) (hstops : stops.all fun c => !p c)
    (hblanks : ∀ c ∈ blanks, Text.isBlank c) (hrest : Stops stops rest) :
    (blanks ++ rest).takeWhile p = [] := by
  have hnot : ∀ c, Text.isBlank c → ¬ p c = true := by
    intro c hblank hpc
    rw [hp c hpc] at hblank
    cases hblank
  cases blanks with
  | cons b bs => exact List.takeWhile_cons_of_neg (hnot b (hblanks b List.mem_cons_self))
  | nil =>
    obtain ⟨x, hx, hhead⟩ := hrest
    cases rest with
    | nil => rfl
    | cons y ys =>
      rw [List.nil_append]
      apply List.takeWhile_cons_of_neg
      by_cases hy : Text.isBlank y
      · exact hnot y hy
      · rw [List.dropWhile_cons_of_neg hy, List.head?_cons, Option.some.injEq] at hhead
        have hstop := List.all_eq_true.1 hstops x hx
        rw [hhead]
        simpa using hstop

theorem skipWhile_complete {p : Char → Bool} {stops blanks rest spelling : List Char} {c : Cursor}
    (hp : ∀ c, p c → Text.isBlank c = false) (hstops : stops.all fun c => !p c)
    (hblanks : ∀ c ∈ blanks, Text.isBlank c) (hrest : Stops stops rest)
    (hspelling : ∀ c ∈ spelling, p c) (hc : c.rest = spelling ++ (blanks ++ rest)) :
    c.rest.takeWhile p = spelling ∧ c.Reaches rest (c.skipWhile p) := by
  have hnil := takeWhile_eq_nil_of_stops hp hstops hblanks hrest
  have htake : c.rest.takeWhile p = spelling := by
    rw [hc, List.takeWhile_append_of_pos hspelling, hnil, List.append_nil]
  have hdrop : (c.skipWhile p).rest = blanks ++ rest := by
    have happend := List.takeWhile_append_dropWhile (p := p) (l := c.rest)
    rw [htake] at happend
    exact List.append_cancel_left (happend.trans hc)
  refine ⟨htake, ?_, c.skipWhile_depth p, (List.dropWhile_suffix _).length_le⟩
  rw [Cursor.Before, hdrop, List.dropWhile_append_of_pos hblanks]

/-- The characters that end an identifier or an integer. -/
def delimiters : List Char := ['(', ')', '[', ']', '+', '|', '\x7d']

theorem follow_subset_delimiters (layer : Layer) : follow layer ⊆ delimiters := by
  cases layer <;> decide

theorem isBlank_eq_false_of_isDigit {c : Char} (h : c.isDigit) : Text.isBlank c = false := by
  apply isBlank_eq_false_of_isIdentifierPart
  simp [isIdentifierPart, Char.isAlphanum, h]

theorem readIdentifier_complete {c : Cursor} {name word rest : List Char} (hname : IsIdentifier name)
    (ht : Token name word) (hc : c.Before (word ++ rest)) (hrest : Stops delimiters rest) :
    ∃ c', readIdentifier c.skipBlanks = .ok (String.ofList name, c') ∧ c.Reaches rest c' := by
  obtain ⟨x, xs, rfl, hx, hxs⟩ := hname
  have hpart : isIdentifierPart x := isIdentifierPart_of_start hx
  have hall : ∀ d ∈ x :: xs, isIdentifierPart d := by
    intro d hd
    rcases List.mem_cons.1 hd with rfl | hd
    · exact hpart
    · exact hxs d hd
  obtain ⟨blanks, hblanks, hword⟩ :=
    exists_dropWhile_token (isBlank_eq_false_of_isIdentifierPart hpart) ht rest
  have hskip : c.skipBlanks.rest = x :: xs ++ (blanks ++ rest) := hc.skipBlanks_rest.trans hword
  obtain ⟨htake, hreach⟩ := skipWhile_complete (fun _ => isBlank_eq_false_of_isIdentifierPart)
    (by decide) hblanks hrest hall hskip
  refine ⟨c.skipBlanks.skipWhile isIdentifierPart, ?_, hreach.before, hreach.depth,
    hreach.length.trans (skipBlanks_length_le c)⟩
  rw [readIdentifier, if_pos, htake]
  rw [hskip]
  exact hx

theorem readInteger_complete {c : Cursor} {value : Int} {spelling word rest : List Char}
    (hvalue : SpellsInteger value spelling) (ht : Token spelling word)
    (hc : c.Before (word ++ rest)) (hrest : Stops delimiters rest) :
    ∃ c', readInteger c.skipBlanks = .ok (value, c') ∧ c.Reaches rest c' := by
  obtain ⟨negative, digits, rfl, hne, hdigits, hsigned⟩ := hvalue
  have hread : indexValue? negative digits = some value :=
    indexValue?_eq_some_iff.2 ⟨hne, hsigned⟩
  have hstops : delimiters.all fun c => !c.isDigit := by decide
  obtain ⟨x, xs, rfl⟩ := List.exists_cons_of_ne_nil hne
  have hx : x.isDigit := hdigits x List.mem_cons_self
  cases negative with
  | false =>
    obtain ⟨blanks, hblanks, hword⟩ :=
      exists_dropWhile_token (isBlank_eq_false_of_isDigit hx) ht rest
    have hskip : c.skipBlanks.rest = x :: xs ++ (blanks ++ rest) := hc.skipBlanks_rest.trans hword
    obtain ⟨htake, hreach⟩ := skipWhile_complete (fun _ => isBlank_eq_false_of_isDigit)
      hstops hblanks hrest hdigits hskip
    have hminus : c.skipBlanks.rest.head? ≠ some '-' := by
      rw [hskip]
      rintro ⟨⟩
      revert hx
      decide
    refine ⟨c.skipBlanks.skipWhile Char.isDigit, ?_, hreach.before, hreach.depth,
      hreach.length.trans (skipBlanks_length_le c)⟩
    simp only [readInteger, hminus, decide_false, Bool.false_eq_true, if_false, htake, hread]
  | true =>
    obtain ⟨blanks, hblanks, hword⟩ := exists_dropWhile_token (by decide) ht rest
    have hskip : c.skipBlanks.rest = '-' :: (x :: xs ++ (blanks ++ rest)) :=
      hc.skipBlanks_rest.trans hword
    have hminus : c.skipBlanks.rest.head? = some '-' := by rw [hskip, List.head?_cons]
    have hnext : c.skipBlanks.next.rest = x :: xs ++ (blanks ++ rest) := by
      rw [Cursor.next_rest, hskip, List.tail_cons]
    obtain ⟨htake, hreach⟩ := skipWhile_complete (fun _ => isBlank_eq_false_of_isDigit)
      hstops hblanks hrest hdigits hnext
    refine ⟨c.skipBlanks.next.skipWhile Char.isDigit, ?_, hreach.before, ?_, ?_⟩
    · simp only [readInteger, hminus, decide_true, if_true, htake, hread]
    · rw [hreach.depth, Cursor.next_depth, Cursor.skipBlanks_depth]
    · have hshorter : c.skipBlanks.next.rest.length ≤ c.skipBlanks.rest.length := by
        rw [Cursor.next_rest, List.length_tail]
        exact Nat.sub_le _ _
      exact hreach.length.trans (hshorter.trans (skipBlanks_length_le c))

theorem readLiteral_complete {quote : Char} {content body : List Char} (hquote : quote ≠ '\\')
    (h : SpellsContent quote content body) (depth position : Nat) (cs read : List Char) :
    ∃ after, readLiteral quote depth (body ++ quote :: cs) position read =
      .ok (String.ofList (read.reverse ++ content), ⟨cs, after, depth⟩) := by
  induction h generalizing position read with
  | nil =>
    refine ⟨position + quote.utf8Size, ?_⟩
    rw [List.nil_append, readLiteral.eq_def, List.append_nil]
    exact if_pos rfl
  | @plain x content body hx hbackslash _ ih =>
    obtain ⟨after, hread⟩ := ih (position + x.utf8Size) (x :: read)
    refine ⟨after, ?_⟩
    rw [List.reverse_cons, List.append_assoc] at hread
    rw [List.cons_append, readLiteral.eq_def]
    dsimp only
    rw [if_neg hx, if_neg hbackslash]
    exact hread
  | @escaped x y content body he _ ih =>
    obtain ⟨after, hread⟩ := ih (position + '\\'.utf8Size + x.utf8Size) (y :: read)
    refine ⟨after, ?_⟩
    rw [List.reverse_cons, List.append_assoc] at hread
    rw [List.cons_append, List.cons_append, readLiteral.eq_def]
    simp only [hquote.symm, if_false, if_true, escape_iff.1 he]
    exact hread

theorem Cursor.Before.rest_ne_nil {c : Cursor} {word rest stops : List Char}
    (h : c.Before (word ++ rest)) (hrest : Stops stops rest) : c.rest ≠ [] := by
  intro hnil
  obtain ⟨x, _, hhead⟩ := hrest
  rw [Cursor.Before, hnil, List.dropWhile_nil, eq_comm, List.dropWhile_eq_nil_iff] at h
  have hblank : rest.dropWhile Text.isBlank = [] := by
    rw [List.dropWhile_eq_nil_iff]
    intro d hd
    exact h d (List.mem_append_right word hd)
  rw [hblank] at hhead
  cases hhead

theorem isIdentifier_of_mem_builtins {function : String} (h : function ∈ builtins) :
    IsIdentifier function.toList := by
  obtain rfl := mem_builtins.1 h
  exact ⟨'s', ['c', 'o', 'p', 'e'], by decide, by decide, List.all_eq_true.1 (by decide)⟩

theorem exists_cons_of_isIdentifier {c : Cursor} {name word rest : List Char}
    (hname : IsIdentifier name) (ht : Token name word) (hc : c.Before (word ++ rest)) :
    ∃ x xs, c.skipBlanks.rest = x :: xs ∧ ¬ (x = '"' ∨ x = '\'') ∧ x ≠ '(' ∧
      isIdentifierStart x := by
  obtain ⟨x, xs, rfl, hx, hxs⟩ := hname
  obtain ⟨blanks, _, hword⟩ := exists_dropWhile_token
    (isBlank_eq_false_of_isIdentifierPart (isIdentifierPart_of_start hx)) ht rest
  refine ⟨x, xs ++ (blanks ++ rest), hc.skipBlanks_rest.trans hword, ?_, ?_, hx⟩
  · rintro (rfl | rfl) <;> revert hx <;> decide
  · rintro rfl
    revert hx
    decide

/-- The reader of a layer has read `e` and stands before `rest`, in its loop if it has one. The
bound of the loop still covers what follows. -/
def Continues (limit : Nat) (e : Expr) (rest : List Char) (c : Cursor) : Layer → Prop
  | .primary => ∃ c', c.Reaches rest c' ∧ readPrimary (readFiltered limit) c = .ok (e, c')
  | .term => ∃ bound c', c.Reaches rest c' ∧ c'.rest.length ≤ bound ∧
    readTerm (readFiltered limit) c = readIndices bound e c'
  | .sum => ∃ bound c', c.Reaches rest c' ∧ c'.rest.length ≤ bound ∧
    readSum (readFiltered limit) c = readSummands (readFiltered limit) bound e c'
  | .filtered => ∃ bound c', c.deeper.Reaches rest c' ∧ c'.rest.length ≤ bound ∧
    readFiltered (limit + 1) c = do
      let (e, c) ← readFilters bound e c'
      .ok (e, c.shallower)

/-- Wherever a word of `e` is followed by something that cannot continue it, and enough nesting and
characters are left, `e` is read. -/
def IsComplete (layer : Layer) (n : Nat) (e : Expr) (word : List Char) : Prop :=
  ∀ limit c rest, c.Before (word ++ rest) → c.depth + n ≤ maxNesting →
    Stops (follow layer) rest → c.rest.length ≤ limit + 1 → Continues limit e rest c layer

theorem readIndices_stop {c : Cursor} (h : c.eat? '[' = none) (bound : Nat) (e : Expr) :
    readIndices bound e c = .ok (e, c) := by
  cases bound with
  | zero => rfl
  | succ bound => simp only [readIndices, h]

theorem readSummands_stop {nested : Cursor → Except Error (Expr × Cursor)} {c : Cursor}
    (h : c.eat? '+' = none) (bound : Nat) (e : Expr) :
    readSummands nested bound e c = .ok (e, c) := by
  cases bound with
  | zero => rfl
  | succ bound => simp only [readSummands, h]

theorem readFilters_stop {c : Cursor} (h : c.eat? '|' = none) (bound : Nat) (e : Expr) :
    readFilters bound e c = .ok (e, c) := by
  cases bound with
  | zero => rfl
  | succ bound => simp only [readFilters, h]

/-- What stands in parentheses or braces is read up to the closing one. -/
theorem IsComplete.readFiltered {n limit : Nat} {e : Expr} {word rest : List Char} {c : Cursor}
    (h : IsComplete .filtered n e word) (hc : c.Before (word ++ rest))
    (hdepth : c.depth + n ≤ maxNesting) (hrest : Stops [')', '\x7d'] rest)
    (hlimit : c.rest.length ≤ limit) :
    ∃ c', c.Reaches rest c' ∧ readFiltered limit c = .ok (e, c') := by
  have hpos : 0 < c.rest.length := List.length_pos_of_ne_nil (hc.rest_ne_nil hrest)
  obtain ⟨limit, rfl⟩ : ∃ k, limit = k + 1 := ⟨limit - 1, by omega⟩
  obtain ⟨bound, c', hreach, hbound, hread⟩ :=
    h limit c rest hc hdepth (hrest.mono (by decide)) hlimit
  have hstop : c'.eat? '|' = none := eat?_eq_none hreach.before hrest (by decide)
  refine ⟨c'.shallower, ⟨hreach.before, ?_, hreach.length⟩, ?_⟩
  · have hdeeper := hreach.depth
    simp only [Cursor.deeper] at hdeeper
    simp [Cursor.shallower, hdeeper]
  · rw [hread, readFilters_stop hstop]
    rfl

section Primary

variable {n : Nat} {e argument : Expr} {word opening closing spelling name : List Char}

theorem isComplete_literal {content : List Char} (h : SpellsLiteral content spelling)
    (ht : Token spelling word) : IsComplete .primary n (.literal (String.ofList content)) word := by
  intro limit c rest hc hdepth hrest hlimit
  obtain ⟨quote, body, hquote, hbody, rfl⟩ := h
  have hblank : Text.isBlank quote = false := by rcases hquote with rfl | rfl <;> decide
  have hbackslash : quote ≠ '\\' := by rcases hquote with rfl | rfl <;> decide
  obtain ⟨blanks, hblanks, hword⟩ := exists_dropWhile_token hblank ht rest
  have hskip : c.skipBlanks.rest = quote :: (body ++ quote :: (blanks ++ rest)) := by
    rw [hc.skipBlanks_rest, hword]
    simp
  have hnext : c.skipBlanks.next.rest = body ++ quote :: (blanks ++ rest) := by
    rw [Cursor.next_rest, hskip, List.tail_cons]
  obtain ⟨after, hread⟩ := readLiteral_complete hbackslash hbody c.skipBlanks.depth
    c.skipBlanks.next.position (blanks ++ rest) []
  refine ⟨⟨blanks ++ rest, after, c.skipBlanks.depth⟩, ⟨?_, rfl, ?_⟩, ?_⟩
  · exact List.dropWhile_append_of_pos hblanks
  · have hlength := skipBlanks_length_le c
    rw [hskip] at hlength
    simp only [List.length_cons, List.length_append] at hlength ⊢
    omega
  · rw [← hnext] at hread
    simp only [readPrimary, hskip, if_pos hquote, hread]
    rfl

theorem isComplete_variable (h : IsIdentifier name) (ht : Token name word) :
    IsComplete .primary n (.variable (String.ofList name)) word := by
  intro limit c rest hc hdepth hrest hlimit
  obtain ⟨c', hread, hreach⟩ :=
    readIdentifier_complete h ht hc (hrest.mono (follow_subset_delimiters _))
  have hstop : c'.eat? '(' = none := eat?_eq_none hreach.before hrest (by decide)
  refine ⟨c', hreach, ?_⟩
  obtain ⟨x, xs, hskip, hquote, hgroup, hx⟩ := exists_cons_of_isIdentifier h ht hc
  simp only [readPrimary, hskip, if_neg hquote, if_neg hgroup, if_pos hx, bind, Except.bind,
    hread, hstop]

theorem isComplete_call {function : String} (hfunction : function ∈ builtins)
    (hname : Token function.toList name) (hopening : Token ['('] opening)
    (h : IsComplete .filtered n argument word) (hclosing : Token [')'] closing) :
    IsComplete .primary n (.call function argument)
      (name ++ (opening ++ (word ++ closing))) := by
  intro limit c rest hc hdepth hrest hlimit
  simp only [List.append_assoc] at hc
  have hidentifier : IsIdentifier function.toList := isIdentifier_of_mem_builtins hfunction
  obtain ⟨c₁, hread₁, hreach₁⟩ := readIdentifier_complete hidentifier hname hc
    (stops_token (by decide) hopening (by decide))
  obtain ⟨c₂, heat₂, hreach₂, hshorter⟩ := eat?_complete (by decide) hopening hreach₁.before
  have hlength₁ := hreach₁.length
  have hdepth₂ : c₂.depth + n ≤ maxNesting := by
    rw [hreach₂.depth, hreach₁.depth]
    exact hdepth
  have hlimit₂ : c₂.rest.length ≤ limit := by omega
  obtain ⟨c₃, hreach₃, hread₃⟩ := h.readFiltered hreach₂.before hdepth₂
    (stops_token (by decide) hclosing (by decide)) hlimit₂
  obtain ⟨c₄, heat₄, hreach₄, -⟩ := eat?_complete (by decide) hclosing hreach₃.before
  refine ⟨c₄, ((hreach₁.trans hreach₂).trans hreach₃).trans hreach₄, ?_⟩
  have hcall : callByName function argument = .ok (.call function argument) :=
    callByName_eq_ok_iff.2 ⟨hfunction, rfl⟩
  obtain ⟨x, xs, hskip, hquote, hgroup, hx⟩ := exists_cons_of_isIdentifier hidentifier hname hc
  simp only [readPrimary, hskip, if_neg hquote, if_neg hgroup, if_pos hx, bind, Except.bind,
    hread₁, heat₂, hread₃, heat₄, String.ofList_toList, hcall]

theorem isComplete_group (hopening : Token ['('] opening) (h : IsComplete .filtered n e word)
    (hclosing : Token [')'] closing) :
    IsComplete .primary n e (opening ++ (word ++ closing)) := by
  intro limit c rest hc hdepth hrest hlimit
  simp only [List.append_assoc] at hc
  obtain ⟨c₁, heat₁, hreach₁, hshorter⟩ := eat?_complete (by decide) hopening hc
  have hdepth₁ : c₁.depth + n ≤ maxNesting := by
    rw [hreach₁.depth]
    exact hdepth
  have hlimit₁ : c₁.rest.length ≤ limit := by omega
  obtain ⟨c₂, hreach₂, hread₂⟩ := h.readFiltered hreach₁.before hdepth₁
    (stops_token (by decide) hclosing (by decide)) hlimit₁
  obtain ⟨c₃, heat₃, hreach₃, -⟩ := eat?_complete (by decide) hclosing hreach₂.before
  refine ⟨c₃, (hreach₁.trans hreach₂).trans hreach₃, ?_⟩
  obtain ⟨hhead, rfl⟩ := Cursor.eat?_eq_some_iff.1 heat₁
  obtain ⟨xs, hskip⟩ := List.head?_eq_some_iff.1 hhead
  simp [readPrimary, hskip, hread₂, heat₃, bind, Except.bind]

end Primary

section Loops

variable {n : Nat} {e left right : Expr}
variable {word other opening closing spelling digits plus bar name : List Char}

theorem isComplete_ofPrimary (h : IsComplete .primary n e word) : IsComplete .term n e word := by
  intro limit c rest hc hdepth hrest hlimit
  obtain ⟨c', hreach, hread⟩ := h limit c rest hc hdepth hrest hlimit
  refine ⟨c'.rest.length, c', hreach, le_rfl, ?_⟩
  rw [readTerm, hread]
  rfl

theorem isComplete_index {position : Int} (h : IsComplete .term n e word)
    (hopening : Token ['['] opening) (hposition : SpellsInteger position spelling)
    (hdigits : Token spelling digits) (hclosing : Token [']'] closing) :
    IsComplete .term n (.index e position) (word ++ (opening ++ (digits ++ closing))) := by
  intro limit c rest hc hdepth hrest hlimit
  simp only [List.append_assoc] at hc
  obtain ⟨bound, c₁, hreach₁, hbound, hread₁⟩ := h limit c _ hc hdepth
    (stops_token (by decide) hopening (by decide)) hlimit
  obtain ⟨c₂, heat₂, hreach₂, hshorter⟩ := eat?_complete (by decide) hopening hreach₁.before
  obtain ⟨c₃, hread₃, hreach₃⟩ := readInteger_complete hposition hdigits hreach₂.before
    (stops_token (by decide) hclosing (by decide))
  obtain ⟨c₄, heat₄, hreach₄, -⟩ := eat?_complete (by decide) hclosing hreach₃.before
  obtain ⟨bound, rfl⟩ : ∃ k, bound = k + 1 := ⟨bound - 1, by omega⟩
  have hlength := (hreach₃.trans hreach₄).length
  refine ⟨bound, c₄, ((hreach₁.trans hreach₂).trans hreach₃).trans hreach₄, by omega, ?_⟩
  rw [hread₁, readIndices]
  simp only [heat₂, hread₃, bind, Except.bind, heat₄]

theorem isComplete_ofTerm (h : IsComplete .term n e word) : IsComplete .sum n e word := by
  intro limit c rest hc hdepth hrest hlimit
  obtain ⟨bound, c', hreach, -, hread⟩ :=
    h limit c rest hc hdepth (hrest.mono (by decide)) hlimit
  have hstop : c'.eat? '[' = none := eat?_eq_none hreach.before hrest (by decide)
  refine ⟨c'.rest.length, c', hreach, le_rfl, ?_⟩
  rw [readSum, hread, readIndices_stop hstop]
  rfl

theorem isComplete_concat (hl : IsComplete .sum n left word) (hplus : Token ['+'] plus)
    (hr : IsComplete .term n right other) :
    IsComplete .sum n (.concat left right) (word ++ (plus ++ other)) := by
  intro limit c rest hc hdepth hrest hlimit
  simp only [List.append_assoc] at hc
  obtain ⟨bound, c₁, hreach₁, hbound, hread₁⟩ := hl limit c _ hc hdepth
    (stops_token (by decide) hplus (by decide)) hlimit
  obtain ⟨c₂, heat₂, hreach₂, hshorter⟩ := eat?_complete (by decide) hplus hreach₁.before
  have hdepth₂ : c₂.depth + n ≤ maxNesting := by
    rw [hreach₂.depth, hreach₁.depth]
    exact hdepth
  have hlength₁ := hreach₁.length
  obtain ⟨inner, c₃, hreach₃, -, hread₃⟩ := hr limit c₂ rest hreach₂.before hdepth₂
    (hrest.mono (by decide)) (by omega)
  have hstop : c₃.eat? '[' = none := eat?_eq_none hreach₃.before hrest (by decide)
  rw [readIndices_stop hstop] at hread₃
  obtain ⟨bound, rfl⟩ : ∃ k, bound = k + 1 := ⟨bound - 1, by omega⟩
  have hlength₃ := hreach₃.length
  refine ⟨bound, c₃, (hreach₁.trans hreach₂).trans hreach₃, by omega, ?_⟩
  rw [hread₁, readSummands]
  simp only [heat₂, hread₃, bind, Except.bind]

theorem isComplete_ofSum (h : IsComplete .sum n e word) : IsComplete .filtered (n + 1) e word := by
  intro limit c rest hc hdepth hrest hlimit
  have hdeeper : c.deeper.depth + n ≤ maxNesting := by
    simp only [Cursor.deeper]
    omega
  obtain ⟨bound, c', hreach, -, hread⟩ :=
    h limit c.deeper rest hc hdeeper (hrest.mono (by decide)) hlimit
  have hstop : c'.eat? '+' = none := eat?_eq_none hreach.before hrest (by decide)
  have hnesting : ¬ maxNesting ≤ c.depth := by omega
  refine ⟨c'.rest.length, c', hreach, le_rfl, ?_⟩
  rw [readFiltered, if_neg hnesting]
  simp only [hread, readSummands_stop hstop, bind, Except.bind]

theorem isComplete_filter {function : String} (h : IsComplete .filtered n e word)
    (hbar : Token ['|'] bar) (hfunction : function ∈ builtins)
    (hname : Token function.toList name) :
    IsComplete .filtered n (.call function e) (word ++ (bar ++ name)) := by
  intro limit c rest hc hdepth hrest hlimit
  simp only [List.append_assoc] at hc
  obtain ⟨bound, c₁, hreach₁, hbound, hread₁⟩ := h limit c _ hc hdepth
    (stops_token (by decide) hbar (by decide)) hlimit
  obtain ⟨c₂, heat₂, hreach₂, hshorter⟩ := eat?_complete (by decide) hbar hreach₁.before
  obtain ⟨c₃, hread₃, hreach₃⟩ :=
    readIdentifier_complete (isIdentifier_of_mem_builtins hfunction) hname hreach₂.before
      (hrest.mono (follow_subset_delimiters _))
  have hcall : callByName function e = .ok (.call function e) :=
    callByName_eq_ok_iff.2 ⟨hfunction, rfl⟩
  obtain ⟨bound, rfl⟩ : ∃ k, bound = k + 1 := ⟨bound - 1, by omega⟩
  have hlength := hreach₃.length
  refine ⟨bound, c₃, (hreach₁.trans hreach₂).trans hreach₃, by omega, ?_⟩
  rw [hread₁, readFilters]
  simp only [heat₂, hread₃, bind, Except.bind, String.ofList_toList, hcall]

end Loops

/-- Every word of the grammar is read, one lemma for each way to build it. -/
theorem Grammar.Spells.isComplete {layer : Layer} {n : Nat} {e : Expr} {word : List Char}
    (h : Spells layer n e word) : IsComplete layer n e word := by
  induction h with
  | literal h ht => exact isComplete_literal h ht
  | reference h ht => exact isComplete_variable h ht
  | call hfunction hname hopening _ hclosing ih =>
    exact isComplete_call hfunction hname hopening ih hclosing
  | group hopening _ hclosing ih => exact isComplete_group hopening ih hclosing
  | ofPrimary _ ih => exact isComplete_ofPrimary ih
  | index _ hopening hposition hdigits hclosing ih =>
    exact isComplete_index ih hopening hposition hdigits hclosing
  | ofTerm _ ih => exact isComplete_ofTerm ih
  | concat _ hplus _ ihl ihr => exact isComplete_concat ihl hplus ihr
  | ofSum _ ih => exact isComplete_ofSum ih
  | filter _ hbar hfunction hname ih => exact isComplete_filter ih hbar hfunction hname

end AttributeProfiles.Template
