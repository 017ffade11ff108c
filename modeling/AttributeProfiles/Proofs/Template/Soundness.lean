import AttributeProfiles.Proofs.Outcomes
import AttributeProfiles.Proofs.Template.Grammar
import Mathlib.Data.List.TakeWhile

/-!
# What is read is spelled

A reader that succeeds has passed a word of the grammar: `Cursor.Passes` says which word lies
between two cursors, and each reader has a lemma that names the word it passed. The readers of
expressions are taken up in the order of their layers; nesting is dealt with once, by induction on
the limit of `readFiltered`.
-/

namespace AttributeProfiles.Template

open Grammar

/-- The word between two cursors of one depth. -/
structure Cursor.Passes (c : Cursor) (word : List Char) (c' : Cursor) : Prop where
  rest : c.rest = word ++ c'.rest
  position : c'.position = c.position + Text.byteLength word
  depth : c'.depth = c.depth

namespace Cursor.Passes

variable {c c' c'' : Cursor} {word other : List Char}

theorem refl (c : Cursor) : c.Passes [] c := ⟨rfl, rfl, rfl⟩

theorem trans (h : c.Passes word c') (h' : c'.Passes other c'') :
    c.Passes (word ++ other) c'' where
  rest := by rw [h.rest, h'.rest, List.append_assoc]
  position := by
    rw [h'.position, h.position, Text.byteLength_append]
    omega
  depth := h'.depth.trans h.depth

theorem next {x : Char} (h : c.rest.head? = some x) : c.Passes [x] c.next := by
  cases hrest : c.rest with
  | nil => simp [hrest] at h
  | cons y ys =>
    rw [hrest, List.head?_cons, Option.some.injEq] at h
    subst h
    refine ⟨by simp [hrest], ?_, c.next_depth⟩
    simp [Cursor.next, hrest]

theorem cons (x : Char) (xs : List Char) (position depth : Nat) :
    Cursor.Passes ⟨x :: xs, position, depth⟩ [x] ⟨xs, position + x.utf8Size, depth⟩ :=
  ⟨rfl, by simp, rfl⟩

theorem skipWhile (p : Char → Bool) (c : Cursor) :
    c.Passes (c.rest.takeWhile p) (c.skipWhile p) :=
  ⟨List.takeWhile_append_dropWhile.symm, rfl, rfl⟩

theorem of_deeper (h : c.deeper.Passes word c') : c.Passes word c'.shallower :=
  ⟨h.rest, h.position, by
    have hdepth := h.depth
    simp only [Cursor.deeper] at hdepth
    simp [Cursor.shallower, hdepth]⟩

end Cursor.Passes

theorem Grammar.token_of_blanks {blanks spelling : List Char}
    (h : ∀ c ∈ blanks, Text.isBlank c) : Token spelling (blanks ++ spelling) :=
  ⟨blanks, [], h, by simp, by simp⟩

theorem token_of_skipBlanks {c c' : Cursor} {spelling : List Char}
    (h : c.skipBlanks.Passes spelling c') :
    ∃ word, Token spelling word ∧ c.Passes word c' :=
  ⟨_, token_of_blanks fun _ => List.mem_takeWhile_imp,
    (Cursor.Passes.skipWhile Text.isBlank c).trans h⟩

theorem eat?_passes {c c' : Cursor} {x : Char} (h : c.eat? x = some c') :
    ∃ blanks, (∀ d ∈ blanks, Text.isBlank d) ∧ c.Passes (blanks ++ [x]) c' := by
  obtain ⟨hx, rfl⟩ := Cursor.eat?_eq_some_iff.1 h
  exact ⟨_, fun _ => List.mem_takeWhile_imp,
    (Cursor.Passes.skipWhile Text.isBlank c).trans (.next hx)⟩

theorem eat?_sound {c c' : Cursor} {x : Char} (h : c.eat? x = some c') :
    ∃ word, Token [x] word ∧ c.Passes word c' := by
  obtain ⟨blanks, hblanks, hpass⟩ := eat?_passes h
  exact ⟨blanks ++ [x], token_of_blanks hblanks, hpass⟩

theorem eat?_match_eq_ok {α : Type} {c : Cursor} {x : Char} {f : Cursor → Except Error α}
    {cause : Error} {a : α}
    (h : (match c.eat? x with
      | some c => f c
      | none => .error cause) = .ok a) :
    ∃ c' word, Token [x] word ∧ c.Passes word c' ∧ f c' = .ok a := by
  cases heat : c.eat? x with
  | none => simp [heat] at h
  | some c' =>
    obtain ⟨word, hword, hpass⟩ := eat?_sound heat
    exact ⟨c', word, hword, hpass, by simpa [heat] using h⟩

theorem isIdentifierPart_of_start {c : Char} (h : isIdentifierStart c) : isIdentifierPart c := by
  simp only [isIdentifierStart, Bool.or_eq_true] at h
  simp only [isIdentifierPart, Char.isAlphanum, Bool.or_eq_true]
  rcases h with h | h
  · exact .inl (.inl h)
  · exact .inr h

theorem readIdentifier_sound {c c' : Cursor} {name : String}
    (h : readIdentifier c = .ok (name, c')) :
    ∃ word, IsIdentifier word ∧ name = String.ofList word ∧ c.Passes word c' := by
  unfold readIdentifier at h
  split at h
  next hstart =>
    cases h
    refine ⟨_, ?_, rfl, Cursor.Passes.skipWhile isIdentifierPart c⟩
    cases hrest : c.rest with
    | nil => simp [hrest] at hstart
    | cons x xs =>
      have hx : isIdentifierStart x := by simpa [hrest] using hstart
      refine ⟨x, xs.takeWhile isIdentifierPart, ?_, hx, fun d => List.mem_takeWhile_imp⟩
      rw [List.takeWhile_cons, if_pos (isIdentifierPart_of_start hx)]
  · cases h

theorem indexValue?_eq_some_iff {negative : Bool} {digits : List Char} {value : Int} :
    indexValue? negative digits = some value ↔
      digits ≠ [] ∧ value = Word.signed negative (Digits.number 10 digits) ∧
        Word.IsSigned value := by
  unfold indexValue?
  constructor
  · intro h
    dsimp only at h
    split at h
    next hvalid =>
      rw [Option.some.injEq] at h
      subst h
      exact ⟨hvalid.1, rfl, hvalid.2⟩
    · cases h
  · rintro ⟨hdigits, rfl, hsigned⟩
    exact if_pos ⟨hdigits, hsigned⟩

theorem readInteger_sound {c c' : Cursor} {value : Int} (h : readInteger c = .ok (value, c')) :
    ∃ word, SpellsInteger value word ∧ c.Passes word c' := by
  unfold readInteger at h
  by_cases hminus : c.rest.head? = some '-'
  · simp only [hminus, decide_true, if_true] at h
    split at h
    next read hread =>
      cases h
      obtain ⟨hdigits, hvalue, hsigned⟩ := indexValue?_eq_some_iff.1 hread
      have hpass := (Cursor.Passes.next hminus).trans (.skipWhile Char.isDigit c.next)
      exact ⟨_, ⟨true, _, rfl, hdigits, fun d => List.mem_takeWhile_imp, hvalue, hsigned⟩, hpass⟩
    · cases h
  · simp only [hminus, decide_false, Bool.false_eq_true, if_false] at h
    split at h
    next read hread =>
      cases h
      obtain ⟨hdigits, hvalue, hsigned⟩ := indexValue?_eq_some_iff.1 hread
      have hpass := Cursor.Passes.skipWhile Char.isDigit c
      exact ⟨_, ⟨false, _, rfl, hdigits, fun d => List.mem_takeWhile_imp, hvalue, hsigned⟩, hpass⟩
    · cases h

theorem escape_iff {c d : Char} : Escape c d ↔ unescape? c = some d := by
  constructor
  · intro h
    cases h <;> rfl
  · intro h
    unfold unescape? at h
    split at h <;> cases h <;> constructor

theorem readLiteral_sound {quote : Char} {depth : Nat} {cs : List Char} {position : Nat}
    {read : List Char} {content : String} {c' : Cursor}
    (h : readLiteral quote depth cs position read = .ok (content, c')) :
    ∃ body spelled, SpellsContent quote spelled body ∧
      content = String.ofList (read.reverse ++ spelled) ∧
      (Cursor.mk cs position depth).Passes (body ++ [quote]) c' := by
  fun_induction readLiteral quote depth cs position read with
  | case1 | case3 | case5 => cases h
  | case2 xs position read =>
    cases h
    exact ⟨[], [], .nil, by simp, .cons quote xs position depth⟩
  | case4 position read y ys z hz hquote after ih =>
    obtain ⟨body, spelled, hbody, hcontent, hpass⟩ := ih h
    refine ⟨'\\' :: y :: body, z :: spelled, .escaped (escape_iff.2 hz) hbody, ?_, ?_⟩
    · simpa using hcontent
    · exact (Cursor.Passes.cons _ _ _ _).trans ((Cursor.Passes.cons _ _ _ _).trans hpass)
  | case6 x xs position read hquote hbackslash ih =>
    obtain ⟨body, spelled, hbody, hcontent, hpass⟩ := ih h
    refine ⟨x :: body, x :: spelled, .plain hquote hbackslash hbody, ?_, ?_⟩
    · simpa using hcontent
    · exact (Cursor.Passes.cons _ _ _ _).trans hpass

theorem callByName_eq_ok_iff {name : String} {argument e : Expr} :
    callByName name argument = .ok e ↔ name ∈ builtins ∧ e = .call name argument := by
  unfold callByName
  split
  next h => rw [Except.ok.injEq, eq_comm, and_iff_right h]
  next h => simp [h]

/-- A reader all of whose results are spelled in a layer by the word that it passed. A cursor that
is inside some expressions can be in that many fewer others. -/
def IsSound (layer : Layer) (read : Cursor → Except Error (Expr × Cursor)) : Prop :=
  ∀ c e c', read c = .ok (e, c') →
    ∃ word, c.Passes word c' ∧ Spells layer (maxNesting - c.depth) e word

variable {nested : Cursor → Except Error (Expr × Cursor)}

section Primary

variable {c c' : Cursor} {e : Expr} {x : Char} {xs : List Char}

theorem readPrimary_literal_sound (hrest : c.skipBlanks.rest = x :: xs) (hx : x = '"' ∨ x = '\'')
    (h : readPrimary nested c = .ok (e, c')) :
    ∃ word, c.Passes word c' ∧ Spells .primary (maxNesting - c.depth) e word := by
  simp only [readPrimary, hrest, if_pos hx] at h
  obtain ⟨⟨content, c₁⟩, hread, hresult⟩ := Outcome.bind_eq_ok_iff.1 h
  cases hresult
  obtain ⟨body, spelled, hbody, rfl, hpass⟩ := readLiteral_sound hread
  have hquote : c.skipBlanks.Passes [x] c.skipBlanks.next :=
    .next (by rw [hrest, List.head?_cons])
  have hspelling : c.skipBlanks.Passes ([x] ++ (body ++ [x])) c₁ := hquote.trans
    ⟨hpass.rest, hpass.position, hpass.depth.trans c.skipBlanks.next_depth.symm⟩
  obtain ⟨word, htoken, hword⟩ := token_of_skipBlanks hspelling
  exact ⟨word, hword, .literal ⟨x, body, hx, hbody, rfl⟩ htoken⟩

theorem readPrimary_group_sound (hnested : IsSound .filtered nested)
    (hrest : c.skipBlanks.rest = '(' :: xs) (h : readPrimary nested c = .ok (e, c')) :
    ∃ word, c.Passes word c' ∧ Spells .primary (maxNesting - c.depth) e word := by
  have hquote : ¬ ('(' = '"' ∨ '(' = '\'') := by decide
  simp only [readPrimary, hrest, if_neg hquote, if_true] at h
  have hnext : c.skipBlanks.Passes ['('] c.skipBlanks.next :=
    .next (by rw [hrest, List.head?_cons])
  obtain ⟨opening, hopening, hpass⟩ := token_of_skipBlanks hnext
  obtain ⟨⟨inner, c₁⟩, hread, h⟩ := Outcome.bind_eq_ok_iff.1 h
  obtain ⟨word, hword, hinner⟩ := hnested _ _ _ hread
  obtain ⟨c₂, closing, hclosing, hpass', hresult⟩ := eat?_match_eq_ok h
  cases hresult
  rw [hpass.depth] at hinner
  exact ⟨_, hpass.trans (hword.trans hpass'), .group hopening hinner hclosing⟩

theorem readPrimary_identifier_sound (hnested : IsSound .filtered nested)
    (hrest : c.skipBlanks.rest = x :: xs) (hquote : ¬ (x = '"' ∨ x = '\'')) (hgroup : x ≠ '(')
    (hx : isIdentifierStart x) (h : readPrimary nested c = .ok (e, c')) :
    ∃ word, c.Passes word c' ∧ Spells .primary (maxNesting - c.depth) e word := by
  simp only [readPrimary, hrest, if_neg hquote, if_neg hgroup, if_pos hx] at h
  obtain ⟨⟨name, c₁⟩, hread, h⟩ := Outcome.bind_eq_ok_iff.1 h
  obtain ⟨spelling, hidentifier, rfl, hpass⟩ := readIdentifier_sound hread
  obtain ⟨token, htoken, hname⟩ := token_of_skipBlanks hpass
  dsimp only at h
  split at h
  next =>
    cases h
    exact ⟨token, hname, .reference hidentifier htoken⟩
  next c₂ heat =>
    obtain ⟨opening, hopening, hpass₂⟩ := eat?_sound heat
    obtain ⟨⟨argument, c₃⟩, hread, h⟩ := Outcome.bind_eq_ok_iff.1 h
    obtain ⟨word, hword, hargument⟩ := hnested _ _ _ hread
    obtain ⟨c₄, closing, hclosing, hpass₄, h⟩ := eat?_match_eq_ok h
    obtain ⟨call, hcall, hresult⟩ := Outcome.bind_eq_ok_iff.1 h
    cases hresult
    obtain ⟨hfunction, rfl⟩ := callByName_eq_ok_iff.1 hcall
    rw [← String.toList_ofList (l := spelling)] at htoken
    rw [hpass₂.depth, hname.depth] at hargument
    exact ⟨_, hname.trans (hpass₂.trans (hword.trans hpass₄)),
      .call hfunction htoken hopening hargument hclosing⟩

end Primary

theorem readPrimary_sound (hnested : IsSound .filtered nested) :
    IsSound .primary (readPrimary nested) := by
  intro c e c' h
  cases hrest : c.skipBlanks.rest with
  | nil => simp [readPrimary, hrest] at h
  | cons x xs =>
    by_cases hquote : x = '"' ∨ x = '\''
    · exact readPrimary_literal_sound hrest hquote h
    · by_cases hgroup : x = '('
      · subst hgroup
        exact readPrimary_group_sound hnested hrest h
      · by_cases hx : isIdentifierStart x
        · exact readPrimary_identifier_sound hnested hrest hquote hgroup hx h
        · simp [readPrimary, hrest, hquote, hgroup, hx] at h

theorem readIndices_sound {n limit : Nat} {e e' : Expr} {c c' : Cursor} {word : List Char}
    (he : Spells .term n e word) (h : readIndices limit e c = .ok (e', c')) :
    ∃ others, c.Passes others c' ∧ Spells .term n e' (word ++ others) := by
  induction limit generalizing e c word with
  | zero =>
    cases h
    exact ⟨[], .refl _, by simpa using he⟩
  | succ limit ih =>
    unfold readIndices at h
    split at h
    · cases h
      exact ⟨[], .refl _, by simpa using he⟩
    next c₁ heat =>
      obtain ⟨opening, hopening, hpass₁⟩ := eat?_sound heat
      obtain ⟨⟨position, c₂⟩, hread, h⟩ := Outcome.bind_eq_ok_iff.1 h
      obtain ⟨spelling, hposition, hpass⟩ := readInteger_sound hread
      obtain ⟨digits, hdigits, hpass₂⟩ := token_of_skipBlanks hpass
      obtain ⟨c₃, closing, hclosing, hpass₃, h⟩ := eat?_match_eq_ok h
      obtain ⟨others, hothers, hspells⟩ := ih (.index he hopening hposition hdigits hclosing) h
      refine ⟨opening ++ (digits ++ closing) ++ others, ?_, ?_⟩
      · exact (hpass₁.trans (hpass₂.trans hpass₃)).trans hothers
      · rwa [← List.append_assoc]

theorem readTerm_sound (hnested : IsSound .filtered nested) :
    IsSound .term (readTerm nested) := by
  intro c e c' h
  obtain ⟨⟨first, c₁⟩, hfirst, h⟩ := Outcome.bind_eq_ok_iff.1 h
  obtain ⟨word, hword, hspells⟩ := readPrimary_sound hnested _ _ _ hfirst
  obtain ⟨others, hothers, hterm⟩ := readIndices_sound (.ofPrimary hspells) h
  exact ⟨word ++ others, hword.trans hothers, hterm⟩

theorem readSummands_sound (hnested : IsSound .filtered nested) {n limit : Nat} {e e' : Expr}
    {c c' : Cursor} {word : List Char} (hdepth : maxNesting - c.depth = n)
    (he : Spells .sum n e word) (h : readSummands nested limit e c = .ok (e', c')) :
    ∃ others, c.Passes others c' ∧ Spells .sum n e' (word ++ others) := by
  induction limit generalizing e c word with
  | zero =>
    cases h
    exact ⟨[], .refl _, by simpa using he⟩
  | succ limit ih =>
    unfold readSummands at h
    split at h
    · cases h
      exact ⟨[], .refl _, by simpa using he⟩
    next c₁ heat =>
      obtain ⟨plus, hplus, hpass₁⟩ := eat?_sound heat
      obtain ⟨⟨summand, c₂⟩, hread, h⟩ := Outcome.bind_eq_ok_iff.1 h
      obtain ⟨other, hpass₂, hsummand⟩ := readTerm_sound hnested _ _ _ hread
      rw [hpass₁.depth, hdepth] at hsummand
      have hdepth₂ : maxNesting - c₂.depth = n := by rw [hpass₂.depth, hpass₁.depth, hdepth]
      obtain ⟨others, hothers, hspells⟩ := ih hdepth₂ (.concat he hplus hsummand) h
      refine ⟨plus ++ other ++ others, (hpass₁.trans hpass₂).trans hothers, ?_⟩
      rwa [← List.append_assoc]

theorem readSum_sound (hnested : IsSound .filtered nested) : IsSound .sum (readSum nested) := by
  intro c e c' h
  obtain ⟨⟨first, c₁⟩, hfirst, h⟩ := Outcome.bind_eq_ok_iff.1 h
  obtain ⟨word, hword, hspells⟩ := readTerm_sound hnested _ _ _ hfirst
  have hdepth : maxNesting - c₁.depth = maxNesting - c.depth := by rw [hword.depth]
  obtain ⟨others, hothers, hsum⟩ := readSummands_sound hnested hdepth (.ofTerm hspells) h
  exact ⟨word ++ others, hword.trans hothers, hsum⟩

theorem readFilters_sound {n limit : Nat} {e e' : Expr} {c c' : Cursor} {word : List Char}
    (he : Spells .filtered n e word) (h : readFilters limit e c = .ok (e', c')) :
    ∃ others, c.Passes others c' ∧ Spells .filtered n e' (word ++ others) := by
  induction limit generalizing e c word with
  | zero =>
    cases h
    exact ⟨[], .refl _, by simpa using he⟩
  | succ limit ih =>
    unfold readFilters at h
    split at h
    · cases h
      exact ⟨[], .refl _, by simpa using he⟩
    next c₁ heat =>
      obtain ⟨bar, hbar, hpass₁⟩ := eat?_sound heat
      obtain ⟨⟨name, c₂⟩, hread, h⟩ := Outcome.bind_eq_ok_iff.1 h
      obtain ⟨spelling, _, rfl, hpass⟩ := readIdentifier_sound hread
      obtain ⟨token, htoken, hpass₂⟩ := token_of_skipBlanks hpass
      obtain ⟨call, hcall, h⟩ := Outcome.bind_eq_ok_iff.1 h
      obtain ⟨hfunction, rfl⟩ := callByName_eq_ok_iff.1 hcall
      rw [← String.toList_ofList (l := spelling)] at htoken
      obtain ⟨others, hothers, hspells⟩ := ih (.filter he hbar hfunction htoken) h
      refine ⟨bar ++ token ++ others, (hpass₁.trans hpass₂).trans hothers, ?_⟩
      rwa [← List.append_assoc]

/-- Whatever nesting the limit allows, an expression that is read is spelled. -/
theorem readFiltered_sound (limit : Nat) : IsSound .filtered (readFiltered limit) := by
  induction limit with
  | zero =>
    intro c e c' h
    unfold readFiltered at h
    split at h <;> cases h
  | succ limit ih =>
    intro c e c' h
    unfold readFiltered at h
    split at h
    · cases h
    next hdepth =>
      dsimp only at h
      obtain ⟨⟨first, c₁⟩, hfirst, h⟩ := Outcome.bind_eq_ok_iff.1 h
      obtain ⟨⟨last, c₂⟩, hlast, hresult⟩ := Outcome.bind_eq_ok_iff.1 h
      cases hresult
      obtain ⟨word, hword, hspells⟩ := readSum_sound ih _ _ _ hfirst
      have hnesting : maxNesting - c.deeper.depth + 1 = maxNesting - c.depth := by
        simp only [Cursor.deeper]
        omega
      obtain ⟨others, hothers, hfiltered⟩ := readFilters_sound (.ofSum hspells) hlast
      rw [hnesting] at hfiltered
      exact ⟨word ++ others, .of_deeper (hword.trans hothers), hfiltered⟩

end AttributeProfiles.Template
