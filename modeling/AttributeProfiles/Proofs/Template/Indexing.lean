import AttributeProfiles.Proofs.Template.CallForms
import AttributeProfiles.Proofs.Template.Operations
import AttributeProfiles.Proofs.Template.RenderedOutput
import Mathlib.Algebra.Group.Int.Defs

/-!
# Indexing

An index is an integer in decimal, with as many digits as there is room for. It is read as long as
the integer fits 64 bits, and refused at its first character otherwise. Whatever integer it is, it
means an item of the list or none: from the start, from the end, or out of range.
-/

namespace AttributeProfiles

theorem Word.isSigned_iff {n : Int} : Word.IsSigned n ↔ -2 ^ 63 ≤ n ∧ n < 2 ^ 63 := by
  have hbound : (Word.signedBound : Int) = 2 ^ 63 := by decide
  rw [Word.IsSigned, hbound]

namespace Template

open Grammar

/-- The decimal spellings of an integer: digits, of which the first ones can be zeros, after a minus
or not. -/
def IsDecimal (value : Int) (word : List Char) : Prop :=
  ∃ negative digits, word = (if negative then ['-'] else []) ++ digits ∧ digits ≠ [] ∧
    (∀ c ∈ digits, c.isDigit) ∧ value = Word.signed negative (Digits.number 10 digits)

theorem spellsInteger_iff {value : Int} {word : List Char} :
    SpellsInteger value word ↔ IsDecimal value word ∧ Word.IsSigned value := by
  constructor
  · rintro ⟨negative, digits, hword, hne, hdigits, hvalue, hsigned⟩
    exact ⟨⟨negative, digits, hword, hne, hdigits, hvalue⟩, hsigned⟩
  · rintro ⟨⟨negative, digits, hword, hne, hdigits, hvalue⟩, hsigned⟩
    exact ⟨negative, digits, hword, hne, hdigits, hvalue, hsigned⟩

theorem isDecimal_toDigits (k : Int) (zeros : Nat) :
    IsDecimal k ((if k < 0 then ['-'] else []) ++
      (List.replicate zeros '0' ++ Nat.toDigits 10 k.natAbs)) := by
  refine ⟨decide (k < 0), List.replicate zeros '0' ++ Nat.toDigits 10 k.natAbs, by simp, ?_, ?_, ?_⟩
  · simp [Nat.toDigits_ne_nil]
  · intro c hc
    rcases List.mem_append.1 hc with hc | hc
    · rw [(List.mem_replicate.1 hc).2]
      decide
    · exact Nat.isDigit_of_mem_toDigits (by decide) (by decide) hc
  · rw [Digits.number_zeros_append, Digits.number_toDigits, Word.signed]
    by_cases hnegative : k < 0
    · rw [decide_eq_true hnegative, if_pos rfl]
      omega
    · rw [decide_eq_false hnegative, if_neg Bool.false_ne_true]
      omega

/-- The item of an attribute at a position, as it stands in a placeholder. -/
def indexWord (name : String) (position : List Char) : List Char :=
  name.toList ++ (['['] ++ (position ++ [']']))

variable {name : String} {marker : Char} {k : Int} {word rest : List Char}

theorem spells_indexWord (hname : IsIdentifier name.toList) (hword : SpellsInteger k word) :
    Spells .filtered maxNesting (.index (.variable name) k) (indexWord name word) := by
  have hlist : Spells .term (maxNesting - 1) (.variable name) name.toList :=
    .ofPrimary (spells_variable hname)
  exact .ofSum (.ofTerm (.index hlist (token_self _) hword (token_self _) (token_self _)))

theorem IsDecimal.skipBlanks_eq_self {c : Cursor} (hword : IsDecimal k word)
    (hrest : c.rest = word ++ rest) : c.skipBlanks = c := by
  obtain ⟨negative, digits, rfl, hne, hdigits, -⟩ := hword
  cases negative with
  | true => exact Cursor.skipBlanks_eq_self hrest (by decide)
  | false =>
    obtain ⟨x, xs, rfl⟩ := List.exists_cons_of_ne_nil hne
    exact Cursor.skipBlanks_eq_self hrest
      (isBlank_eq_false_of_isDigit (hdigits x List.mem_cons_self))

theorem readInteger_eq_error {c : Cursor} (hword : IsDecimal k word) (hk : ¬ Word.IsSigned k)
    (hrest : c.rest = word ++ ']' :: rest) :
    readInteger c = .error (c.fault (.invalidIndex (String.ofList word))) := by
  obtain ⟨negative, digits, rfl, hne, hdigits, rfl⟩ := hword
  have htake : (digits ++ ']' :: rest).takeWhile Char.isDigit = digits := by
    rw [List.takeWhile_append_of_pos hdigits, List.takeWhile_cons_of_neg (by decide),
      List.append_nil]
  have hvalue : indexValue? negative digits = none := by
    rw [indexValue?, if_neg]
    exact fun h => hk h.2
  cases negative with
  | true =>
    have hminus : c.rest = '-' :: (digits ++ ']' :: rest) := hrest
    have hhead : c.rest.head? = some '-' := by rw [hminus, List.head?_cons]
    have hdigits : c.next.rest.takeWhile Char.isDigit = digits := by
      rw [Cursor.next_rest, hminus, List.tail_cons, htake]
    simp only [readInteger, hhead, decide_true, if_true, hdigits, hvalue]
    rfl
  | false =>
    have hrest : c.rest = digits ++ ']' :: rest := hrest
    have hhead : c.rest.head? ≠ some '-' := by
      obtain ⟨x, xs, rfl⟩ := List.exists_cons_of_ne_nil hne
      rw [hrest, List.cons_append, List.head?_cons, ne_eq, Option.some.injEq]
      rintro rfl
      exact absurd (hdigits '-' List.mem_cons_self) (by decide)
    rw [← hrest] at htake
    simp only [readInteger, hhead, decide_false, Bool.false_eq_true, if_false, htake, hvalue]
    rfl

theorem readPrimary_variable {nested : Cursor → Except Error (Expr × Cursor)} {c : Cursor}
    (hname : IsIdentifier name.toList) (hrest : c.rest = name.toList ++ '[' :: rest) :
    ∃ c', readPrimary nested c = .ok (.variable name, c') ∧ c.Passes name.toList c' := by
  obtain ⟨c', hread, hpass⟩ := readIdentifier_of_rest hname (by decide) hrest
  have hrest' : c'.rest = '[' :: rest := List.append_cancel_left (hpass.rest.symm.trans hrest)
  have heat : c'.eat? '(' = none := by
    rw [Cursor.eat?, Cursor.skipBlanks_eq_self hrest' (by decide), hrest', if_neg (by simp)]
  have hself : c.skipBlanks = c := Cursor.skipBlanks_of_isIdentifier hname hrest
  have hbefore : c.Before (name.toList ++ '[' :: rest) := by rw [Cursor.Before, hrest]
  obtain ⟨x, xs, hcons, hquote, hgroup, hx⟩ :=
    exists_cons_of_isIdentifier hname (token_self _) hbefore
  rw [hself] at hcons
  refine ⟨c', ?_, hpass⟩
  simp only [readPrimary, hself, hcons, if_neg hquote, if_neg hgroup, if_pos hx, hread, heat,
    bind, Except.bind, String.ofList_toList]

theorem readTerm_indexWord_eq_error {nested : Cursor → Except Error (Expr × Cursor)} {c : Cursor}
    (hname : IsIdentifier name.toList) (hword : IsDecimal k word) (hk : ¬ Word.IsSigned k)
    (hrest : c.rest = indexWord name word ++ rest) :
    readTerm nested c = .error (.malformed (c.position + Text.byteLength (name.toList ++ ['[']))
      (.invalidIndex (String.ofList word))) := by
  have hbracket : c.rest = name.toList ++ '[' :: (word ++ ']' :: rest) := by
    rw [hrest, indexWord]
    simp
  obtain ⟨c₁, hread, hpass⟩ : ∃ c₁, readPrimary nested c = .ok (.variable name, c₁) ∧
      c.Passes name.toList c₁ := readPrimary_variable hname hbracket
  have hrest₁ : c₁.rest = '[' :: (word ++ ']' :: rest) :=
    List.append_cancel_left (hpass.rest.symm.trans hbracket)
  have heat : c₁.eat? '[' = some c₁.next := by
    rw [Cursor.eat?, Cursor.skipBlanks_eq_self hrest₁ (by decide), hrest₁, if_pos List.head?_cons]
  have hnext : c₁.next.rest = word ++ ']' :: rest := by
    rw [Cursor.next_rest, hrest₁, List.tail_cons]
  have hposition : c₁.next.position = c.position + Text.byteLength (name.toList ++ ['[']) :=
    (hpass.trans (.next (by rw [hrest₁, List.head?_cons]))).position
  have hlength : c₁.rest.length = (word ++ ']' :: rest).length + 1 := by
    rw [hrest₁, List.length_cons]
  simp only [readTerm, hread, bind, Except.bind, hlength, readIndices, heat,
    hword.skipBlanks_eq_self hnext, readInteger_eq_error hword hk hnext, Cursor.fault, hposition]

theorem item?_of_fromStart {items : List String} {i : Nat} (h : i < items.length) :
    item? items i = some items[i] := by
  have hplace : ¬ (i : Int) < 0 := by omega
  simp only [item?, if_neg hplace, Int.toNat_natCast, List.getElem?_eq_getElem h]

theorem item?_of_fromEnd {items : List String} {i : Nat} {position : Int} (h : i < items.length)
    (hneg : position < 0) (hplace : items.length + position = i) :
    item? items position = some items[i] := by
  have hplace' : ¬ (i : Int) < 0 := by omega
  simp only [item?, if_pos hneg, hplace, if_neg hplace', Int.toNat_natCast,
    List.getElem?_eq_getElem h]

/-- The sum of a length and a negative integer of 64 bits has 64 bits. -/
theorem isSigned_length_add {n : Nat} (hn : n < 2 ^ 63) (hk : Word.IsSigned k) (hneg : k < 0) :
    Word.IsSigned (n + k) := by
  rw [Word.isSigned_iff] at hk ⊢
  omega

theorem eval_index {r : Record} {values : List String} (hvalues : r.get? name = some values) :
    (Expr.index (.variable name) k).eval r = (Value.list values).at k := by
  rw [Expr.eval, Expr.eval_variable hvalues]
  rfl

/-- An index compiles if its integer has 64 bits, however it is written, and is refused at the first
byte of the integer otherwise. One that compiles gives the item at its position from the start or,
if it is negative, from the end, and is out of range where there is none. -/
theorem index_by_every_integer (hmarker : marker ≠ '\x7b') (hname : IsIdentifier name.toList)
    (hword : IsDecimal k word) (hsize : Fits marker (indexWord name word)) :
    let source := placeholderSource marker (indexWord name word)
    let index := Expr.index (.variable name) k
    ((∃ t, Template.compile source marker = .ok t) ↔ -2 ^ 63 ≤ k ∧ k < 2 ^ 63) ∧
    (¬ (-2 ^ 63 ≤ k ∧ k < 2 ^ 63) → Template.compile source marker = .error
      (.malformed (Text.byteLength (marker :: '\x7b' :: (name.toList ++ ['['])))
        (.invalidIndex (String.ofList word)))) ∧
    (-2 ^ 63 ≤ k ∧ k < 2 ^ 63 →
      Template.compile source marker = .ok ⟨source, [.placeholder index]⟩ ∧
      ∀ (r : Record) (values : List String), r.get? name = some values → values.length < 2 ^ 63 →
        (∀ i (h : i < values.length), k = i → index.eval r = .ok (.text values[i])) ∧
        (∀ i (h : i < values.length), k < 0 → values.length + k = i →
          index.eval r = .ok (.text values[i])) ∧
        (k < -values.length ∨ values.length ≤ k →
          index.eval r = .error (.indexOutOfRange k values.length)) ∧
        (k < 0 → -2 ^ 63 ≤ values.length + k ∧ values.length + k < 2 ^ 63)) := by
  intro source index
  simp only [← Word.isSigned_iff]
  have hok : Word.IsSigned k → Template.compile source marker =
      .ok ⟨source, [.placeholder index]⟩ := by
    intro hk
    exact compile_placeholderSource hmarker
      (spells_indexWord hname (spellsInteger_iff.2 ⟨hword, hk⟩)) hsize
  have herror : ¬ Word.IsSigned k → Template.compile source marker = .error
      (.malformed (Text.byteLength (marker :: '\x7b' :: (name.toList ++ ['['])))
        (.invalidIndex (String.ofList word))) := by
    intro hk
    apply compile_eq_error_of_readTerm hmarker hsize
    rw [readTerm_indexWord_eq_error hname hword hk rfl, ← Text.byteLength_append]
    rfl
  refine ⟨⟨?_, fun hk => ⟨_, hok hk⟩⟩, herror, fun hk => ⟨hok hk, ?_⟩⟩
  · rintro ⟨t, hcompile⟩
    by_contra hk
    rw [herror hk] at hcompile
    cases hcompile
  · intro r values hvalues hlength
    have heval : index.eval r = (Value.list values).at k := eval_index hvalues
    rw [heval]
    refine ⟨?_, ?_, ?_, isSigned_length_add hlength hk⟩
    · rintro i h rfl
      simp only [Value.at, item?_of_fromStart h]
    · intro i h hneg hplace
      simp only [Value.at, item?_of_fromEnd h hneg hplace]
    · intro hrange
      exact Value.at_eq_error_iff.2 (.inr ⟨values, rfl, hrange, rfl⟩)

/-- The least integer of 64 bits is an index, out of range in a list of two items of which the last
one is at minus one. One less is no index. -/
theorem index_by_every_integer_uid :
    let source (position : String) := placeholderSource '$' (indexWord "uid" position.toList)
    let r := Record.empty.insert "uid" ["ann", "bob"]
    Template.compile (source "-009223372036854775808") '$' =
        .ok ⟨source "-009223372036854775808",
          [.placeholder (.index (.variable "uid") (-2 ^ 63))]⟩ ∧
      (Expr.index (.variable "uid") (-2 ^ 63)).eval r = .error (.indexOutOfRange (-2 ^ 63) 2) ∧
      (Expr.index (.variable "uid") (-1)).eval r = .ok (.text "bob") ∧
      Template.compile (source "-9223372036854775809") '$' =
        .error (.malformed 6 (.invalidIndex "-9223372036854775809")) := by
  intro source r
  have hname : IsIdentifier "uid".toList := by decide
  have hvalues : r.get? "uid" = some ["ann", "bob"] := by decide
  have hleast : IsDecimal (-2 ^ 63) "-009223372036854775808".toList :=
    isDecimal_toDigits (-2 ^ 63) 2
  have hbelow : IsDecimal (-2 ^ 63 - 1) "-9223372036854775809".toList :=
    isDecimal_toDigits (-2 ^ 63 - 1) 0
  have hlast : IsDecimal (-1) "-1".toList := isDecimal_toDigits (-1) 0
  have hmarker : '$' ≠ '\x7b' := by decide
  obtain ⟨hcompile, heval⟩ :=
    (index_by_every_integer hmarker hname hleast (fits_iff.2 (by decide))).2.2 (by decide)
  obtain ⟨-, heval'⟩ :=
    (index_by_every_integer hmarker hname hlast (fits_iff.2 (by decide))).2.2 (by decide)
  have hrefused :=
    (index_by_every_integer hmarker hname hbelow (fits_iff.2 (by decide))).2.1 (by decide)
  refine ⟨hcompile, (heval r _ hvalues (by decide)).2.2.1 (.inl (by decide)), ?_, hrefused⟩
  exact (heval' r _ hvalues (by decide)).2.1 1 (by decide) (by decide) (by decide)

end Template

end AttributeProfiles
