import AttributeProfiles.Proofs.Pieces
import AttributeProfiles.Proofs.Template.Compilation

/-!
# How deep calls nest

A placeholder, a group and the argument of a call are filtered expressions, and at most `maxNesting`
of them lie inside each other. A filter is a call too, but it begins no filtered expression: it is
put around one that has been read. So the limit bounds the calls that are written as calls, and the
filters come on top of it, as many as the source has room for.
-/

namespace AttributeProfiles.Template

open Grammar

/-- The most calls on a path through an expression, be they written as calls or as filters. -/
def Expr.callDepth : Expr → Nat
  | .variable _ => 0
  | .literal _ => 0
  | .index list _ => list.callDepth
  | .concat left right => max left.callDepth right.callDepth
  | .call _ argument => argument.callDepth + 1

/-- The nesting that an expression of a layer takes for itself. -/
def Grammar.Layer.ownNesting : Layer → Nat
  | .primary => 0
  | .term => 0
  | .sum => 0
  | .filtered => 1

theorem Grammar.Token.count_le {spelling word : List Char} (h : Token spelling word) (c : Char) :
    spelling.count c ≤ word.count c := by
  obtain ⟨before, after, -, -, rfl⟩ := h
  rw [List.append_assoc, List.count_append, List.count_append]
  omega

/-- Calls take from the nesting that is left, and every filter has its sign. -/
theorem Grammar.Spells.callDepth_le {layer : Layer} {n : Nat} {e : Expr} {word : List Char}
    (h : Spells layer n e word) : e.callDepth + layer.ownNesting ≤ n + word.count '|' := by
  induction h with
  | literal | reference => simp [Expr.callDepth, Layer.ownNesting]
  | call _ _ _ _ _ ih =>
    simp only [Expr.callDepth, Layer.ownNesting, List.count_append] at ih ⊢
    omega
  | group _ _ _ ih =>
    simp only [Layer.ownNesting, List.count_append] at ih ⊢
    omega
  | ofPrimary _ ih => exact ih
  | index _ _ _ _ _ ih =>
    simp only [Expr.callDepth, Layer.ownNesting, List.count_append] at ih ⊢
    omega
  | ofTerm _ ih => exact ih
  | concat _ _ _ ihl ihr =>
    simp only [Expr.callDepth, Layer.ownNesting, List.count_append] at ihl ihr ⊢
    omega
  | ofSum _ ih =>
    simp only [Layer.ownNesting] at ih ⊢
    omega
  | filter _ hbar _ _ ih =>
    have hsign : 1 ≤ _ := hbar.count_le '|'
    simp only [Expr.callDepth, Layer.ownNesting, List.count_append] at ih ⊢
    omega

/-- The first value of an attribute with this many filters. -/
def filteredWord : Nat → List Char
  | 0 => "uid".toList ++ (['['] ++ (['0'] ++ [']']))
  | filters + 1 => filteredWord filters ++ (['|'] ++ "scope".toList)

/-- The filtered value as the argument of this many calls. -/
def calledWord (filters : Nat) : Nat → List Char
  | 0 => filteredWord filters
  | calls + 1 => "scope".toList ++ (['('] ++ (calledWord filters calls ++ [')']))

/-- What filters and calls mean alike. -/
def scopeTimes : Nat → Expr
  | 0 => .index (.variable "uid") 0
  | n + 1 => .call "scope" (scopeTimes n)

theorem callDepth_scopeTimes (n : Nat) : (scopeTimes n).callDepth = n := by
  induction n with
  | zero => rfl
  | succ n ih => rw [scopeTimes, Expr.callDepth, ih]

theorem spells_filteredWord (n filters : Nat) :
    Spells .filtered (n + 1) (scopeTimes filters) (filteredWord filters) := by
  induction filters with
  | zero =>
    have hposition : SpellsInteger 0 ['0'] :=
      ⟨false, ['0'], rfl, by simp, by simp, rfl, by decide⟩
    have hlist : Spells .term n (.variable "uid") "uid".toList :=
      .ofPrimary (spells_variable (by decide))
    exact .ofSum (.ofTerm
      (.index hlist (token_self _) hposition (token_self _) (token_self _)))
  | succ filters ih => exact .filter ih (token_self _) (mem_builtins.2 rfl) (token_self _)

/-- A call takes one more of the nesting, a filter takes none. -/
theorem spells_calledWord (n filters calls : Nat) :
    Spells .filtered (n + 1 + calls) (scopeTimes (filters + calls)) (calledWord filters calls) := by
  induction calls with
  | zero => exact spells_filteredWord n filters
  | succ calls ih =>
    have hcall : Spells .primary (n + 1 + calls) (scopeTimes (filters + calls + 1))
        (calledWord filters (calls + 1)) :=
      .call (mem_builtins.2 rfl) (token_self _) (token_self _) ih (token_self _)
    exact .ofSum (.ofTerm (.ofPrimary hcall))

theorem count_filteredWord (filters : Nat) : (filteredWord filters).count '|' = filters := by
  induction filters with
  | zero => rfl
  | succ filters ih =>
    rw [filteredWord, List.count_append, List.count_append, ih]
    rfl

theorem count_calledWord (filters calls : Nat) :
    (calledWord filters calls).count '|' = filters := by
  induction calls with
  | zero => exact count_filteredWord filters
  | succ calls ih =>
    simp [calledWord, List.count_append, ih]

theorem byteLength_scope : Text.byteLength "scope".toList = 5 := by decide

theorem byteLength_filteredWord (filters : Nat) :
    Text.byteLength (filteredWord filters) = 6 + 6 * filters := by
  induction filters with
  | zero => rfl
  | succ filters ih =>
    have hbar : Text.byteLength ['|'] = 1 := rfl
    rw [filteredWord, Text.byteLength_append, Text.byteLength_append, ih, hbar, byteLength_scope]
    omega

theorem byteLength_calledWord (filters calls : Nat) :
    Text.byteLength (calledWord filters calls) = 6 + 6 * filters + 7 * calls := by
  induction calls with
  | zero => exact byteLength_filteredWord filters
  | succ calls ih =>
    have hopening : Text.byteLength ['('] = 1 := rfl
    have hclosing : Text.byteLength [')'] = 1 := rfl
    rw [calledWord, Text.byteLength_append, Text.byteLength_append, Text.byteLength_append, ih,
      byteLength_scope, hopening, hclosing]
    omega

theorem compile_calledWord (filters calls : Nat) (hcalls : calls < maxNesting)
    (hsize : 6 * filters + 7 * calls + 9 ≤ maxSourceBytes) :
    Template.compile (placeholderSource '$' (calledWord filters calls)) '$' =
      .ok ⟨placeholderSource '$' (calledWord filters calls),
        [.placeholder (scopeTimes (filters + calls))]⟩ := by
  obtain ⟨n, hn⟩ : ∃ n, n + 1 + calls = maxNesting := ⟨maxNesting - calls - 1, by omega⟩
  have hspells : Spells .filtered maxNesting (scopeTimes (filters + calls))
      (calledWord filters calls) := by
    rw [← hn]
    exact spells_calledWord n filters calls
  apply compile_placeholderSource (by decide) hspells
  have hopening : Text.byteLength ['$', '\x7b'] = 2 := rfl
  have hclosing : Text.byteLength ['\x7d'] = 1 := rfl
  calc (placeholderSource '$' (calledWord filters calls)).utf8ByteSize
      = Text.byteLength (['$', '\x7b'] ++ (calledWord filters calls ++ ['\x7d'])) := by
        rw [Text.utf8ByteSize_eq_byteLength, toList_placeholderSource]
        rfl
    _ = 6 * filters + 7 * calls + 9 := by
        rw [Text.byteLength_append, Text.byteLength_append, byteLength_calledWord, hopening,
          hclosing]
        omega
    _ ≤ maxSourceBytes := hsize

/-- In a template, the calls on a path through a placeholder are fewer than the limit on nesting and
the filter signs of the placeholder together. So they are within the limit where the placeholder has
no more than one filter sign. -/
theorem callDepth_lt_of_compile {source : String} {marker : Char} {t : Template} {e : Expr}
    (h : Template.compile source marker = .ok t) (he : .placeholder e ∈ t.segments) :
    ∃ word, word <:+: source.toList ∧ Spells .filtered maxNesting e word ∧
      e.callDepth < maxNesting + word.count '|' := by
  obtain ⟨word, hword, hspells⟩ := exists_spells_of_compile h he
  exact ⟨word, hword, hspells, hspells.callDepth_le⟩

/-- With the most calls and two filters around one value, the bound is reached. -/
theorem callDepth_lt_of_compile_calledWord :
    (scopeTimes 33).callDepth = 33 ∧
      ∃ word, word <:+: (placeholderSource '$' (calledWord 2 31)).toList ∧
        Spells .filtered maxNesting (scopeTimes 33) word ∧
        (scopeTimes 33).callDepth < maxNesting + word.count '|' := by
  have hcompile := compile_calledWord 2 31 (by decide) (by decide)
  exact ⟨callDepth_scopeTimes 33, callDepth_lt_of_compile hcompile (List.mem_singleton_self _)⟩

/-- A chain of filters passes the limit on nesting. -/
theorem filters_pass_the_limit :
    Template.compile (placeholderSource '$' (calledWord 33 0)) '$' =
        .ok ⟨placeholderSource '$' (calledWord 33 0), [.placeholder (scopeTimes 33)]⟩ ∧
      ¬ (scopeTimes 33).callDepth ≤ maxNesting := by
  refine ⟨compile_calledWord 33 0 (by decide) (by decide), ?_⟩
  rw [callDepth_scopeTimes]
  decide

end AttributeProfiles.Template
