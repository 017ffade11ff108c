import AttributeProfiles.Proofs.Template.Soundness

/-!
# Reading one expression deeper

What a reader finds at a place does not depend on how many expressions enclose the place, as long as
they are not too many. So each reader gives the same at a place inside one more expression, or finds
the expressions nested too deeply there. The readers are taken up in the order of their layers; a
sequence of readers has this property if its parts have it.
-/

namespace AttributeProfiles.Template

variable {α β : Type}

/-- A result with the place after it inside one more expression. -/
def deepened (x : Except Error (α × Cursor)) : Except Error (α × Cursor) :=
  x.map fun r => (r.1, r.2.deeper)

/-- Inside one more expression, what is read is the same or too deep. -/
def Deepens (x y : Except Error (α × Cursor)) : Prop :=
  y = .error (.tooComplex .nesting) ∨ y = deepened x

namespace Deepens

theorem ok (a : α) (c : Cursor) : Deepens (.ok (a, c)) (.ok (a, c.deeper)) := .inr rfl

theorem error (cause : Error) : Deepens (.error cause : Except Error (α × Cursor)) (.error cause) :=
  .inr rfl

theorem bind {x y : Except Error (α × Cursor)} {f g : α × Cursor → Except Error (β × Cursor)}
    (h : Deepens x y) (hf : ∀ a c, x = .ok (a, c) → Deepens (f (a, c)) (g (a, c.deeper))) :
    Deepens (x >>= f) (y >>= g) := by
  rcases h with rfl | rfl
  · exact .inl rfl
  · cases x with
    | error cause => exact .error cause
    | ok r => exact hf r.1 r.2 rfl

theorem bind_same {x : Except Error α} {f g : α → Except Error (β × Cursor)}
    (hf : ∀ a, Deepens (f a) (g a)) : Deepens (x >>= f) (x >>= g) := by
  cases x with
  | error cause => exact .error cause
  | ok a => exact hf a

end Deepens

namespace Cursor

theorem next_deeper (c : Cursor) : c.deeper.next = c.next.deeper := by
  obtain ⟨rest, position, depth⟩ := c
  cases rest <;> rfl

theorem eat?_deeper (x : Char) (c : Cursor) : c.deeper.eat? x = (c.eat? x).map Cursor.deeper := by
  have hskip : c.deeper.skipBlanks = c.skipBlanks.deeper := rfl
  have hrest : c.skipBlanks.deeper.rest = c.skipBlanks.rest := rfl
  rw [eat?, eat?, hskip, hrest, next_deeper]
  split <;> rfl

theorem lt_of_deeper {c : Cursor} (h : ¬ maxNesting ≤ c.deeper.depth) : ¬ maxNesting ≤ c.depth := by
  simp only [deeper] at h
  omega

/-- Inside an expression at least, going in and out commute. -/
theorem shallower_deeper {c : Cursor} (h : 0 < c.depth) :
    c.deeper.shallower = c.shallower.deeper := by
  have hdepth : c.depth + 1 - 1 = c.depth - 1 + 1 := by omega
  simp only [deeper, shallower, hdepth]

end Cursor

theorem readIdentifier_deepens (c : Cursor) :
    Deepens (readIdentifier c) (readIdentifier c.deeper) := by
  right
  have hrest : c.deeper.rest = c.rest := rfl
  rw [readIdentifier, readIdentifier, hrest]
  split <;> rfl

theorem readInteger_deepens (c : Cursor) : Deepens (readInteger c) (readInteger c.deeper) := by
  right
  have hrest : c.deeper.rest = c.rest := rfl
  by_cases hminus : c.rest.head? = some '-'
  · have hnext : c.next.deeper.rest = c.next.rest := rfl
    simp only [readInteger, hrest, hminus, decide_true, if_true, Cursor.next_deeper, hnext]
    split <;> rfl
  · simp only [readInteger, hrest, hminus, decide_false, Bool.false_eq_true, if_false]
    split <;> rfl

theorem readLiteral_deeper (quote : Char) (depth : Nat) (cs : List Char) (position : Nat)
    (read : List Char) :
    readLiteral quote (depth + 1) cs position read =
      deepened (readLiteral quote depth cs position read) := by
  fun_induction readLiteral quote depth cs position read with
  | case1 position read => rfl
  | case2 xs position read =>
    rw [readLiteral.eq_def]
    exact if_pos rfl
  | case3 position read hquote =>
    rw [readLiteral.eq_def]
    simp only [hquote, if_false, if_true]
    rfl
  | case4 position read y ys z hz hquote after ih =>
    rw [readLiteral.eq_def]
    simp only [hquote, if_false, if_true, hz]
    exact ih
  | case5 position read y ys hz hquote after =>
    rw [readLiteral.eq_def]
    simp only [hquote, if_false, if_true, hz]
    rfl
  | case6 x xs position read hquote hbackslash ih =>
    rw [readLiteral.eq_def]
    simp only [hquote, hbackslash, if_false]
    exact ih

section Layers

variable {nested : Cursor → Except Error (Expr × Cursor)}

theorem readPrimary_deepens (hnested : ∀ c, Deepens (nested c) (nested c.deeper)) (c : Cursor) :
    Deepens (readPrimary nested c) (readPrimary nested c.deeper) := by
  have hskip : c.deeper.skipBlanks = c.skipBlanks.deeper := rfl
  have hrest : c.skipBlanks.deeper.rest = c.skipBlanks.rest := rfl
  rw [readPrimary, readPrimary, hskip]
  dsimp only
  rw [hrest, Cursor.next_deeper]
  split
  next => exact .error _
  next x xs hcons =>
    split
    next hliteral =>
      apply Deepens.bind (.inr (readLiteral_deeper _ _ _ _ _))
      intro content c₁ _
      exact .ok _ c₁
    next =>
      split
      next hgroup =>
        apply (hnested _).bind
        intro inner c₁ _
        dsimp only
        rw [Cursor.eat?_deeper]
        cases c₁.eat? ')' with
        | none => exact .error _
        | some c₂ => exact .ok inner c₂
      next =>
        split
        next hidentifier =>
          apply (readIdentifier_deepens _).bind
          intro name c₁ _
          dsimp only
          rw [Cursor.eat?_deeper]
          cases c₁.eat? '(' with
          | none => exact .ok _ c₁
          | some c₂ =>
            apply (hnested c₂).bind
            intro argument c₃ _
            dsimp only
            rw [Cursor.eat?_deeper]
            cases c₃.eat? ')' with
            | none => exact .error _
            | some c₄ => exact .bind_same fun call => .ok call c₄
        next => exact .error _

theorem readIndices_deepens (limit : Nat) (e : Expr) (c : Cursor) :
    Deepens (readIndices limit e c) (readIndices limit e c.deeper) := by
  induction limit generalizing e c with
  | zero => exact .ok e c
  | succ limit ih =>
    rw [readIndices, readIndices, Cursor.eat?_deeper]
    cases c.eat? '[' with
    | none => exact .ok e c
    | some c₁ =>
      apply (readInteger_deepens c₁.skipBlanks).bind
      intro position c₂ _
      dsimp only
      rw [Cursor.eat?_deeper]
      cases c₂.eat? ']' with
      | none => exact .error _
      | some c₃ => exact ih _ c₃

theorem readTerm_deepens (hnested : ∀ c, Deepens (nested c) (nested c.deeper)) (c : Cursor) :
    Deepens (readTerm nested c) (readTerm nested c.deeper) := by
  apply (readPrimary_deepens hnested c).bind
  intro e c₁ _
  exact readIndices_deepens c₁.rest.length e c₁

theorem readSummands_deepens (hnested : ∀ c, Deepens (nested c) (nested c.deeper)) (limit : Nat)
    (e : Expr) (c : Cursor) :
    Deepens (readSummands nested limit e c) (readSummands nested limit e c.deeper) := by
  induction limit generalizing e c with
  | zero => exact .ok e c
  | succ limit ih =>
    rw [readSummands, readSummands, Cursor.eat?_deeper]
    cases c.eat? '+' with
    | none => exact .ok e c
    | some c₁ =>
      apply (readTerm_deepens hnested c₁).bind
      intro summand c₂ _
      exact ih _ c₂

theorem readSum_deepens (hnested : ∀ c, Deepens (nested c) (nested c.deeper)) (c : Cursor) :
    Deepens (readSum nested c) (readSum nested c.deeper) := by
  apply (readTerm_deepens hnested c).bind
  intro e c₁ _
  exact readSummands_deepens hnested c₁.rest.length e c₁

theorem readFilters_deepens (limit : Nat) (e : Expr) (c : Cursor) :
    Deepens (readFilters limit e c) (readFilters limit e c.deeper) := by
  induction limit generalizing e c with
  | zero => exact .ok e c
  | succ limit ih =>
    rw [readFilters, readFilters, Cursor.eat?_deeper]
    cases c.eat? '|' with
    | none => exact .ok e c
    | some c₁ =>
      apply (readIdentifier_deepens c₁.skipBlanks).bind
      intro name c₂ _
      exact .bind_same fun call => ih call c₂

end Layers

/-- The one reader that looks at the depth of its place. -/
theorem readFiltered_deepens (limit : Nat) (c : Cursor) :
    Deepens (readFiltered limit c) (readFiltered limit c.deeper) := by
  induction limit generalizing c with
  | zero =>
    rw [readFiltered.eq_def, readFiltered.eq_def]
    by_cases hdeeper : maxNesting ≤ c.deeper.depth
    · exact .inl (if_pos hdeeper)
    · rw [if_neg (Cursor.lt_of_deeper hdeeper), if_neg hdeeper]
      exact .error _
  | succ limit ih =>
    rw [readFiltered, readFiltered]
    by_cases hdeeper : maxNesting ≤ c.deeper.depth
    · exact .inl (if_pos hdeeper)
    · rw [if_neg (Cursor.lt_of_deeper hdeeper), if_neg hdeeper]
      apply (readSum_deepens ih c.deeper).bind
      intro e c₁ hsum
      apply (readFilters_deepens c₁.rest.length e c₁).bind
      intro filtered c₂ hfilters
      -- The readers leave the depth as it is, so the expression just read still encloses `c₂`.
      obtain ⟨word, hword, hspells⟩ := readSum_sound (readFiltered_sound limit) _ _ _ hsum
      obtain ⟨others, hothers, -⟩ := readFilters_sound (.ofSum hspells) hfilters
      have hinside : 0 < c₂.depth := by
        rw [hothers.depth, hword.depth]
        exact Nat.succ_pos _
      dsimp only
      rw [Cursor.shallower_deeper hinside]
      exact .ok filtered c₂.shallower

end AttributeProfiles.Template
