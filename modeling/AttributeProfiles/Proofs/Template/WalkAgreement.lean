import AttributeProfiles.Proofs.Template.Limits
import AttributeProfiles.Proofs.Template.Walk

/-!
# Walks read what readers read

A walk that looks for an operator in vain has passed the blanks before it, which its reader has not.
So a walk and its reader agree up to blanks, and whole placeholders and templates they read alike.
The walks are taken up in the order of their layers. The limits of a walk may be larger than those
of its reader, which does not matter, since the reader ends by itself.
-/

namespace AttributeProfiles.Template

variable {α β : Type}

namespace Walk

section Outcomes

variable {c d : Cursor}

theorem outcome_bump_of_nil (h : c.rest = []) : bump.outcome c = .ok (none, c) := by
  simp only [bump, outcome_bind_of_ok (outcome_here _), h, outcome_pure]

theorem outcome_bump_of_cons {x : Char} {xs : List Char} (h : c.rest = x :: xs) :
    bump.outcome c = .ok (some x, c.next) := by
  simp only [bump, outcome_bind_of_ok (outcome_here _), h]
  rfl

theorem outcome_passes {run others : List Char} (h : c.rest = run ++ others) :
    (forM run fun _ => make .pass).outcome c =
      .ok ((), ⟨others, c.position + Text.byteLength run, c.depth⟩) := by
  induction run generalizing c with
  | nil =>
    cases c
    cases h
    rfl
  | cons x run ih =>
    have hnext : c.next = ⟨run ++ others, c.position + x.utf8Size, c.depth⟩ := by
      rw [Cursor.next, h]
      rfl
    have hpassed : (forM run fun _ => make .pass).outcome c.next = _ := ih (by rw [hnext])
    rw [List.forM_cons, outcome_bind_of_ok (outcome_make _ _)]
    refine hpassed.trans ?_
    rw [hnext, Text.byteLength_cons, Nat.add_assoc]

theorem outcome_skip (p : Char → Bool) (c : Cursor) :
    (skip p).outcome c = .ok (c.rest.takeWhile p, c.skipWhile p) := by
  have hrest : c.rest = c.rest.takeWhile p ++ c.rest.dropWhile p :=
    List.takeWhile_append_dropWhile.symm
  rw [skip, outcome_bind_of_ok (outcome_here _), outcome_bind_of_ok (outcome_passes hrest)]
  rfl

theorem outcome_blanks (c : Cursor) : blanks.outcome c = .ok ((), c.skipBlanks) := by
  rw [blanks, outcome_bind_of_ok (outcome_skip _ _)]
  rfl

theorem outcome_eat_of_some {x : Char} (h : c.eat? x = some d) :
    (eat x).outcome c = .ok (true, d) := by
  obtain ⟨hx, rfl⟩ := Cursor.eat?_eq_some_iff.1 h
  rw [eat, outcome_bind_of_ok (outcome_blanks _), outcome_bind_of_ok (outcome_here _), if_pos hx]
  rfl

theorem outcome_eat_of_none {x : Char} (h : c.eat? x = none) :
    (eat x).outcome c = .ok (false, c.skipBlanks) := by
  have hx : c.skipBlanks.rest.head? ≠ some x := by
    intro hx
    rw [Cursor.eat?, if_pos hx] at h
    cases h
  rw [eat, outcome_bind_of_ok (outcome_blanks _), outcome_bind_of_ok (outcome_here _), if_neg hx]
  rfl

theorem outcome_close_of_some {x : Char} (h : c.eat? x = some d) (fault : Fault) :
    (close x fault).outcome c = .ok ((), d) := by
  rw [close, outcome_bind_of_ok (outcome_eat_of_some h)]
  rfl

theorem outcome_close_of_none {x : Char} (h : c.eat? x = none) (fault : Fault) :
    (close x fault).outcome c = .error (c.skipBlanks.fault fault) := by
  rw [close, outcome_bind_of_ok (outcome_eat_of_none h)]
  rfl

theorem outcome_identifier (c : Cursor) : identifier.outcome c = readIdentifier c := by
  simp only [identifier, readIdentifier, outcome_bind_of_ok (outcome_here _)]
  split
  · rw [outcome_bind_of_ok (outcome_skip _ _)]
    rfl
  · rfl

theorem outcome_integer (c : Cursor) : integer.outcome c = readInteger c := by
  simp only [integer, readInteger, outcome_bind_of_ok (outcome_here _)]
  by_cases hminus : c.rest.head? = some '-'
  · simp only [hminus, decide_true, if_true, outcome_bind, outcome_make, Outcome.ok_bind,
      outcome_skip, Cursor.after]
    cases indexValue? true (c.next.rest.takeWhile Char.isDigit) <;> rfl
  · simp only [hminus, decide_false, Bool.false_eq_true, if_false, outcome_bind, outcome_pure,
      Outcome.ok_bind, outcome_skip]
    cases indexValue? false (c.rest.takeWhile Char.isDigit) <;> rfl

theorem outcome_literal (quote : Char) {limit : Nat} (h : c.rest.length ≤ limit)
    (read : List Char) :
    (literal quote limit read).outcome c = readLiteral quote c.depth c.rest c.position read := by
  induction limit generalizing c read with
  | zero =>
    have hnil : c.rest = [] := List.eq_nil_of_length_eq_zero (by omega)
    rw [literal, outcome_failHere, hnil]
    rfl
  | succ limit ih =>
    rw [literal, outcome_bind]
    cases hrest : c.rest with
    | nil =>
      rw [outcome_bump_of_nil hrest]
      rfl
    | cons x xs =>
      have hnext : c.next = ⟨xs, c.position + x.utf8Size, c.depth⟩ := by
        rw [Cursor.next, hrest]
      rw [hrest, List.length_cons] at h
      rw [outcome_bump_of_cons hrest, hnext, Outcome.ok_bind, readLiteral.eq_def]
      dsimp only
      split_ifs with hquote hbackslash
      · rfl
      · rw [outcome_bind]
        cases xs with
        | nil => rfl
        | cons y ys =>
          rw [outcome_bump_of_cons rfl, Outcome.ok_bind]
          rw [List.length_cons] at h
          dsimp only
          cases unescape? y with
          | none => rfl
          | some z => exact ih (by dsimp only [Cursor.next]; omega) (z :: read)
      · exact ih (by dsimp only; omega) (x :: read)

theorem outcome_call (name : String) (argument : Expr) (c : Cursor) :
    (call name argument).outcome c = callByName name argument >>= fun e => .ok (e, c) := by
  unfold call
  cases callByName name argument <;> rfl

end Outcomes

end Walk

/-- The same place, or the one after the blanks that follow it. -/
def Cursor.BlanksTo (c d : Cursor) : Prop := d = c ∨ d = c.skipBlanks

theorem Cursor.skipBlanks_skipBlanks (c : Cursor) : c.skipBlanks.skipBlanks = c.skipBlanks := by
  have hfirst := List.dropWhile_get_zero_not (p := Text.isBlank) c.rest
  rw [skipBlanks, skipWhile, skipBlanks, skipWhile_rest, List.takeWhile_eq_nil_iff.2 hfirst,
    List.dropWhile_eq_self_iff.2 hfirst]
  rfl

namespace Cursor.BlanksTo

variable {c d : Cursor}

theorem skipBlanks_eq (h : c.BlanksTo d) : d.skipBlanks = c.skipBlanks := by
  rcases h with rfl | rfl
  · rfl
  · exact c.skipBlanks_skipBlanks

theorem eat?_eq (h : c.BlanksTo d) (x : Char) : d.eat? x = c.eat? x := by
  rw [eat?, eat?, h.skipBlanks_eq]

theorem skipBlanks (h : c.BlanksTo d) : c.BlanksTo d.skipBlanks := .inr h.skipBlanks_eq

theorem depth_eq (h : c.BlanksTo d) : d.depth = c.depth := by
  rcases h with rfl | rfl <;> rfl

theorem position_le (h : c.BlanksTo d) : c.position ≤ d.position := by
  rcases h with rfl | rfl
  · exact le_rfl
  · exact Nat.le_add_right _ _

end Cursor.BlanksTo

/-- The same outcome, but for blanks that the second reader may have passed at the end. -/
inductive Agrees : Except Error (α × Cursor) → Except Error (α × Cursor) → Prop
  | ok (a : α) {c d : Cursor} (h : c.BlanksTo d) : Agrees (.ok (a, c)) (.ok (a, d))
  | error (cause : Error) : Agrees (.error cause) (.error cause)

namespace Agrees

theorem of_eq {x y : Except Error (α × Cursor)} (h : x = y) : Agrees x y := by
  subst h
  cases x with
  | error cause => exact .error cause
  | ok read => exact .ok read.1 (.inl rfl)

theorem bind {x y : Except Error (α × Cursor)} {f g : α × Cursor → Except Error (β × Cursor)}
    (h : Agrees x y)
    (hf : ∀ a c d, x = .ok (a, c) → c.BlanksTo d → Agrees (f (a, c)) (g (a, d))) :
    Agrees (x >>= f) (y >>= g) := by
  cases h with
  | error cause => exact .error cause
  | ok a h => exact hf a _ _ rfl h

/-- What two readers read alike is the start of what they read alike. -/
theorem bind_same {x : Except Error (α × Cursor)} {f g : α × Cursor → Except Error (β × Cursor)}
    (hf : ∀ a c, x = .ok (a, c) → Agrees (f (a, c)) (g (a, c))) : Agrees (x >>= f) (x >>= g) := by
  cases x with
  | error cause => exact .error cause
  | ok read => exact hf read.1 read.2 rfl

theorem eat {x : Char} {c d : Cursor} (h : c.BlanksTo d) {f : Cursor → Except Error (α × Cursor)}
    {w : Walk α} {a : α} (hf : ∀ e, c.eat? x = some e → Agrees (f e) (w.outcome e)) :
    Agrees
      (match c.eat? x with
      | none => .ok (a, c)
      | some e => f e)
      ((Walk.eat x >>= fun eaten => if eaten = true then w else pure a).outcome d) := by
  rw [Walk.outcome_bind]
  cases heat : c.eat? x with
  | none =>
    rw [Walk.outcome_eat_of_none ((h.eat?_eq x).trans heat)]
    exact .ok a h.skipBlanks
  | some e =>
    rw [Walk.outcome_eat_of_some ((h.eat?_eq x).trans heat)]
    exact hf e heat

theorem close {x : Char} {c d : Cursor} (h : c.BlanksTo d) (fault : Fault)
    {f : Cursor → Except Error (α × Cursor)} {w : Walk α}
    (hf : ∀ e, c.eat? x = some e → Agrees (f e) (w.outcome e)) :
    Agrees
      (match c.eat? x with
      | some e => f e
      | none => .error (c.skipBlanks.fault fault))
      ((Walk.close x fault >>= fun _ => w).outcome d) := by
  rw [Walk.outcome_bind]
  cases heat : c.eat? x with
  | none =>
    rw [Walk.outcome_close_of_none ((h.eat?_eq x).trans heat), h.skipBlanks_eq]
    exact .error _
  | some e =>
    rw [Walk.outcome_close_of_some ((h.eat?_eq x).trans heat)]
    exact hf e heat

end Agrees

section Nested

variable {read : Cursor → Except Error (Expr × Cursor)} {nested : Walk Expr}

theorem agrees_primary (hnested : ∀ c, Agrees (read c) (nested.outcome c)) (c : Cursor) :
    Agrees (readPrimary read c) ((Walk.primary nested).outcome c) := by
  rw [readPrimary, Walk.primary, Walk.outcome_bind_of_ok (Walk.outcome_blanks _),
    Walk.outcome_bind_of_ok (Walk.outcome_here _)]
  dsimp only
  generalize c.skipBlanks = c
  cases hrest : c.rest with
  | nil => exact .error _
  | cons x xs =>
    have hlength : c.next.rest.length ≤ xs.length := by
      rw [Cursor.next_rest, hrest, List.tail_cons]
    dsimp only
    split_ifs with hquote hparenthesis hname
    · rw [Walk.outcome_bind_of_ok (Walk.outcome_make _ _), Walk.outcome_bind]
      change Agrees _ ((Walk.literal x xs.length []).outcome c.next >>= _)
      rw [Walk.outcome_literal x hlength, Cursor.next_depth]
      exact .bind_same fun content c₁ _ => .of_eq rfl
    · rw [Walk.outcome_bind_of_ok (Walk.outcome_make _ _), Walk.outcome_bind]
      exact (hnested _).bind fun inner c₁ d₁ _ h => .close h _ fun c₂ _ => .of_eq rfl
    · rw [Walk.outcome_bind, Walk.outcome_identifier]
      refine .bind_same fun name c₁ _ => .eat (.inl rfl) fun c₂ _ => ?_
      rw [Walk.outcome_bind]
      refine (hnested c₂).bind fun argument c₃ d₃ _ h => .close h _ fun c₄ _ => ?_
      exact .of_eq (Walk.outcome_call name argument c₄).symm
    · exact .error _

theorem agrees_indices (limit : Nat) (e : Expr) {c d : Cursor} (h : c.BlanksTo d) :
    Agrees (readIndices limit e c) ((Walk.indices limit e).outcome d) := by
  induction limit generalizing e c d with
  | zero => exact .ok e h
  | succ limit ih =>
    rw [readIndices, Walk.indices]
    refine .eat h fun c₁ _ => ?_
    rw [Walk.outcome_bind_of_ok (Walk.outcome_blanks _), Walk.outcome_bind,
      Walk.outcome_integer]
    exact .bind_same fun position c₂ _ => .close (.inl rfl) _ fun c₃ _ => ih _ (.inl rfl)

theorem agrees_term (hsound : IsSound .filtered read)
    (hnested : ∀ c, Agrees (read c) (nested.outcome c)) (c : Cursor) :
    Agrees (readTerm read c) ((Walk.term nested).outcome c) := by
  rw [readTerm, Walk.term, Walk.outcome_bind_of_ok (Walk.outcome_here _),
    Walk.outcome_bind]
  refine (agrees_primary hnested c).bind fun e c₁ d₁ hread h => ?_
  have hlength := (readPrimary_sound hsound).length_le hread
  dsimp only
  rw [readIndices_limit le_rfl hlength]
  exact agrees_indices c.rest.length e h

theorem agrees_summands (hsound : IsSound .filtered read)
    (hnested : ∀ c, Agrees (read c) (nested.outcome c)) (limit : Nat) (e : Expr) {c d : Cursor}
    (h : c.BlanksTo d) :
    Agrees (readSummands read limit e c) ((Walk.summands nested limit e).outcome d) := by
  induction limit generalizing e c d with
  | zero => exact .ok e h
  | succ limit ih =>
    rw [readSummands, Walk.summands]
    refine .eat h fun c₁ _ => ?_
    rw [Walk.outcome_bind]
    exact (agrees_term hsound hnested c₁).bind fun summand c₂ d₂ _ h => ih _ h

theorem agrees_sum (hsound : IsSound .filtered read)
    (hnested : ∀ c, Agrees (read c) (nested.outcome c)) (c : Cursor) :
    Agrees (readSum read c) ((Walk.sum nested).outcome c) := by
  rw [readSum, Walk.sum, Walk.outcome_bind_of_ok (Walk.outcome_here _), Walk.outcome_bind]
  refine (agrees_term hsound hnested c).bind fun e c₁ d₁ hread h => ?_
  have hlength := (readTerm_sound hsound).length_le hread
  dsimp only
  rw [readSummands_limit hsound le_rfl hlength]
  exact agrees_summands hsound hnested c.rest.length e h

end Nested

theorem agrees_filters (limit : Nat) (e : Expr) {c d : Cursor} (h : c.BlanksTo d) :
    Agrees (readFilters limit e c) ((Walk.filters limit e).outcome d) := by
  induction limit generalizing e c d with
  | zero => exact .ok e h
  | succ limit ih =>
    rw [readFilters, Walk.filters]
    refine .eat h fun c₁ _ => ?_
    rw [Walk.outcome_bind_of_ok (Walk.outcome_blanks _), Walk.outcome_bind,
      Walk.outcome_identifier]
    refine .bind_same fun name c₂ _ => ?_
    rw [Walk.outcome_bind, Walk.outcome_call]
    dsimp only
    cases callByName name e with
    | error cause => exact .error cause
    | ok e => exact ih e (.inl rfl)

theorem Walk.outcome_inside (w : Walk α) (c : Cursor) :
    (Walk.inside w).outcome c =
      if maxNesting ≤ c.depth then .error (.tooComplex .nesting)
      else w.outcome c.deeper >>= fun read => .ok (read.1, read.2.shallower) := by
  rw [inside, outcome_bind_of_ok (outcome_make _ _), outcome_bind_of_ok (outcome_here _)]
  split_ifs with hdeep hdepth hdepth
  · rfl
  · exact absurd (Nat.lt_succ_iff.1 hdeep) hdepth
  · exact absurd (Nat.lt_succ_iff.2 hdepth) hdeep
  · rw [outcome_bind]
    rfl

theorem agrees_filtered (limit : Nat) (c : Cursor) :
    Agrees (readFiltered limit c) ((Walk.filtered limit).outcome c) := by
  induction limit generalizing c with
  | zero =>
    rw [readFiltered, Walk.filtered, Walk.outcome_inside]
    exact .of_eq rfl
  | succ limit ih =>
    rw [readFiltered, Walk.filtered, Walk.outcome_inside]
    split_ifs
    · exact .error _
    · have hsound := readFiltered_sound limit
      rw [Walk.outcome_bind_of_ok (Walk.outcome_here _), Walk.outcome_bind, bind_assoc]
      refine (agrees_sum hsound ih c.deeper).bind fun e c₁ d₁ hread h => ?_
      have hlength := (readSum_sound hsound).length_le hread
      dsimp only
      rw [readFilters_limit le_rfl hlength]
      refine (agrees_filters _ e h).bind fun e c₂ d₂ _ h => .ok e ?_
      rcases h with rfl | rfl
      · exact .inl rfl
      · exact .inr rfl

namespace Walk

/-- The closing brace is behind the blanks on which a reader and its walk may differ. -/
theorem outcome_placeholder (c : Cursor) : placeholder.outcome c = readPlaceholder c := by
  rw [placeholder, outcome_bind_of_ok (outcome_here _), outcome_bind, readPlaceholder]
  have hagrees := agrees_filtered c.rest.length c
  revert hagrees
  generalize readFiltered c.rest.length c = x, (filtered c.rest.length).outcome c = y
  intro hagrees
  cases hagrees with
  | error cause => rfl
  | @ok e c₁ d₁ h =>
    rw [Outcome.ok_bind, Outcome.ok_bind, outcome_bind]
    dsimp only
    cases heat : c₁.eat? '\x7d' with
    | none =>
      rw [outcome_close_of_none ((h.eat?_eq _).trans heat), h.skipBlanks_eq]
      rfl
    | some c₂ =>
      rw [outcome_close_of_some ((h.eat?_eq _).trans heat)]
      rfl

theorem result_segments (marker : Char) (limit : Nat) (read : List Char) (c : Cursor) :
    (segments marker limit read).result c = readSegments marker limit read c := by
  induction limit generalizing read c with
  | zero => rfl
  | succ limit ih =>
    rw [segments, result_bind, outcome_make, Outcome.ok_bind, result_bind, readSegments]
    dsimp only [Cursor.after]
    cases hrest : c.rest with
    | nil =>
      rw [outcome_bump_of_nil hrest]
      rfl
    | cons x xs =>
      have hxs : c.next.rest = xs := by rw [Cursor.next_rest, hrest, List.tail_cons]
      rw [outcome_bump_of_cons hrest, Outcome.ok_bind]
      dsimp only
      by_cases hother : x ≠ marker
      · rw [if_pos hother, if_pos hother]
        exact ih (x :: read) c.next
      rw [if_neg hother, if_neg hother, result_bind, outcome_here, Outcome.ok_bind]
      dsimp only
      rw [hxs]
      split_ifs
      · exact ih (marker :: read) c.next.next
      · rw [result_bind, outcome_make, Outcome.ok_bind, result_bind, outcome_placeholder]
        dsimp only [Cursor.after]
        cases readPlaceholder c.next.next with
        | error cause => rfl
        | ok r =>
          rw [Outcome.ok_bind, Outcome.ok_bind, result_bind, ← ih, result]
          cases (segments marker limit []).outcome r.2 <;> rfl
      · exact ih (x :: read) c.next

theorem rest_of_outcome_segments {marker : Char} {limit : Nat} {read : List Char} {c d : Cursor}
    {found : List Segment} (h : c.rest.length ≤ limit)
    (hfound : (segments marker limit read).outcome c = .ok (found, d)) : d.rest = [] := by
  induction limit generalizing read c found with
  | zero =>
    have hnil : c.rest = [] := List.eq_nil_of_length_eq_zero (by omega)
    cases hfound
    exact hnil
  | succ limit ih =>
    rw [segments, outcome_bind_of_ok (outcome_make _ _)] at hfound
    dsimp only [Cursor.after] at hfound
    cases hrest : c.rest with
    | nil =>
      rw [outcome_bind_of_ok (outcome_bump_of_nil hrest)] at hfound
      cases hfound
      exact hrest
    | cons x xs =>
      have hnext : c.next.rest.length ≤ limit := by
        rw [hrest, List.length_cons] at h
        rw [Cursor.next_rest, hrest, List.tail_cons]
        omega
      have hnext₂ : c.next.next.rest.length ≤ limit := by
        rw [Cursor.next_rest, List.length_tail]
        omega
      rw [outcome_bind_of_ok (outcome_bump_of_cons hrest)] at hfound
      dsimp only at hfound
      by_cases hother : x ≠ marker
      · rw [if_pos hother] at hfound
        exact ih hnext hfound
      rw [if_neg hother, outcome_bind_of_ok (outcome_here _)] at hfound
      split_ifs at hfound
      · exact ih hnext₂ hfound
      · rw [outcome_bind_of_ok (outcome_make _ _), outcome_bind, outcome_placeholder] at hfound
        obtain ⟨⟨e, c₁⟩, hread, hfound⟩ := Outcome.bind_eq_ok_iff.1 hfound
        have hshorter : c₁.rest.length < c.next.next.rest.length :=
          length_lt_of_readPlaceholder hread
        rw [outcome_bind] at hfound
        obtain ⟨⟨others, d'⟩, hothers, hfound⟩ := Outcome.bind_eq_ok_iff.1 hfound
        cases hfound
        exact ih (by dsimp only; omega) hothers
      · exact ih hnext hfound

/-- Step by step, a template is compiled as at one go. -/
theorem result_template (source : String) (marker : Char) :
    (template source marker).result (.start source) = Template.compile source marker := by
  unfold template Template.compile
  split_ifs
  · rfl
  · rw [result_bind, ← result_segments, result]
    cases (segments marker source.toList.length []).outcome (.start source) <;> rfl

theorem rest_of_outcome_template {source : String} {marker : Char} {t : Template} {d : Cursor}
    (h : (template source marker).outcome (.start source) = .ok (t, d)) : d.rest = [] := by
  unfold template at h
  split at h
  · cases h
  · rw [outcome_bind] at h
    obtain ⟨⟨found, d'⟩, hfound, h⟩ := Outcome.bind_eq_ok_iff.1 h
    cases h
    have hlimit : (Cursor.start source).rest.length ≤ source.toList.length := le_rfl
    exact rest_of_outcome_segments hlimit hfound

end Walk

end AttributeProfiles.Template
