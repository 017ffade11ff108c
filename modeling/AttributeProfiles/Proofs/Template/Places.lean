import AttributeProfiles.Proofs.Template.Walk

/-!
# Places on the way

A move is allowed where a character is there to be passed, where expressions do not nest too deeply
to enter one, and where there is one to leave. A place that is reached from the start of a source by
allowed moves stands between two characters of it, and its position counts the bytes of those before
it. So the source can be cut at every place on the way, and between any two of them.
-/

namespace AttributeProfiles.Template

namespace Cursor

def Allows (c : Cursor) : Move → Prop
  | .pass => c.rest ≠ []
  | .enter => c.depth ≤ maxNesting
  | .leave => 0 < c.depth
  | .turn => c.depth = 0

/-- Moves from one place to another, each allowed where it is made. -/
inductive Path : Cursor → List Move → Cursor → Prop
  | nil (c : Cursor) : Path c [] c
  | cons {c d : Cursor} {move : Move} {moves : List Move} (h : c.Allows move)
      (others : Path (c.after move) moves d) : Path c (move :: moves) d

/-- The places that moves visit, the first among them. -/
def places (c : Cursor) (moves : List Move) : List Cursor := moves.scanl after c

variable {c d e : Cursor} {moves others : List Move}

theorem Path.single {move : Move} (h : c.Allows move) : c.Path [move] (c.after move) :=
  .cons h (.nil _)

theorem Path.append (h : c.Path moves d) (h' : d.Path others e) : c.Path (moves ++ others) e := by
  induction h with
  | nil => exact h'
  | cons hmove _ ih => exact .cons hmove (ih h')

theorem Path.exists_allows {before after : List Move} {move : Move}
    (h : c.Path (before ++ move :: after) d) : ∃ e, c.Path before e ∧ e.Allows move := by
  induction before generalizing c with
  | nil =>
    cases h with
    | cons hmove _ => exact ⟨c, .nil c, hmove⟩
  | cons first before ih =>
    cases h with
    | cons hfirst hothers =>
      obtain ⟨e, hbefore, hmove⟩ := ih hothers
      exact ⟨e, .cons hfirst hbefore, hmove⟩

theorem places_nil (c : Cursor) : c.places [] = [c] := List.scanl_nil

theorem places_cons (c : Cursor) (move : Move) (moves : List Move) :
    c.places (move :: moves) = c :: (c.after move).places moves := List.scanl_cons

theorem mem_places_self (c : Cursor) (moves : List Move) : c ∈ c.places moves := by
  cases moves with
  | nil => simp [places_nil]
  | cons move moves => simp [places_cons]

theorem Path.mem_places_append (h : c.Path moves d) (he : e ∈ d.places others) :
    e ∈ c.places (moves ++ others) := by
  induction h with
  | nil => exact he
  | cons _ _ ih =>
    rw [List.cons_append, places_cons]
    exact List.mem_cons_of_mem _ (ih he)

/-- What holds at a place and is kept by every allowed move holds at every place visited. -/
theorem Path.forall_mem_places {P : Cursor → Prop}
    (hstep : ∀ {c move}, P c → c.Allows move → P (c.after move)) (h : c.Path moves d) (hc : P c) :
    ∀ e ∈ c.places moves, P e := by
  induction h with
  | nil => simpa [places_nil] using hc
  | cons hmove _ ih =>
    rw [places_cons]
    exact List.forall_mem_cons.2 ⟨hc, ih (hstep hc hmove)⟩

theorem rest_after_suffix (c : Cursor) (move : Move) : (c.after move).rest <:+ c.rest := by
  cases move with
  | pass =>
    rw [after, next_rest]
    exact List.tail_suffix _
  | enter | leave | turn => exact List.suffix_rfl

theorem rest_suffix_of_mem_places (h : e ∈ c.places moves) : e.rest <:+ c.rest := by
  induction moves generalizing c with
  | nil =>
    rw [places_nil, List.mem_singleton] at h
    exact h ▸ List.suffix_rfl
  | cons move moves ih =>
    rw [places_cons, List.mem_cons] at h
    rcases h with rfl | h
    · exact List.suffix_rfl
    · exact (ih h).trans (c.rest_after_suffix move)

theorem pairwise_places (c : Cursor) (moves : List Move) :
    (c.places moves).Pairwise fun d e => e.rest <:+ d.rest := by
  induction moves generalizing c with
  | nil =>
    rw [places_nil]
    exact List.pairwise_singleton _ _
  | cons move moves ih =>
    rw [places_cons, List.pairwise_cons]
    exact ⟨fun e he => (rest_suffix_of_mem_places he).trans (c.rest_after_suffix move), ih _⟩

/-- A place between two characters of a source, inside at most one expression too many. -/
structure StandsIn (c : Cursor) (source : String) : Prop where
  cut : ∃ before, source.toList = before ++ c.rest ∧ c.position = Text.byteLength before
  depth_le : c.depth ≤ maxNesting + 1

namespace StandsIn

variable {source : String}

theorem start (source : String) : (Cursor.start source).StandsIn source :=
  ⟨⟨[], rfl, rfl⟩, Nat.zero_le _⟩

theorem after {move : Move} (h : c.StandsIn source) (hmove : c.Allows move) :
    (c.after move).StandsIn source := by
  obtain ⟨⟨before, hrest, hposition⟩, hdepth⟩ := h
  cases move with
  | pass =>
    obtain ⟨x, xs, hxs⟩ := List.exists_cons_of_ne_nil hmove
    refine ⟨⟨before ++ [x], ?_, ?_⟩, ?_⟩
    · simp [Cursor.after, hrest, hxs]
    · simp [Cursor.after, Cursor.next, hxs, hposition]
    · exact Nat.le_trans (Nat.le_of_eq c.next_depth) hdepth
  | enter => exact ⟨⟨before, hrest, hposition⟩, Nat.succ_le_succ hmove⟩
  | leave => exact ⟨⟨before, hrest, hposition⟩, Nat.le_trans (Nat.sub_le _ _) hdepth⟩
  | turn => exact ⟨⟨before, hrest, hposition⟩, hdepth⟩

/-- The source can be cut at the place. -/
theorem dropBytes? (h : c.StandsIn source) :
    Text.dropBytes? c.position source.toList = some c.rest := by
  obtain ⟨before, hrest, hposition⟩ := h.cut
  rw [hrest, hposition, Text.dropBytes?_append]

theorem slice? (h : c.StandsIn source) (h' : d.StandsIn source) (hfurther : d.rest <:+ c.rest) :
    ∃ part, c.rest = part ++ d.rest ∧
      Text.slice? c.position d.position source.toList = some part := by
  obtain ⟨before, hrest, hposition⟩ := h.cut
  obtain ⟨before', hrest', hposition'⟩ := h'.cut
  obtain ⟨part, hpart⟩ := hfurther
  have hsame : before' ++ d.rest = before ++ part ++ d.rest := by
    rw [← hrest', hrest, ← hpart, List.append_assoc]
  have hbefore : before' = before ++ part := List.append_cancel_right hsame
  refine ⟨part, hpart.symm, ?_⟩
  rw [hposition, hposition', hbefore, Text.byteLength_append, hrest, ← hpart, ← List.append_assoc,
    Text.slice?_append]

end StandsIn

end Cursor

end AttributeProfiles.Template
