import AttributeProfiles.Proofs.Template.Places
import AttributeProfiles.Proofs.Template.WalkAgreement

/-!
# Reading stays in the source

A walk is steady if its moves are allowed, it ends as deep in expressions as it began, and a fault
that it reports is at a place on its way. A sequence of steady walks is steady, and so are the walks
of all layers, whatever the source. So compiling a template never looks outside its source, nor
inside a character, and between placeholders it is in no expression.
-/

namespace AttributeProfiles.Template

variable {α β : Type}

namespace Walk

/-- How a walk that has made these moves from a place can end: at a given depth, or with an error. A
fault is at a place that it has visited, or at a position known before. -/
inductive Ends (known : Nat → Prop) (c : Cursor) (moves : List Move) (depth : Nat) :
    Except Error (α × Cursor) → Prop
  | ok (a : α) {d : Cursor} (path : c.Path moves d) (depth_eq : d.depth = depth) :
      Ends known c moves depth (.ok (a, d))
  | error {cause : Error} {d : Cursor} (path : c.Path moves d)
      (visited : ∀ position fault, cause = .malformed position fault →
        known position ∨ ∃ e ∈ c.places moves, e.position = position) :
      Ends known c moves depth (.error cause)

/-- What ends further on ends on the whole way. -/
theorem Ends.of_path {known : Nat → Prop} {c d : Cursor} {moves others : List Move} {depth : Nat}
    {x : Except Error (α × Cursor)} (path : c.Path moves d) (h : Ends known d others depth x) :
    Ends known c (moves ++ others) depth x := by
  cases h with
  | ok a path' depth_eq => exact .ok a (path.append path') depth_eq
  | error path' visited =>
    refine .error (path.append path') fun position fault hcause => ?_
    rcases visited position fault hcause with hknown | ⟨e, he, hposition⟩
    · exact .inl hknown
    · exact .inr ⟨e, path.mem_places_append he, hposition⟩

/-- A walk from a place that makes allowed moves only and ends at a given depth. -/
def Steady (w : Walk α) (known : Nat → Prop) (c : Cursor) (depth : Nat) : Prop :=
  Ends known c (w.moves c) depth (w.outcome c)

/-- A walk that is steady from every place of at most this depth, and ends as deep as it began. -/
def IsSteady (bound : Nat) (w : Walk α) : Prop :=
  ∀ known c, c.depth ≤ bound → w.Steady known c c.depth

namespace Steady

variable {w : Walk α} {f : α → Walk β} {known : Nat → Prop} {c : Cursor} {depth depth' : Nat}

theorem pure (a : α) (known : Nat → Prop) (c : Cursor) :
    (Pure.pure a : Walk α).Steady known c c.depth := .ok a (.nil c) rfl

theorem make {move : Move} (h : c.Allows move) (known : Nat → Prop) :
    (Walk.make move).Steady known c (c.after move).depth := .ok () (.single h) rfl

theorem fail {cause : Error}
    (h : ∀ position fault, cause = .malformed position fault → known position) (c : Cursor)
    (depth : Nat) : (Walk.fail cause : Walk α).Steady known c depth :=
  .error (.nil c) fun position fault hcause => .inl (h position fault hcause)

theorem pass (h : c.rest ≠ []) (known : Nat → Prop) :
    (Walk.make .pass).Steady known c c.depth := by
  have hallows : c.Allows .pass := h
  have hsteady : (Walk.make .pass).Steady known c c.next.depth := .make hallows known
  rwa [Cursor.next_depth] at hsteady

theorem failHere (fault : Fault) (known : Nat → Prop) (c : Cursor) (depth : Nat) :
    (Walk.failHere fault : Walk α).Steady known c depth :=
  .error (.nil c) fun position _ hcause => by
    cases hcause
    exact .inr ⟨c, c.mem_places_self _, rfl⟩

theorem bind (h : w.Steady known c depth)
    (hf : ∀ a d, w.outcome c = .ok (a, d) → d.depth = depth → (f a).Steady known d depth') :
    (w >>= f).Steady known c depth' := by
  unfold Steady at h ⊢
  rw [outcome_bind]
  cases hw : w.outcome c with
  | error cause =>
    rw [hw] at h
    rw [moves_bind_of_error hw, Outcome.error_bind]
    cases h with
    | error path visited => exact .error path visited
  | ok read =>
    obtain ⟨a, d⟩ := read
    rw [hw] at h
    rw [moves_bind_of_ok hw, Outcome.ok_bind]
    cases h with
    | ok _ path depth_eq =>
      have hsecond : (f a).Steady known d depth' := hf a d hw depth_eq
      exact Ends.of_path path hsecond

theorem here_bind {f : Cursor → Walk β}
    (h : (f c).Steady (fun position => position = c.position ∨ known position) c depth) :
    (Walk.here >>= f).Steady known c depth := by
  have hmoves : (Walk.here >>= f).moves c = (f c).moves c := rfl
  have houtcome : (Walk.here >>= f).outcome c = (f c).outcome c := rfl
  unfold Steady at h ⊢
  rw [hmoves, houtcome]
  generalize (f c).outcome c = x, (f c).moves c = moves at h ⊢
  cases h with
  | ok b path depth_eq => exact .ok b path depth_eq
  | error path visited =>
    refine .error path fun position fault hcause => ?_
    rcases visited position fault hcause with (rfl | hknown) | hvisited
    · exact .inr ⟨c, c.mem_places_self _, rfl⟩
    · exact .inl hknown
    · exact .inr hvisited

theorem bind_isSteady {bound : Nat} (h : w.Steady known c c.depth) (hc : c.depth ≤ bound)
    (hf : ∀ a, (f a).IsSteady bound) : (w >>= f).Steady known c c.depth :=
  h.bind fun a d _ hdepth => hdepth ▸ hf a known d (hdepth.trans_le hc)

end Steady

namespace IsSteady

variable {w : Walk α} {f : α → Walk β} {bound : Nat}

theorem pure (a : α) : (Pure.pure a : Walk α).IsSteady bound := fun known c _ => .pure a known c

theorem failHere (fault : Fault) : (Walk.failHere fault : Walk α).IsSteady bound :=
  fun known c _ => .failHere fault known c c.depth

theorem fail {cause : Error} (h : ∀ position fault, cause ≠ .malformed position fault) :
    (Walk.fail cause : Walk α).IsSteady bound :=
  fun _ c _ => .fail (fun position fault hcause => absurd hcause (h position fault)) c c.depth

theorem here : Walk.here.IsSteady bound := fun _ c _ => .ok c (.nil c) rfl

theorem bind (h : w.IsSteady bound) (hf : ∀ a, (f a).IsSteady bound) :
    (w >>= f).IsSteady bound := fun known c hc => (h known c hc).bind_isSteady hc hf

theorem mono {bound' : Nat} (h : w.IsSteady bound') (hle : bound ≤ bound') : w.IsSteady bound :=
  fun known c hc => h known c (hc.trans hle)

end IsSteady

section Tokens

variable (bound : Nat)

theorem isSteady_bump : bump.IsSteady bound := by
  intro known c hc
  apply Steady.here_bind
  cases hrest : c.rest with
  | nil => exact .pure none _ c
  | cons x xs =>
    have hne : c.rest ≠ [] := by simp [hrest]
    exact (Steady.pass hne _).bind_isSteady hc fun _ => .pure (some x)

theorem steady_passes {run others : List Char} {c : Cursor} (h : c.rest = run ++ others)
    (known : Nat → Prop) : (forM run fun _ => make .pass).Steady known c c.depth := by
  induction run generalizing c with
  | nil => exact .pure _ known c
  | cons x run ih =>
    have hne : c.rest ≠ [] := by simp [h]
    rw [List.forM_cons]
    refine (Steady.pass hne known).bind fun _ d hd hdepth => ?_
    cases hd
    have hnext : c.next.rest = run ++ others := by simp [h]
    exact hdepth ▸ ih hnext

theorem isSteady_skip (p : Char → Bool) : (skip p).IsSteady bound := by
  intro known c hc
  apply Steady.here_bind
  have hrest : c.rest = c.rest.takeWhile p ++ c.rest.dropWhile p :=
    List.takeWhile_append_dropWhile.symm
  exact (steady_passes hrest _).bind_isSteady hc fun _ => .pure _

theorem isSteady_blanks : blanks.IsSteady bound :=
  (isSteady_skip bound Text.isBlank).bind fun _ => .pure ()

theorem isSteady_eat (x : Char) : (eat x).IsSteady bound := by
  refine (isSteady_blanks bound).bind fun _ known c hc => Steady.here_bind ?_
  split
  next hx =>
    have hne : c.rest ≠ [] := fun hnil => by simp [hnil] at hx
    exact (Steady.pass hne _).bind_isSteady hc fun _ => .pure true
  · exact .pure false _ c

theorem isSteady_close (x : Char) (fault : Fault) : (close x fault).IsSteady bound := by
  refine (isSteady_eat bound x).bind fun eaten => ?_
  split
  · exact .pure ()
  · exact .failHere fault

theorem isSteady_identifier : identifier.IsSteady bound := by
  intro known c hc
  apply Steady.here_bind
  split
  · exact (isSteady_skip bound _).bind (fun _ => .pure _) _ c hc
  · exact .failHere _ _ c c.depth

/-- An index is faulted at its first character, which the walk has passed by then. -/
theorem isSteady_integer : integer.IsSteady bound := by
  intro known c hc
  apply Steady.here_bind
  have hsign : ∀ known, (if decide (c.rest.head? = some '-') then make .pass
      else pure () : Walk Unit).Steady known c c.depth := by
    intro known
    split
    next hminus =>
      have hne : c.rest ≠ [] := fun hnil => by simp [hnil] at hminus
      exact .pass hne known
    · exact .pure () known c
  refine (hsign _).bind fun _ d _ hd => ?_
  refine (isSteady_skip bound _ _ d (hd.trans_le hc)).bind fun digits e _ he => ?_
  cases indexValue? (decide (c.rest.head? = some '-')) digits with
  | none =>
    refine .fail (fun position fault hcause => ?_) e c.depth
    cases hcause
    exact .inl rfl
  | some value => exact he.trans hd ▸ .pure value _ e

theorem isSteady_literal (quote : Char) (limit : Nat) (read : List Char) :
    (literal quote limit read).IsSteady bound := by
  induction limit generalizing read with
  | zero => exact .failHere _
  | succ limit ih =>
    refine (isSteady_bump bound).bind fun first => ?_
    cases first with
    | none => exact .failHere _
    | some x =>
      dsimp only
      split_ifs
      · exact .pure _
      · refine (isSteady_bump bound).bind fun second => ?_
        cases second with
        | none => exact .failHere _
        | some y =>
          dsimp only
          cases unescape? y with
          | none => exact .failHere _
          | some z => exact ih (z :: read)
      · exact ih (x :: read)

theorem isSteady_call (name : String) (argument : Expr) : (call name argument).IsSteady bound := by
  unfold call callByName
  split_ifs
  · exact .pure _
  · exact .fail fun _ _ => nofun

end Tokens

section Layers

variable {nested : Walk Expr} {bound : Nat}

theorem isSteady_primary (hnested : nested.IsSteady bound) : (primary nested).IsSteady bound := by
  refine (isSteady_blanks bound).bind fun _ known c hc => Steady.here_bind ?_
  cases hrest : c.rest with
  | nil => exact .failHere _ _ c c.depth
  | cons x xs =>
    have hne : c.rest ≠ [] := by simp [hrest]
    dsimp only
    split_ifs
    · exact (Steady.pass hne _).bind_isSteady hc fun _ =>
        (isSteady_literal bound x xs.length []).bind fun _ => .pure _
    · exact (Steady.pass hne _).bind_isSteady hc fun _ =>
        hnested.bind fun inner => (isSteady_close bound _ _).bind fun _ => .pure inner
    · refine (isSteady_identifier bound).bind (fun name => ?_) _ c hc
      refine (isSteady_eat bound _).bind fun eaten => ?_
      split
      · exact hnested.bind fun argument =>
          (isSteady_close bound _ _).bind fun _ => isSteady_call bound name argument
      · exact .pure _
    · exact .failHere _ _ c c.depth

theorem isSteady_indices (limit : Nat) (e : Expr) : (indices limit e).IsSteady bound := by
  induction limit generalizing e with
  | zero => exact .pure e
  | succ limit ih =>
    refine (isSteady_eat bound _).bind fun eaten => ?_
    split
    · exact (isSteady_blanks bound).bind fun _ => (isSteady_integer bound).bind fun position =>
        (isSteady_close bound _ _).bind fun _ => ih _
    · exact .pure e

theorem isSteady_term (hnested : nested.IsSteady bound) : (term nested).IsSteady bound :=
  IsSteady.here.bind fun _ => (isSteady_primary hnested).bind fun e => isSteady_indices _ e

theorem isSteady_summands (hnested : nested.IsSteady bound) (limit : Nat) (e : Expr) :
    (summands nested limit e).IsSteady bound := by
  induction limit generalizing e with
  | zero => exact .pure e
  | succ limit ih =>
    refine (isSteady_eat bound _).bind fun eaten => ?_
    split
    · exact (isSteady_term hnested).bind fun summand => ih _
    · exact .pure e

theorem isSteady_sum (hnested : nested.IsSteady bound) : (sum nested).IsSteady bound :=
  IsSteady.here.bind fun _ => (isSteady_term hnested).bind fun e => isSteady_summands hnested _ e

theorem isSteady_filters (limit : Nat) (e : Expr) : (filters limit e).IsSteady bound := by
  induction limit generalizing e with
  | zero => exact .pure e
  | succ limit ih =>
    refine (isSteady_eat bound _).bind fun eaten => ?_
    split
    · exact (isSteady_blanks bound).bind fun _ => (isSteady_identifier bound).bind fun name =>
        (isSteady_call bound name e).bind fun e => ih e
    · exact .pure e

end Layers

theorem isSteady_inside {w : Walk α} (h : w.IsSteady maxNesting) :
    (inside w).IsSteady maxNesting := by
  intro known c hc
  have henter : c.Allows .enter := hc
  refine (Steady.make henter known).bind fun _ d _ hd => Steady.here_bind ?_
  have hdeeper : d.depth = c.depth + 1 := hd
  split
  · exact .fail (fun _ _ => nofun) d c.depth
  next hdepth =>
    refine (h _ d (Nat.le_of_not_lt hdepth)).bind fun a e _ he => ?_
    have hleave : e.Allows .leave := by
      rw [Cursor.Allows]
      omega
    refine (Steady.make hleave _).bind fun _ f _ hf => ?_
    have hback : c.depth = f.depth := by
      have hshallower : f.depth = e.depth - 1 := hf
      omega
    rw [hback]
    exact .pure a _ f

theorem isSteady_filtered (limit : Nat) : (filtered limit).IsSteady maxNesting := by
  induction limit with
  | zero => exact isSteady_inside (.failHere _)
  | succ limit ih =>
    exact isSteady_inside <| IsSteady.here.bind fun _ =>
      (isSteady_sum ih).bind fun e => isSteady_filters _ e

theorem isSteady_placeholder : placeholder.IsSteady maxNesting :=
  IsSteady.here.bind fun _ => (isSteady_filtered _).bind fun e =>
    (isSteady_close maxNesting _ _).bind fun _ => .pure e

/-- Every turn of the loop begins outside all expressions. -/
theorem isSteady_segments (marker : Char) (limit : Nat) (read : List Char) :
    (segments marker limit read).IsSteady 0 := by
  have hturn : (make .turn).IsSteady 0 := fun known c hc => by
    have hallows : c.Allows .turn := Nat.le_zero.1 hc
    exact .make hallows known
  induction limit generalizing read with
  | zero => exact hturn.bind fun _ => .pure _
  | succ limit ih =>
    refine hturn.bind fun _ => (isSteady_bump 0).bind fun first => ?_
    cases first with
    | none => exact .pure _
    | some x =>
      dsimp only
      split_ifs
      · exact ih (x :: read)
      intro known c hc
      apply Steady.here_bind
      split_ifs with hdoubled hbrace
      · have hne : c.rest ≠ [] := fun hnil => by simp [hnil] at hdoubled
        exact (Steady.pass hne _).bind_isSteady hc fun _ => ih (marker :: read)
      · have hne : c.rest ≠ [] := fun hnil => by simp [hnil] at hbrace
        exact (Steady.pass hne _).bind_isSteady hc fun _ =>
          (isSteady_placeholder.mono (Nat.zero_le _)).bind fun e => (ih []).bind fun _ => .pure _
      · exact ih (x :: read) _ c hc

theorem isSteady_template (source : String) (marker : Char) :
    (template source marker).IsSteady 0 := by
  unfold template
  split
  · exact .fail fun _ _ => nofun
  · exact (isSteady_segments marker _ []).bind fun segments => .pure _

end Walk

/-- A walk goes as far as its reader, or further over blanks. -/
theorem Advances.of_agrees {read : Cursor → Except Error (α × Cursor)} {w : Walk α}
    (h : Advances read) (hagrees : ∀ c, Agrees (read c) (w.outcome c)) : Advances w.outcome := by
  have hread : ∀ {c a d}, w.outcome c = .ok (a, d) →
      ∃ c', read c = .ok (a, c') ∧ c'.BlanksTo d := by
    intro c a d hw
    have hc := hagrees c
    rw [hw] at hc
    generalize read c = x at hc
    cases hc with
    | ok _ hblanks => exact ⟨_, rfl, hblanks⟩
  constructor
  · intro c a d hw
    obtain ⟨c', hc', hblanks⟩ := hread hw
    exact (h.position_lt hc').trans_le hblanks.position_le
  · intro c a d hw
    obtain ⟨c', hc', hblanks⟩ := hread hw
    exact hblanks.depth_eq.trans (h.depth_eq hc')

section Layers

variable (limit : Nat)

theorem advances_filtered : Advances (Walk.filtered limit).outcome :=
  (readFiltered_sound limit).advances.of_agrees (agrees_filtered limit)

theorem advances_primary : Advances (Walk.primary (Walk.filtered limit)).outcome :=
  (readPrimary_sound (readFiltered_sound limit)).advances.of_agrees
    (agrees_primary (agrees_filtered limit))

theorem advances_term : Advances (Walk.term (Walk.filtered limit)).outcome :=
  (readTerm_sound (readFiltered_sound limit)).advances.of_agrees
    (agrees_term (readFiltered_sound limit) (agrees_filtered limit))

theorem advances_sum : Advances (Walk.sum (Walk.filtered limit)).outcome :=
  (readSum_sound (readFiltered_sound limit)).advances.of_agrees
    (agrees_sum (readFiltered_sound limit) (agrees_filtered limit))

end Layers

/-- A template is read by allowed moves, up to the end of its source if it compiles, and what is
malformed in it is so at a place on the way. -/
theorem Walk.template_path (source : String) (marker : Char) :
    let walk := template source marker
    let start := Cursor.start source
    ∃ c, start.Path (walk.moves start) c ∧
      (∀ t, walk.result start = .ok t → c.rest = [] ∧ c.depth = 0) ∧
      ∀ position fault, walk.result start = .error (.malformed position fault) →
        ∃ d ∈ start.places (walk.moves start), d.position = position := by
  intro walk start
  have hsteady := isSteady_template source marker (fun _ => False) start le_rfl
  unfold Steady at hsteady
  unfold result
  cases houtcome : walk.outcome start with
  | ok read =>
    obtain ⟨t, d⟩ := read
    rw [houtcome] at hsteady
    cases hsteady with
    | ok _ path depth_eq =>
      have hrest : d.rest = [] := rest_of_outcome_template houtcome
      exact ⟨d, path, fun _ _ => ⟨hrest, depth_eq⟩, fun _ _ => nofun⟩
  | error cause =>
    rw [houtcome] at hsteady
    cases hsteady with
    | error path visited =>
      refine ⟨_, path, fun _ => nofun, fun position fault h => ?_⟩
      cases h
      exact (visited position fault rfl).resolve_left id

/-- **Reading stays in the source.** Compiled move by move, a template is what it is compiled to at
one go. Each move is allowed, so no expression is left that was not entered, and each turn of the
loop over the segments begins outside all expressions. A template that compiles is passed to its
end. Each place on the way stands between two characters of the source, which can be cut there and
between any two places on the way, and it is inside at most one expression too many. What is
reported as malformed is at one of these places. A reader that succeeds is further on and as deep as
it was, so every loop and all nesting ends because the source does, and not because of a limit. -/
theorem reading_stays_in_source (source : String) (marker : Char) :
    let walk := Walk.template source marker
    let start := Cursor.start source
    let places := start.places (walk.moves start)
    walk.result start = Template.compile source marker ∧
      (∃ c, start.Path (walk.moves start) c ∧
        ∀ t, Template.compile source marker = .ok t → c.rest = [] ∧ c.depth = 0) ∧
      (∀ before after, walk.moves start = before ++ .turn :: after →
        ∃ c, start.Path before c ∧ c.depth = 0) ∧
      (∀ c ∈ places, c.StandsIn source ∧
        Text.dropBytes? c.position source.toList = some c.rest) ∧
      (places.Pairwise fun c d => ∃ part, c.rest = part ++ d.rest ∧
        Text.slice? c.position d.position source.toList = some part) ∧
      (∀ position fault, Template.compile source marker = .error (.malformed position fault) →
        ∃ c ∈ places, c.position = position) ∧
      Advances Walk.identifier.outcome ∧
      (∀ limit, Advances (Walk.filtered limit).outcome ∧
        Advances (Walk.sum (Walk.filtered limit)).outcome ∧
        Advances (Walk.term (Walk.filtered limit)).outcome ∧
        Advances (Walk.primary (Walk.filtered limit)).outcome) ∧
      EndsByItself readFiltered ∧
      (∀ e, EndsByItself fun limit => readIndices limit e) ∧
      (∀ nesting e, EndsByItself fun limit => readSummands (readFiltered nesting) limit e) ∧
      (∀ e, EndsByItself fun limit => readFilters limit e) ∧
      ∀ text, EndsByItself fun limit => readSegments marker limit text := by
  intro walk start places
  have hresult : walk.result start = Template.compile source marker :=
    Walk.result_template source marker
  obtain ⟨c, hpath, hend, hfault⟩ := Walk.template_path source marker
  have hplaces : ∀ c ∈ places, c.StandsIn source :=
    hpath.forall_mem_places Cursor.StandsIn.after (.start source)
  have hpairs : places.Pairwise fun c d => ∃ part, c.rest = part ++ d.rest ∧
      Text.slice? c.position d.position source.toList = some part :=
    (start.pairwise_places _).imp_of_mem fun hc hd hfurther =>
      (hplaces _ hc).slice? (hplaces _ hd) hfurther
  have hturns : ∀ before after, walk.moves start = before ++ .turn :: after →
      ∃ c, start.Path before c ∧ c.depth = 0 := fun before after hmoves =>
    Cursor.Path.exists_allows (hmoves ▸ hpath)
  refine ⟨hresult, ⟨c, hpath, fun t h => hend t (hresult.trans h)⟩, hturns,
    fun c hc => ⟨hplaces c hc, (hplaces c hc).dropBytes?⟩, hpairs,
    fun position fault h => hfault position fault (hresult.trans h),
    advances_readIdentifier.of_agrees fun c => .of_eq (Walk.outcome_identifier c).symm,
    fun limit => ⟨advances_filtered limit, advances_sum limit, advances_term limit,
      advances_primary limit⟩, ?_, ?_, ?_, ?_, ?_⟩
  · exact fun limit c h => readFiltered_limit h le_rfl
  · exact fun e limit c h => readIndices_limit h le_rfl e
  · exact fun nesting e limit c h => readSummands_limit (readFiltered_sound nesting) h le_rfl e
  · exact fun e limit c h => readFilters_limit h le_rfl e
  · exact fun text limit c h => readSegments_limit h le_rfl text

/-- The blank before the closing brace is passed inside the expression, in search of an index. -/
example : (Walk.template "$\x7ba \x7d" '$').moves (.start "$\x7ba \x7d") =
    [.turn, .pass, .pass, .enter, .pass, .pass, .leave, .pass, .turn] := by decide

end AttributeProfiles.Template
