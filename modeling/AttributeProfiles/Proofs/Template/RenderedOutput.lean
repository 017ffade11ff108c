import AttributeProfiles.Proofs.Outcomes
import AttributeProfiles.Proofs.Pieces
import AttributeProfiles.Template.Rendering

/-!
# What a template renders to

A template renders to its pieces, one after another. The limit on output is tested after each piece,
but output only grows, so within the limit at the end is within it all the way. Where a template
fails, there can be two causes: a placeholder without a value, and too much output. The one that the
reader of the template meets first is reported.
-/

namespace AttributeProfiles.Template

variable {r : Record} {separator : Char}

/-- The piece that a segment contributes: its own text, or the value of its placeholder. A list
gives its items with the separator between them. -/
inductive Segment.Gives (r : Record) (separator : Char) : Segment → String → Prop
  | text (content : String) : Gives r separator (.text content) content
  | textValue {e : Expr} {content : String} (h : e.eval r = .ok (.text content)) :
    Gives r separator (.placeholder e) content
  | listValue {e : Expr} {items : List String} (h : e.eval r = .ok (.list items)) :
    Gives r separator (.placeholder e) (Text.join separator items)

/-- Every placeholder has a value, and the pieces together are this output, within the limit. -/
def Yields (t : Template) (r : Record) (separator : Char) (output : String) : Prop :=
  ∃ pieces, List.Forall₂ (Segment.Gives r separator) t.segments pieces ∧
    String.join pieces = output ∧ output.utf8ByteSize ≤ maxRenderedBytes

/-- A placeholder has no value for this cause, all before it have values, and the pieces before it
are within the limit together. -/
def Breaks (t : Template) (r : Record) (separator : Char) (cause : Error) : Prop :=
  ∃ before e after pieces, t.segments = before ++ .placeholder e :: after ∧
    List.Forall₂ (Segment.Gives r separator) before pieces ∧
    (String.join pieces).utf8ByteSize ≤ maxRenderedBytes ∧ e.eval r = .error cause

theorem Segment.gives_iff {g : Segment} {piece : String} :
    g.Gives r separator piece ↔ g.render r separator = .ok piece := by
  cases g with
  | text content =>
    rw [Segment.render, Except.ok.injEq]
    constructor
    · rintro ⟨⟩
      rfl
    · rintro rfl
      exact .text content
  | placeholder e =>
    rw [Segment.render, Outcome.bind_eq_ok_iff]
    constructor
    · rintro (_ | h | h)
      · exact ⟨_, h, rfl⟩
      · exact ⟨_, h, rfl⟩
    · rintro ⟨v, h, hpiece⟩
      cases hpiece
      cases v with
      | text content => exact .textValue h
      | list items => exact .listValue h

theorem Segment.Gives.unique {g : Segment} {piece other : String}
    (h : g.Gives r separator piece) (hother : g.Gives r separator other) : piece = other :=
  Except.ok.inj ((gives_iff.1 h).symm.trans (gives_iff.1 hother))

theorem Segment.render_eq_error_iff {g : Segment} {cause : Error} :
    g.render r separator = .error cause ↔
      ∃ e, g = .placeholder e ∧ e.eval r = .error cause := by
  cases g with
  | text content => simp [Segment.render]
  | placeholder e =>
    rw [Segment.render, Outcome.bind_eq_error_iff]
    simp

theorem extend_eq_ok_iff {output extended : String} {g : Segment} :
    extend r separator output g = .ok extended ↔
      ∃ text, g.render r separator = .ok text ∧ output ++ text = extended ∧
        extended.utf8ByteSize ≤ maxRenderedBytes := by
  rw [extend, Outcome.bind_eq_ok_iff]
  refine exists_congr fun text => and_congr_right fun _ => ?_
  dsimp only
  split
  next hlong =>
    constructor
    · intro h
      cases h
    · rintro ⟨rfl, hshort⟩
      exact absurd hlong (Nat.not_lt.2 hshort)
  next hshort =>
    rw [Except.ok.injEq]
    constructor
    · rintro rfl
      exact ⟨rfl, Nat.not_lt.1 hshort⟩
    · exact And.left

theorem extend_eq_error_iff {output : String} {g : Segment} {cause : Error} :
    extend r separator output g = .error cause ↔
      g.render r separator = .error cause ∨
        ∃ text, g.render r separator = .ok text ∧ cause = .tooComplex .output ∧
          maxRenderedBytes < (output ++ text).utf8ByteSize := by
  rw [extend, Outcome.bind_eq_error_iff]
  refine or_congr_right (exists_congr fun text => and_congr_right fun _ => ?_)
  dsimp only
  split
  next hlong =>
    rw [Except.error.injEq, eq_comm]
    exact (and_iff_left hlong).symm
  next hshort =>
    constructor
    · intro h
      cases h
    · intro h
      exact absurd h.2 hshort

/-- From an output within the limit on, segments extend it by their pieces if all of them have one
and the result is within the limit. -/
theorem foldlM_extend_eq_ok_iff {segments : List Segment} {output extended : String}
    (houtput : output.utf8ByteSize ≤ maxRenderedBytes) :
    segments.foldlM (extend r separator) output = .ok extended ↔
      ∃ pieces, List.Forall₂ (Segment.Gives r separator) segments pieces ∧
        output ++ String.join pieces = extended ∧ extended.utf8ByteSize ≤ maxRenderedBytes := by
  induction segments generalizing output with
  | nil =>
    constructor
    · intro h
      cases h
      exact ⟨[], .nil, by simp, houtput⟩
    · rintro ⟨pieces, hpieces, rfl, -⟩
      cases hpieces
      simp [pure, Except.pure]
  | cons g segments ih =>
    rw [List.foldlM_cons, Outcome.bind_eq_ok_iff]
    constructor
    · rintro ⟨next, hstep, hrest⟩
      obtain ⟨piece, hpiece, rfl, hnext⟩ := extend_eq_ok_iff.1 hstep
      obtain ⟨pieces, hpieces, rfl, hsize⟩ := (ih hnext).1 hrest
      refine ⟨piece :: pieces, .cons (Segment.gives_iff.2 hpiece) hpieces, ?_, hsize⟩
      rw [String.join_cons, String.append_assoc]
    · rintro ⟨_, hpieces, rfl, hsize⟩
      obtain ⟨piece, pieces, hpiece, hothers, rfl⟩ := List.forall₂_cons_left_iff.1 hpieces
      have hjoin : output ++ piece ++ String.join pieces =
          output ++ String.join (piece :: pieces) := by
        rw [String.join_cons, String.append_assoc]
      have hnext : (output ++ piece).utf8ByteSize ≤ maxRenderedBytes := by
        rw [← hjoin, String.utf8ByteSize_append] at hsize
        omega
      have hstep : extend r separator output g = .ok (output ++ piece) :=
        extend_eq_ok_iff.2 ⟨piece, Segment.gives_iff.1 hpiece, rfl, hnext⟩
      exact ⟨output ++ piece, hstep, (ih hnext).2 ⟨pieces, hothers, hjoin, hsize⟩⟩

theorem render_eq_ok_iff {t : Template} {output : String} :
    t.render r separator = .ok output ↔ t.Yields r separator output := by
  rw [render, foldlM_extend_eq_ok_iff (Nat.zero_le _)]
  simp only [String.empty_append]
  rfl

theorem utf8ByteSize_render_le {t : Template} {output : String}
    (h : t.render r separator = .ok output) : output.utf8ByteSize ≤ maxRenderedBytes := by
  obtain ⟨pieces, -, -, hsize⟩ := render_eq_ok_iff.1 h
  exact hsize

theorem render_of_gives {t : Template} {g : Segment} {piece : String} (hsegments : t.segments = [g])
    (hpiece : g.Gives r separator piece) (hsize : piece.utf8ByteSize ≤ maxRenderedBytes) :
    t.render r separator = .ok piece := by
  have hpieces : List.Forall₂ (Segment.Gives r separator) t.segments [piece] := by
    rw [hsegments]
    exact .cons hpiece .nil
  apply render_eq_ok_iff.2
  exact ⟨[piece], hpieces, by simp, hsize⟩

theorem Expr.eval_variable {name : String} {values : List String}
    (h : r.get? name = some values) : (Expr.variable name).eval r = .ok (.list values) := by
  rw [Expr.eval, h]

theorem Breaks.render_eq_error {t : Template} {cause : Error} (h : t.Breaks r separator cause) :
    t.render r separator = .error cause := by
  obtain ⟨before, e, after, pieces, hsegments, hpieces, hsize, heval⟩ := h
  have hbefore : before.foldlM (extend r separator) "" = .ok (String.join pieces) := by
    apply (foldlM_extend_eq_ok_iff (Nat.zero_le _)).2
    exact ⟨pieces, hpieces, String.empty_append, hsize⟩
  have hstep : extend r separator (String.join pieces) (.placeholder e) = .error cause :=
    extend_eq_error_iff.2 (.inl (Segment.render_eq_error_iff.2 ⟨e, rfl, heval⟩))
  apply Outcome.foldlM_eq_error_iff.2
  exact ⟨before, .placeholder e, after, String.join pieces, hsegments, hbefore, hstep⟩

/-- There is no other error than that of a placeholder and that of too much output. -/
theorem breaks_or_of_render_eq_error {t : Template} {cause : Error}
    (h : t.render r separator = .error cause) :
    t.Breaks r separator cause ∨ cause = .tooComplex .output := by
  obtain ⟨before, g, after, output, hsegments, hbefore, hstep⟩ := Outcome.foldlM_eq_error_iff.1 h
  rcases extend_eq_error_iff.1 hstep with hrender | ⟨_, _, hcause, _⟩
  · left
    obtain ⟨e, rfl, heval⟩ := Segment.render_eq_error_iff.1 hrender
    obtain ⟨pieces, hpieces, rfl, hsize⟩ := (foldlM_extend_eq_ok_iff (Nat.zero_le _)).1 hbefore
    rw [String.empty_append] at hsize
    exact ⟨before, e, after, pieces, hsegments, hpieces, hsize, heval⟩
  · exact .inr hcause

theorem exists_eval_of_render {t : Template} {output : String}
    (h : t.render r separator = .ok output) {e : Expr}
    (he : Segment.placeholder e ∈ t.segments) : ∃ v, e.eval r = .ok v := by
  obtain ⟨pieces, hpieces, -, -⟩ := render_eq_ok_iff.1 h
  obtain ⟨piece, hpiece⟩ := Outcome.exists_forall₂_iff.1 ⟨pieces, hpieces⟩ _ he
  cases hpiece with
  | textValue heval => exact ⟨_, heval⟩
  | listValue heval => exact ⟨_, heval⟩

theorem exists_eval_error_of_render {t : Template} {cause : Error}
    (h : t.render r separator = .error cause) (hcause : cause ≠ .tooComplex .output) :
    ∃ e, Segment.placeholder e ∈ t.segments ∧ e.eval r = .error cause := by
  obtain ⟨before, e, after, -, hsegments, -, -, heval⟩ :=
    (breaks_or_of_render_eq_error h).resolve_right hcause
  refine ⟨e, ?_, heval⟩
  rw [hsegments]
  exact List.mem_append_right before List.mem_cons_self

theorem renderValues_eq_error_iff {t : Template} {cause : Error} :
    t.renderValues r separator = .error cause ↔ t.render r separator = .error cause := by
  rw [renderValues]
  cases t.render r separator with
  | ok output => simp [Except.map]
  | error other => simp [Except.map]

/-- How rendering ends. It gives the pieces of a template as one text if all placeholders have
values and the text is within the limit. Otherwise it fails: with the cause for which the first
placeholder without a value has none, if what comes before it is within the limit, and because of
too much output in every other case. -/
theorem render_outcome (t : Template) (r : Record) (separator : Char) :
    (∀ output, t.render r separator = .ok output ↔ t.Yields r separator output) ∧
    ∀ cause, t.render r separator = .error cause ↔
      t.Breaks r separator cause ∨
        cause = .tooComplex .output ∧ (∀ output, ¬ t.Yields r separator output) ∧
          ∀ other, ¬ t.Breaks r separator other := by
  refine ⟨fun output => render_eq_ok_iff, ?_⟩
  intro cause
  constructor
  · intro h
    by_cases hbreaks : t.Breaks r separator cause
    · exact .inl hbreaks
    · right
      refine ⟨(breaks_or_of_render_eq_error h).resolve_left hbreaks, ?_, ?_⟩
      · intro output hyields
        rw [render_eq_ok_iff.2 hyields] at h
        cases h
      · intro other hother
        rw [hother.render_eq_error] at h
        cases h
        exact hbreaks hother
  · rintro (hbreaks | ⟨rfl, hyields, hbreaks⟩)
    · exact hbreaks.render_eq_error
    · cases hrender : t.render r separator with
      | ok output => exact absurd (render_eq_ok_iff.1 hrender) (hyields output)
      | error cause =>
        have hcause := (breaks_or_of_render_eq_error hrender).resolve_left (hbreaks cause)
        rw [hcause]

/-- A text and a list with something between them. -/
def heading : Template := ⟨"$\x7buid[0]\x7d: $\x7bmail\x7d",
  [.placeholder (.index (.variable "uid") 0), .text ": ", .placeholder (.variable "mail")]⟩

/-- A record that gives a heading its text. -/
def headed (uid : String) : Record := Record.empty.insert "uid" [uid]

/-- One byte more than the output may have. -/
def tooLong : String := String.ofList (List.replicate (maxRenderedBytes + 1) 'a')

theorem lt_utf8ByteSize_tooLong : maxRenderedBytes < tooLong.utf8ByteSize := by
  have hletter : 'a'.utf8Size = 1 := rfl
  rw [tooLong, Text.utf8ByteSize_ofList, Text.byteLength_replicate, hletter]
  omega

/-- Where the list is absent, its absence is reported, unless the text alone is too long. -/
theorem render_outcome_heading :
    Template.compile heading.source '$' = .ok heading ∧
      heading.render ((headed "ann").insert "mail" ["ann@a", "ann@b"]) ';' =
        .ok "ann: ann@a;ann@b" ∧
      heading.render (headed "ann") ';' = .error (.undefinedVariable "mail") ∧
      heading.render (headed tooLong) ';' = .error (.tooComplex .output) := by
  have htext (uid : String) : (Expr.index (.variable "uid") 0).eval (headed uid) =
      .ok (.text uid) := rfl
  have habsent (uid : String) : (Expr.variable "mail").eval (headed uid) =
      .error (.undefinedVariable "mail") := rfl
  refine ⟨by decide, ?_, ?_, ?_⟩
  · have hlist : Segment.Gives ((headed "ann").insert "mail" ["ann@a", "ann@b"]) ';'
        (.placeholder (.variable "mail")) (Text.join ';' ["ann@a", "ann@b"]) := .listValue rfl
    apply ((render_outcome _ _ _).1 _).2
    exact ⟨["ann", _, _], .cons (.textValue rfl) (.cons (.text _) (.cons hlist .nil)), by decide,
      by decide⟩
  · apply ((render_outcome _ _ _).2 _).2
    exact .inl ⟨[_, _], _, [], ["ann", ": "], rfl,
      .cons (.textValue (htext "ann")) (.cons (.text _) .nil), by decide, habsent "ann"⟩
  · apply ((render_outcome _ _ _).2 _).2
    refine .inr ⟨rfl, ?_, ?_⟩
    · rintro output ⟨pieces, hpieces, -, -⟩
      obtain ⟨piece, hpiece⟩ := Outcome.exists_forall₂_iff.1 ⟨pieces, hpieces⟩
        (.placeholder (.variable "mail")) (by decide)
      rcases hpiece with _ | h | h
      · rw [habsent] at h
        cases h
      · rw [habsent] at h
        cases h
    · rintro other ⟨before, e, after, pieces, hsegments, hpieces, hsize, heval⟩
      cases before with
      | nil =>
        cases hsegments
        rw [htext] at heval
        cases heval
      | cons g before =>
        -- The text is among the pieces before the failure, which is too much already.
        obtain ⟨rfl, -⟩ := List.cons.inj hsegments
        obtain ⟨piece, others, hpiece, -, rfl⟩ := List.forall₂_cons_left_iff.1 hpieces
        rw [hpiece.unique (.textValue (htext tooLong)), String.join_cons,
          String.utf8ByteSize_append] at hsize
        have hlong := lt_utf8ByteSize_tooLong
        omega

end AttributeProfiles.Template
