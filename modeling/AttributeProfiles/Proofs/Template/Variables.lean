import AttributeProfiles.Proofs.Loops
import AttributeProfiles.Proofs.Template.RenderedOutput

/-!
# The variables of a template

A template reads a record only at the variables that its placeholders mention. On records that agree
there it renders alike, failures included. It does read them all: without one of them it fails.
-/

namespace AttributeProfiles

namespace Template

def Expr.variableNames : Expr → List String
  | .variable name => [name]
  | .literal _ => []
  | .index list _ => list.variableNames
  | .concat left right => left.variableNames ++ right.variableNames
  | .call _ argument => argument.variableNames

def Segment.variableNames : Segment → List String
  | .text _ => []
  | .placeholder e => e.variableNames

def variableNames (t : Template) : List String := t.segments.flatMap Segment.variableNames

variable {r s : Record}

theorem Expr.eval_congr {e : Expr} (h : ∀ name ∈ e.variableNames, r.get? name = s.get? name) :
    e.eval r = e.eval s := by
  induction e with
  | «variable» name =>
    have hname := h name (List.mem_singleton_self name)
    rw [Expr.eval, Expr.eval, hname]
  | literal text => rfl
  | index list position ih => rw [Expr.eval, Expr.eval, ih h]
  | concat left right ihl ihr =>
    have hleft := ihl fun name hn => h name (List.mem_append_left _ hn)
    have hright := ihr fun name hn => h name (List.mem_append_right _ hn)
    rw [Expr.eval, Expr.eval, hleft, hright]
  | call function argument ih => rw [Expr.eval, Expr.eval, ih h]

theorem Segment.render_congr {g : Segment} (separator : Char)
    (h : ∀ name ∈ g.variableNames, r.get? name = s.get? name) :
    g.render r separator = g.render s separator := by
  cases g with
  | text content => rfl
  | placeholder e => rw [Segment.render, Segment.render, Expr.eval_congr h]

theorem render_congr {t : Template} (separator : Char)
    (h : ∀ name ∈ t.variableNames, r.get? name = s.get? name) :
    t.render r separator = t.render s separator := by
  apply Loops.foldlM_congr
  intro g hg output
  have hrender : g.render r separator = g.render s separator :=
    Segment.render_congr separator fun name hname => h name (List.mem_flatMap.2 ⟨g, hg, hname⟩)
  rw [extend, extend, hrender]

theorem renderValues_congr {t : Template} (separator : Char)
    (h : ∀ name ∈ t.variableNames, r.get? name = s.get? name) :
    t.renderValues r separator = t.renderValues s separator := by
  rw [renderValues, renderValues, render_congr separator h]

/-- Every variable of an expression is looked up, so a value takes all of them. -/
theorem Expr.isSome_of_eval {e : Expr} {v : Value} (h : e.eval r = .ok v) :
    ∀ name ∈ e.variableNames, (r.get? name).isSome := by
  induction e generalizing v with
  | «variable» other =>
    intro name hname
    rw [Expr.eval] at h
    split at h
    next values hvalues =>
      rw [List.mem_singleton.1 hname, hvalues]
      rfl
    · cases h
  | literal text => simp [variableNames]
  | index list position ih =>
    obtain ⟨items, hitems, -⟩ := Outcome.bind_eq_ok_iff.1 h
    exact ih hitems
  | concat left right ihleft ihright =>
    obtain ⟨a, ha, h⟩ := Outcome.bind_eq_ok_iff.1 h
    obtain ⟨b, hb, -⟩ := Outcome.bind_eq_ok_iff.1 h
    intro name hname
    rcases List.mem_append.1 hname with hname | hname
    · exact ihleft ha name hname
    · exact ihright hb name hname
  | call function argument ih =>
    obtain ⟨value, hvalue, -⟩ := Outcome.bind_eq_ok_iff.1 h
    exact ih hvalue

theorem isSome_of_render {t : Template} {separator : Char} {output : String}
    (h : t.render r separator = .ok output) : ∀ name ∈ t.variableNames, (r.get? name).isSome := by
  intro name hname
  obtain ⟨g, hg, hname⟩ := List.mem_flatMap.1 hname
  cases g with
  | text content => cases hname
  | placeholder e =>
    obtain ⟨v, hv⟩ := exists_eval_of_render h hg
    exact Expr.isSome_of_eval hv name hname

/-- What a template renders to is settled by the variables that it mentions: on two records that
agree on them it gives the same output or fails with the same error, and so do its values. It needs
all of them: where one is absent, the template fails. -/
theorem rendering_reads_variables (t : Template) (separator : Char) (r s : Record) :
    ((∀ name ∈ t.variableNames, r.get? name = s.get? name) →
      t.render r separator = t.render s separator ∧
        t.renderValues r separator = t.renderValues s separator) ∧
    (∀ name ∈ t.variableNames, r.get? name = none →
      ∃ cause, t.render r separator = .error cause ∧
        t.renderValues r separator = .error cause) := by
  refine ⟨fun h => ⟨render_congr separator h, renderValues_congr separator h⟩, ?_⟩
  intro name hname habsent
  cases hrender : t.render r separator with
  | error cause =>
    rw [renderValues, hrender]
    exact ⟨cause, rfl, rfl⟩
  | ok output =>
    have hbound := isSome_of_render hrender name hname
    rw [habsent] at hbound
    cases hbound

def greeting : Template := ⟨"Hi $\x7bname\x7d from $\x7bmail[0] | scope\x7d",
  [.text "Hi ", .placeholder (.variable "name"), .text " from ",
    .placeholder (.call "scope" (.index (.variable "mail") 0))]⟩

def guest : Record := (Record.empty.insert "name" ["Ann", "B."]).insert "mail" ["ann@example.org"]

def localGuest : Record := guest.insert "mail" ["ann"]

theorem rendering_reads_variables_greeting :
    Template.compile greeting.source '$' = .ok greeting ∧
      greeting.variableNames = ["name", "mail"] ∧
      greeting.render (guest.insert "phone" ["555"]) ';' = .ok "Hi Ann;B. from example.org" ∧
      greeting.renderValues (guest.insert "phone" ["555"]) ';' =
        .ok ["Hi Ann", "B. from example.org"] ∧
      greeting.render (localGuest.insert "phone" ["555"]) ';' = .error (.unscoped "ann") ∧
      ∃ cause, greeting.render (Record.empty.insert "name" ["Ann"]) ';' = .error cause := by
  have hguest : ∀ name ∈ greeting.variableNames,
      (guest.insert "phone" ["555"]).get? name = guest.get? name := by
    decide
  have hlocal : ∀ name ∈ greeting.variableNames,
      (localGuest.insert "phone" ["555"]).get? name = localGuest.get? name := by
    decide
  obtain ⟨hrender, hvalues⟩ := (rendering_reads_variables greeting ';' _ guest).1 hguest
  obtain ⟨herror, -⟩ := (rendering_reads_variables greeting ';' _ localGuest).1 hlocal
  obtain ⟨cause, hfails, -⟩ :=
    (rendering_reads_variables greeting ';' (Record.empty.insert "name" ["Ann"]) guest).2 "mail"
      (by decide) (by decide)
  refine ⟨by decide, by decide, ?_, ?_, ?_, cause, hfails⟩
  · rw [hrender]
    decide
  · rw [hvalues]
    decide
  · rw [herror]
    decide

end Template

end AttributeProfiles
