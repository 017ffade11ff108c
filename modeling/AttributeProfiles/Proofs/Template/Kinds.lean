import AttributeProfiles.Proofs.Template.Operations
import AttributeProfiles.Proofs.Template.RenderedOutput

/-!
# The kinds of expressions

An expression gives a text or a list, and which of the two can be told without a record: variables
are lists, literals are texts, and every operation fixes the kinds of its operands and of its result.
An expression with a kind never meets operands that do not go together, whatever the record is, and
an expression without one has no value on any record. So a mismatch lies in the template.
-/

namespace AttributeProfiles.Template

/-- The expressions whose operations go with their operands, with the kind of what they give. -/
inductive Expr.HasKind : Expr → Kind → Prop
  | variable (name : String) : HasKind (.variable name) .list
  | literal (text : String) : HasKind (.literal text) .text
  | index {list : Expr} (position : Int) :
    HasKind list .list → HasKind (.index list position) .text
  | concat {left right : Expr} {kind : Kind} :
    HasKind left kind → HasKind right kind → HasKind (.concat left right) kind
  | call {function : String} {argument : Expr} :
    function ∈ builtins → HasKind argument .text → HasKind (.call function argument) .text

theorem Expr.HasKind.unique {e : Expr} {k l : Kind} (hk : e.HasKind k) (hl : e.HasKind l) :
    k = l := by
  induction hk with
  | «variable» name =>
    cases hl
    rfl
  | literal text =>
    cases hl
    rfl
  | index position _ _ =>
    cases hl
    rfl
  | concat _ _ ihleft _ =>
    cases hl with
    | concat hleft _ => exact ihleft hleft
  | call _ _ _ =>
    cases hl
    rfl

section

variable {u v w : Value}

theorem Value.kind_of_at {position : Int} (h : v.at position = .ok w) :
    v.kind = .list ∧ w.kind = .text := by
  cases v with
  | text content => cases h
  | list items =>
    rw [Value.at] at h
    split at h
    · cases h
      exact ⟨rfl, rfl⟩
    · cases h

theorem Value.kind_of_append (h : u.append v = .ok w) : u.kind = w.kind ∧ v.kind = w.kind := by
  cases u <;> cases v <;> cases h <;> exact ⟨rfl, rfl⟩

theorem Value.kind_of_call {function : String} (h : v.call function = .ok w) :
    function ∈ builtins ∧ v.kind = .text ∧ w.kind = .text := by
  have hfunction : function ∈ builtins := by
    by_contra hunknown
    rw [Value.call_of_notMem hunknown] at h
    cases h
  refine ⟨hfunction, ?_⟩
  obtain rfl := mem_builtins.1 hfunction
  cases v with
  | list items => cases h
  | text value =>
    rw [Value.call] at h
    cases hscope : scope value with
    | error cause =>
      rw [hscope] at h
      cases h
    | ok domain =>
      rw [hscope] at h
      cases h
      exact ⟨rfl, rfl⟩

theorem Value.at_ne_mismatch (h : v.kind = .list) (position : Int) (mismatch : Mismatch) :
    v.at position ≠ .error (.typeMismatch mismatch) := by
  intro hat
  rcases Value.at_eq_error_iff.1 hat with ⟨htext, -⟩ | ⟨items, -, -, hcause⟩
  · rw [h] at htext
    cases htext
  · cases hcause

theorem Value.append_ne_mismatch (h : u.kind = v.kind) (mismatch : Mismatch) :
    u.append v ≠ .error (.typeMismatch mismatch) := by
  intro happend
  exact (Value.append_eq_error_iff.1 happend).1 h

theorem Value.call_ne_mismatch {function : String} (hfunction : function ∈ builtins)
    (h : v.kind = .text) (mismatch : Mismatch) :
    v.call function ≠ .error (.typeMismatch mismatch) := by
  intro hcall
  rcases (Value.call_eq_error_iff hfunction).1 hcall with ⟨hlist, -⟩ | ⟨value, -, -, hcause⟩
  · rw [h] at hlist
    cases hlist
  · cases hcause

end

variable {e : Expr} {r s : Record}

/-- An expression that has a value has its kind, because every operand was evaluated. -/
theorem Expr.hasKind_of_eval {v : Value} (h : e.eval r = .ok v) : e.HasKind v.kind := by
  induction e generalizing v with
  | «variable» name =>
    rw [Expr.eval] at h
    split at h
    · cases h
      exact .variable name
    · cases h
  | literal text =>
    cases h
    exact .literal text
  | index list position ih =>
    obtain ⟨items, hitems, hat⟩ := Outcome.bind_eq_ok_iff.1 h
    obtain ⟨hlist, htext⟩ := Value.kind_of_at hat
    rw [htext]
    exact .index position (hlist ▸ ih hitems)
  | concat left right ihleft ihright =>
    obtain ⟨a, ha, h⟩ := Outcome.bind_eq_ok_iff.1 h
    obtain ⟨b, hb, happend⟩ := Outcome.bind_eq_ok_iff.1 h
    obtain ⟨hleft, hright⟩ := Value.kind_of_append happend
    exact .concat (hleft ▸ ihleft ha) (hright ▸ ihright hb)
  | call function argument ih =>
    obtain ⟨value, hvalue, hcall⟩ := Outcome.bind_eq_ok_iff.1 h
    obtain ⟨hfunction, hargument, htext⟩ := Value.kind_of_call hcall
    rw [htext]
    exact .call hfunction (hargument ▸ ih hvalue)

/-- An expression with a kind never meets operands that do not go together. -/
theorem Expr.HasKind.eval_ne_mismatch {k : Kind} (h : e.HasKind k) (r : Record)
    (mismatch : Mismatch) : e.eval r ≠ .error (.typeMismatch mismatch) := by
  intro herror
  induction h with
  | «variable» name =>
    rw [Expr.eval] at herror
    split at herror <;> cases herror
  | literal text => cases herror
  | index position hlist ih =>
    rcases Outcome.bind_eq_error_iff.1 herror with herror | ⟨items, hitems, hat⟩
    · exact ih herror
    · have hkind : items.kind = .list := (Expr.hasKind_of_eval hitems).unique hlist
      exact Value.at_ne_mismatch hkind position mismatch hat
  | concat hleft hright ihleft ihright =>
    rcases Outcome.bind_eq_error_iff.1 herror with herror | ⟨a, ha, herror⟩
    · exact ihleft herror
    rcases Outcome.bind_eq_error_iff.1 herror with herror | ⟨b, hb, happend⟩
    · exact ihright herror
    · have hkinds : a.kind = b.kind :=
        ((Expr.hasKind_of_eval ha).unique hleft).trans
          (hright.unique (Expr.hasKind_of_eval hb))
      exact Value.append_ne_mismatch hkinds mismatch happend
  | call hfunction hargument ih =>
    rcases Outcome.bind_eq_error_iff.1 herror with herror | ⟨value, hvalue, hcall⟩
    · exact ih herror
    · have hkind : value.kind = .text := (Expr.hasKind_of_eval hvalue).unique hargument
      exact Value.call_ne_mismatch hfunction hkind mismatch hcall

theorem Expr.exists_error_of_mismatch {mismatch : Mismatch}
    (h : e.eval r = .error (.typeMismatch mismatch)) (s : Record) :
    ∃ cause, e.eval s = .error cause := by
  cases hs : e.eval s with
  | error cause => exact ⟨cause, rfl⟩
  | ok v => exact absurd h ((Expr.hasKind_of_eval hs).eval_ne_mismatch r mismatch)

theorem exists_render_error_of_mismatch {t : Template} {c : Char} {mismatch : Mismatch}
    (h : t.render r c = .error (.typeMismatch mismatch)) (s : Record) (d : Char) :
    ∃ cause, t.render s d = .error cause := by
  cases hs : t.render s d with
  | error cause => exact ⟨cause, rfl⟩
  | ok output =>
    obtain ⟨e, he, hmismatch⟩ := exists_eval_error_of_render h (by simp)
    obtain ⟨v, hv⟩ := exists_eval_of_render hs he
    exact absurd hmismatch ((Expr.hasKind_of_eval hv).eval_ne_mismatch r mismatch)

/-- Kinds are static. On any two records, an expression gives values of the same kind, and what
meets a mismatch on the one fails on the other, a template as well as an expression. -/
theorem kinds_are_static (e : Expr) (t : Template) (r s : Record) (c d : Char) :
    (∀ a b, e.eval r = .ok a → e.eval s = .ok b → a.kind = b.kind) ∧
    (∀ mismatch, e.eval r = .error (.typeMismatch mismatch) →
      ∃ cause, e.eval s = .error cause) ∧
    (∀ mismatch, t.render r c = .error (.typeMismatch mismatch) →
      (∃ cause, t.render s d = .error cause) ∧ ∃ cause, t.renderValues s d = .error cause) := by
  refine ⟨?_, ?_, ?_⟩
  · intro a b ha hb
    exact (Expr.hasKind_of_eval ha).unique (Expr.hasKind_of_eval hb)
  · intro mismatch h
    exact Expr.exists_error_of_mismatch h s
  · intro mismatch h
    obtain ⟨cause, hcause⟩ := exists_render_error_of_mismatch h s d
    refine ⟨⟨cause, hcause⟩, cause, ?_⟩
    rw [renderValues, hcause]
    rfl

/-- The first value of an attribute and all its values, which are a text and a list. -/
def Expr.mixedSum : Expr := .concat (.index (.variable "uid") 0) (.variable "uid")

def mixedSum : Template := ⟨"$\x7buid[0] + uid\x7d", [.placeholder .mixedSum]⟩

def oneUid : Record := Record.empty.insert "uid" ["ann"]

def twoUids : Record := Record.empty.insert "uid" ["bob", "rob"]

/-- Without the attribute the sum fails for another reason, but it does fail. -/
theorem kinds_are_static_mixedSum :
    Template.compile mixedSum.source '$' = .ok mixedSum ∧
      Expr.mixedSum.eval oneUid = .error (.typeMismatch (.concatenation .text .list)) ∧
      (∃ cause, Expr.mixedSum.eval .empty = .error cause) ∧
      mixedSum.render oneUid ';' = .error (.typeMismatch (.concatenation .text .list)) ∧
      mixedSum.render .empty ',' = .error (.undefinedVariable "uid") ∧
      (∃ cause, mixedSum.renderValues .empty ',' = .error cause) ∧
      ∃ a b, (Expr.index (.variable "uid") (-1)).eval oneUid = .ok a ∧
        (Expr.index (.variable "uid") (-1)).eval twoUids = .ok b ∧ a ≠ b ∧ a.kind = b.kind := by
  have hsum : Expr.mixedSum.eval oneUid = .error (.typeMismatch (.concatenation .text .list)) := by
    decide
  have hrender : mixedSum.render oneUid ';' =
      .error (.typeMismatch (.concatenation .text .list)) := by
    decide
  have hann : (Expr.index (.variable "uid") (-1)).eval oneUid = .ok (.text "ann") := by decide
  have hrob : (Expr.index (.variable "uid") (-1)).eval twoUids = .ok (.text "rob") := by decide
  obtain ⟨-, hsumFails, hrenderFails⟩ :=
    kinds_are_static .mixedSum mixedSum oneUid .empty ';' ','
  obtain ⟨hkinds, -, -⟩ :=
    kinds_are_static (.index (.variable "uid") (-1)) mixedSum oneUid twoUids ';' ';'
  refine ⟨by decide, hsum, hsumFails _ hsum, hrender, by decide, (hrenderFails _ hrender).2, ?_⟩
  exact ⟨.text "ann", .text "rob", hann, hrob, by decide, hkinds _ _ hann hrob⟩

end AttributeProfiles.Template
