import Mathlib.Data.List.TakeWhile
import AttributeProfiles.Template.Rendering

/-!
# When operations fail

An operation of an expression fails because its operands do not go together, or because of what they
hold: a list has no item at a position, a text has no domain. A call of a function that there is not
fails whatever its argument is.
-/

namespace AttributeProfiles.Template

theorem item?_eq_none_iff {items : List String} {position : Int} :
    item? items position = none ↔ position < -items.length ∨ items.length ≤ position := by
  unfold item?
  dsimp only
  split_ifs <;> simp only [List.getElem?_eq_none_iff, true_iff] <;> omega

theorem scope_eq_error_iff {value : String} {cause : Error} :
    scope value = .error cause ↔ '@' ∉ value.toList ∧ cause = .unscoped value := by
  have hdomain : value.toList.dropWhile (· != '@') = [] ↔ '@' ∉ value.toList := by
    simp only [List.dropWhile_eq_nil_iff, bne_iff_ne, List.forall_mem_ne']
  rw [scope, ← hdomain]
  cases value.toList.dropWhile (· != '@') with
  | nil => simp [eq_comm]
  | cons sign domain => simp

variable {u v : Value} {cause : Error}

theorem Value.at_eq_error_iff {position : Int} :
    v.at position = .error cause ↔
      v.kind = .text ∧ cause = .typeMismatch .indexIntoText ∨
        ∃ items, v = .list items ∧ (position < -items.length ∨ items.length ≤ position) ∧
          cause = .indexOutOfRange position items.length := by
  cases v with
  | text content => simp [Value.at, Value.kind, eq_comm]
  | list items =>
    simp only [← item?_eq_none_iff, Value.at, Value.kind]
    cases hitem : item? items position with
    | none => simp [hitem, eq_comm]
    | some item => simp [hitem]

theorem Value.append_eq_error_iff :
    u.append v = .error cause ↔
      u.kind ≠ v.kind ∧ cause = .typeMismatch (.concatenation u.kind v.kind) := by
  cases u <;> cases v <;> simp [Value.append, Value.kind, eq_comm]

/-- A function that there is not would fail here, after its argument. -/
theorem Value.call_of_notMem {function : String} (h : function ∉ builtins) (v : Value) :
    v.call function = .error (.unknownFunction function) := by
  rw [mem_builtins] at h
  unfold Value.call
  split
  · exact absurd rfl h
  · exact absurd rfl h
  · rfl

example : (Expr.call "domain" (.literal "ann@example.org")).eval .empty =
    .error (.unknownFunction "domain") := by
  decide

/-- A function that there is fails for the kind of its argument, or because that has no domain. -/
theorem Value.call_eq_error_iff {function : String} (h : function ∈ builtins) :
    v.call function = .error cause ↔
      v.kind = .list ∧ cause = .typeMismatch (.argument function v.kind) ∨
        ∃ value, v = .text value ∧ '@' ∉ value.toList ∧ cause = .unscoped value := by
  obtain rfl := mem_builtins.1 h
  cases v with
  | list items => simp [Value.call, Value.kind, eq_comm]
  | text value =>
    simp only [← scope_eq_error_iff, Value.call, Value.kind]
    cases hscope : scope value with
    | error other => simp [hscope, Except.map]
    | ok domain => simp [hscope, Except.map]

end AttributeProfiles.Template
