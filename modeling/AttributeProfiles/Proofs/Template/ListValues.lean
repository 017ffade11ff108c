import AttributeProfiles.Proofs.Pieces
import AttributeProfiles.Proofs.Template.Compilation
import AttributeProfiles.Proofs.Template.RenderedOutput

/-!
# The values of a list

A placeholder that is a list gives its items joined by the separator, and the values of a template
are the nonempty pieces between separators. Joining and splitting cancel: the values are those that
the items give one by one. An item without the separator gives itself, unless it is empty.
-/

namespace AttributeProfiles.Template

variable {separator : Char}

theorem outputValues_join (items : List String) :
    outputValues separator (Text.join separator items) =
      items.flatMap (outputValues separator) := by
  induction items with
  | nil => rfl
  | cons item items ih =>
    cases items with
    | nil => rw [Text.join_singleton, List.flatMap_singleton]
    | cons next items =>
      rw [List.flatMap_cons, ← ih, outputValues,
        Text.split_append (Text.toList_join_cons_cons separator item next items),
        List.filter_append]
      rfl

theorem outputValues_eq_filter {item : String} (h : separator ∉ item.toList) :
    outputValues separator item = [item].filter (· ≠ "") := by
  rw [outputValues, Text.split_eq_singleton h]

theorem flatMap_outputValues_eq_filter {items : List String}
    (h : ∀ item ∈ items, separator ∉ item.toList) :
    items.flatMap (outputValues separator) = items.filter (· ≠ "") := by
  induction items with
  | nil => rfl
  | cons item items ih =>
    have htail : ∀ other ∈ items, separator ∉ other.toList := by
      intro other hother
      exact h other (List.mem_cons_of_mem item hother)
    rw [List.flatMap_cons, ih htail, outputValues_eq_filter (h item List.mem_cons_self),
      ← List.filter_append, List.singleton_append]

theorem renderValues_of_list {t : Template} {e : Expr} {r : Record} {items : List String}
    (hsegments : t.segments = [.placeholder e]) (heval : e.eval r = .ok (.list items))
    (hsize : (Text.join separator items).utf8ByteSize ≤ maxRenderedBytes) :
    t.renderValues r separator = .ok (items.flatMap (outputValues separator)) := by
  have hrender : t.render r separator = .ok (Text.join separator items) :=
    render_of_gives hsegments (.listValue heval) hsize
  rw [renderValues, hrender, ← outputValues_join]
  rfl

/-- Joining and splitting cancel. Where the joined items of a list are within the limit, the values
of a placeholder that is the list are the nonempty pieces of its items, each split alone. If no item
holds the separator, they are the nonempty items. So a variable between the braces of a placeholder
gives back its nonempty values. -/
theorem splitting_undoes_joining (r : Record) (separator : Char) (items : List String)
    (hsize : (Text.join separator items).utf8ByteSize ≤ maxRenderedBytes) :
    (∀ t e, Template.segments t = [.placeholder e] → e.eval r = .ok (.list items) →
      t.renderValues r separator =
        .ok (items.flatMap fun item => (Text.split separator item).filter (· ≠ ""))) ∧
    ((∀ item ∈ items, separator ∉ item.toList) →
      (∀ t e, Template.segments t = [.placeholder e] → e.eval r = .ok (.list items) →
        t.renderValues r separator = .ok (items.filter (· ≠ ""))) ∧
      ∀ marker name, marker ≠ '\x7b' → Grammar.IsIdentifier name.toList →
        (placeholderSource marker name.toList).utf8ByteSize ≤ maxSourceBytes →
        r.get? name = some items →
        ∃ t, Template.compile (placeholderSource marker name.toList) marker = .ok t ∧
          t.renderValues r separator = .ok (items.filter (· ≠ ""))) := by
  refine ⟨?_, ?_⟩
  · intro t e hsegments heval
    exact renderValues_of_list hsegments heval hsize
  · intro hitems
    rw [← flatMap_outputValues_eq_filter hitems]
    refine ⟨?_, ?_⟩
    · intro t e hsegments heval
      exact renderValues_of_list hsegments heval hsize
    · intro marker name hmarker hname hsource hvalues
      refine ⟨_, compile_variable hmarker hname hsource, ?_⟩
      exact renderValues_of_list rfl (Expr.eval_variable hvalues) hsize

/-- Values of an attribute with separators inside, at both ends and on their own. -/
def separatedMail : Record := Record.empty.insert "mail" ["ann;bob", "", ";carl;", ";"]

def plainMail : Record := Record.empty.insert "mail" ["ann", "", "bob"]

theorem splitting_undoes_joining_mail :
    Text.join ';' ["ann;bob", "", ";carl;", ";"] = "ann;bob;;;carl;;;" ∧
      (⟨"$\x7bmail\x7d", [.placeholder (.variable "mail")]⟩ : Template).renderValues
        separatedMail ';' = .ok ["ann", "bob", "carl"] ∧
      ∃ t, Template.compile "#\x7bmail\x7d" '#' = .ok t ∧
        t.renderValues plainMail ';' = .ok ["ann", "bob"] := by
  obtain ⟨hpieces, -⟩ :=
    splitting_undoes_joining separatedMail ';' ["ann;bob", "", ";carl;", ";"] (by decide)
  obtain ⟨-, hplain⟩ := splitting_undoes_joining plainMail ';' ["ann", "", "bob"] (by decide)
  obtain ⟨-, hvariable⟩ := hplain (by decide)
  refine ⟨rfl, hpieces _ _ rfl rfl, ?_⟩
  exact hvariable '#' "mail" (by decide) (by decide) (by decide) rfl

end AttributeProfiles.Template
