import AttributeProfiles.Proofs.Template.Compilation
import AttributeProfiles.Proofs.Template.Segments
import AttributeProfiles.Proofs.Template.Variables

/-!
# One template after another

A reader of a template takes nothing along from one item to the next but the text that it has just
read. So two sources one after the other are the template of their segments one after the other,
unless a marker at the end of the first one gets another meaning from what follows it. The outputs
follow each other too. The limit on output is tested more often where a text is cut in two, but the
output grows, so this makes no difference.
-/

namespace AttributeProfiles.Template

open Grammar

theorem getLast?_ne_of_suffix {marker : Char} {cs ds : List Char} (h : cs <:+ ds)
    (hend : ds.getLast? ≠ some marker) : cs.getLast? ≠ some marker := by
  obtain ⟨before, rfl⟩ := h
  intro hcs
  apply hend
  rw [List.getLast?_append, hcs]
  rfl

/-- Reading goes on behind a text that does not end with the marker as it starts. -/
theorem Grammar.Reads.append {marker : Char} {items others : List Item} {cs ds : List Char}
    (h : Reads marker items cs) (hend : cs.getLast? ≠ some marker) (h' : Reads marker others ds) :
    Reads marker (items ++ others) (cs ++ ds) := by
  induction h with
  | nil => exact h'
  | @doubled items cs _ ih =>
    exact .doubled (ih (getLast?_ne_of_suffix (List.suffix_append [marker, marker] cs) hend))
  | @placeholder e items word cs hmarker he _ ih =>
    have hsuffix : cs <:+ marker :: '\x7b' :: (word ++ '\x7d' :: cs) :=
      ⟨marker :: '\x7b' :: (word ++ ['\x7d']), by simp⟩
    have hreads := Reads.placeholder hmarker he (ih (getLast?_ne_of_suffix hsuffix hend))
    simpa using hreads
  | @marker items cs hdoubled hbrace _ ih =>
    cases cs with
    | nil => exact absurd rfl hend
    | cons c cs =>
      exact .marker hdoubled hbrace (ih (getLast?_ne_of_suffix (List.suffix_cons _ _) hend))
  | @character c items cs hc _ ih =>
    exact .character hc (ih (getLast?_ne_of_suffix (List.suffix_cons c cs) hend))

def append (s t : Template) : Template where
  source := s.source ++ t.source
  segments := joinSegments s.segments t.segments

theorem compile_append {first second : String} {marker : Char} {s t : Template}
    (hs : Template.compile first marker = .ok s) (ht : Template.compile second marker = .ok t)
    (hend : first.toList.getLast? ≠ some marker)
    (hsize : (first ++ second).utf8ByteSize ≤ maxSourceBytes) :
    Template.compile (first ++ second) marker = .ok (s.append t) := by
  have happend : s.append t = ⟨first ++ second, joinSegments s.segments t.segments⟩ := by
    rw [append, source_of_compile hs, source_of_compile ht]
  obtain ⟨items, hitems, hsegments⟩ := derives_of_compile hs
  obtain ⟨others, hothers, hfollowing⟩ := derives_of_compile ht
  rw [happend]
  apply compile_of_derives hsize
  refine ⟨items ++ others, ?_, ?_⟩
  · rw [String.toList_append]
    exact hitems.append hend hothers
  · rw [segmentsOf_append, hsegments, hfollowing]

variable {r : Record} {separator : Char}

/-- A text can be put out in two steps: where the first one passes the limit, so do both. -/
theorem extend_text_append (output left right : String) :
    extend r separator output (.text (left ++ right)) =
      extend r separator output (.text left) >>= fun output =>
        extend r separator output (.text right) := by
  have hgrows : (output ++ left).utf8ByteSize ≤ (output ++ (left ++ right)).utf8ByteSize := by
    simp only [String.utf8ByteSize_append]
    omega
  by_cases hleft : maxRenderedBytes < (output ++ left).utf8ByteSize
  · have hboth : maxRenderedBytes < (output ++ (left ++ right)).utf8ByteSize := by omega
    simp only [extend, Segment.render, bind, Except.bind, if_pos hleft, if_pos hboth]
  · simp only [extend, Segment.render, bind, Except.bind, if_neg hleft, String.append_assoc]

theorem foldlM_joinSegments (segments others : List Segment) (output : String) :
    (joinSegments segments others).foldlM (extend r separator) output =
      (segments ++ others).foldlM (extend r separator) output := by
  fun_induction joinSegments segments others generalizing output with
  | case1 others => rfl
  | case2 left right others =>
    rw [List.foldlM_cons, extend_text_append, bind_assoc]
    rfl
  | case3 g segments others _ ih =>
    rw [List.foldlM_cons, List.cons_append, List.foldlM_cons]
    simp only [ih]

theorem render_append (s t : Template) :
    (s.append t).render r separator =
      s.render r separator >>= t.segments.foldlM (extend r separator) := by
  rw [render, append, foldlM_joinSegments, List.foldlM_append]
  rfl

/-- After an output within the limit, a template adds its own output if both are within it. -/
theorem foldlM_segments_eq_ok_iff {t : Template} {output extended : String}
    (houtput : output.utf8ByteSize ≤ maxRenderedBytes) :
    t.segments.foldlM (extend r separator) output = .ok extended ↔
      ∃ added, t.render r separator = .ok added ∧ output ++ added = extended ∧
        extended.utf8ByteSize ≤ maxRenderedBytes := by
  rw [foldlM_extend_eq_ok_iff houtput]
  constructor
  · rintro ⟨pieces, hpieces, hextended, hsize⟩
    refine ⟨String.join pieces, ?_, hextended, hsize⟩
    apply render_eq_ok_iff.2
    refine ⟨pieces, hpieces, rfl, ?_⟩
    rw [← hextended, String.utf8ByteSize_append] at hsize
    omega
  · rintro ⟨added, hadded, hextended, hsize⟩
    obtain ⟨pieces, hpieces, rfl, -⟩ := render_eq_ok_iff.1 hadded
    exact ⟨pieces, hpieces, hextended, hsize⟩

theorem render_append_eq_ok_iff {s t : Template} {output : String} :
    (s.append t).render r separator = .ok output ↔
      ∃ left right, s.render r separator = .ok left ∧ t.render r separator = .ok right ∧
        left ++ right = output ∧ output.utf8ByteSize ≤ maxRenderedBytes := by
  rw [render_append, Outcome.bind_eq_ok_iff]
  constructor
  · rintro ⟨left, hleft, hrest⟩
    obtain ⟨right, hright, houtput, hsize⟩ :=
      (foldlM_segments_eq_ok_iff (utf8ByteSize_render_le hleft)).1 hrest
    exact ⟨left, right, hleft, hright, houtput, hsize⟩
  · rintro ⟨left, right, hleft, hright, houtput, hsize⟩
    refine ⟨left, hleft, ?_⟩
    exact (foldlM_segments_eq_ok_iff (utf8ByteSize_render_le hleft)).2
      ⟨right, hright, houtput, hsize⟩

/-- Where the first of two sources does not end with the marker, and both are short enough together,
they are one template: its segments are theirs one after the other, with the texts that meet made
one. It renders to their outputs one after the other exactly if both render and the outputs together
are within the limit, and it fails as the first template does if that fails. -/
theorem templates_append {first second : String} {marker : Char} {s t : Template}
    (hs : Template.compile first marker = .ok s) (ht : Template.compile second marker = .ok t)
    (hend : first.toList.getLast? ≠ some marker)
    (hsize : (first ++ second).utf8ByteSize ≤ maxSourceBytes) :
    ∃ whole, Template.compile (first ++ second) marker = .ok whole ∧
      whole.segments = joinSegments s.segments t.segments ∧
      ∀ r separator,
        (∀ output, whole.render r separator = .ok output ↔
          ∃ left right, s.render r separator = .ok left ∧ t.render r separator = .ok right ∧
            left ++ right = output ∧ output.utf8ByteSize ≤ maxRenderedBytes) ∧
        ∀ cause, s.render r separator = .error cause → whole.render r separator = .error cause := by
  refine ⟨s.append t, compile_append hs ht hend hsize, rfl, ?_⟩
  intro r separator
  refine ⟨fun output => render_append_eq_ok_iff, ?_⟩
  intro cause hcause
  rw [render_append, hcause]
  rfl

/-- Two templates whose texts meet. -/
def salutation : Template := ⟨"Dear $\x7bname\x7d, ",
  [.text "Dear ", .placeholder (.variable "name"), .text ", "]⟩

def reminder : Template := ⟨"mail to $\x7bmail\x7d",
  [.text "mail to ", .placeholder (.variable "mail")]⟩

theorem templates_append_salutation :
    salutation.source.toList.getLast? ≠ some '$' ∧
      ∃ whole, Template.compile (salutation.source ++ reminder.source) '$' = .ok whole ∧
        whole.segments = [.text "Dear ", .placeholder (.variable "name"), .text ", mail to ",
          .placeholder (.variable "mail")] ∧
        whole.render guest ';' = .ok "Dear Ann;B., mail to ann@example.org" ∧
        whole.render .empty ';' = .error (.undefinedVariable "name") := by
  have hs : Template.compile salutation.source '$' = .ok salutation := by decide
  have ht : Template.compile reminder.source '$' = .ok reminder := by decide
  have hend : salutation.source.toList.getLast? ≠ some '$' := by decide
  obtain ⟨whole, hwhole, hsegments, hrender⟩ := templates_append hs ht hend (by decide)
  refine ⟨hend, whole, hwhole, hsegments, ?_, ?_⟩
  · apply ((hrender guest ';').1 _).2
    exact ⟨"Dear Ann;B., ", "mail to ann@example.org", by decide, by decide, by decide, by decide⟩
  · apply (hrender .empty ';').2
    decide

-- A marker at the end of the first source opens a placeholder with the brace that follows it.
example : Template.compile "$" '$' = .ok ⟨"$", [.text "$"]⟩ ∧
    Template.compile "\x7buid\x7d" '$' = .ok ⟨"\x7buid\x7d", [.text "\x7buid\x7d"]⟩ ∧
    Template.compile ("$" ++ "\x7buid\x7d") '$' =
      .ok ⟨"$\x7buid\x7d", [.placeholder (.variable "uid")]⟩ := by
  decide

end AttributeProfiles.Template
