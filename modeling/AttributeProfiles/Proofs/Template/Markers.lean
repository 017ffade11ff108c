import AttributeProfiles.Config.Validation
import AttributeProfiles.Proofs.Pieces
import AttributeProfiles.Proofs.Template.Compilation
import AttributeProfiles.Proofs.Template.RenderedOutput

/-!
# Markers

A marker before an opening brace opens a placeholder, and a doubled marker is one marker. The second
rule takes precedence, so doubling its markers makes a template of any text: one that renders to the
text.

Both rules apply in one case: where the marker is the opening brace itself, what would open a
placeholder is a doubled marker. Validation compares the three characters of the options with each
other only, so it accepts this marker, with which a template is nothing but text. Every other marker
opens placeholders.
-/

namespace AttributeProfiles

namespace Template

open Grammar

theorem Grammar.reads_characters {marker : Char} {cs : List Char} (h : marker ∉ cs) :
    Reads marker (cs.map .character) cs := by
  induction cs with
  | nil => exact .nil
  | cons c cs ih =>
    have hc : c ≠ marker := by
      rintro rfl
      exact h List.mem_cons_self
    have hcs : marker ∉ cs := by
      intro hmem
      exact h (List.mem_cons_of_mem c hmem)
    exact .character hc (ih hcs)

theorem Grammar.IsIdentifier.not_mem {word : List Char} (h : IsIdentifier word) {c : Char}
    (hc : isIdentifierPart c = false) : c ∉ word := by
  obtain ⟨x, xs, rfl, hx, hxs⟩ := h
  intro hmem
  have hpart : isIdentifierPart c := by
    rcases List.mem_cons.1 hmem with rfl | hmem
    · exact isIdentifierPart_of_start hx
    · exact hxs c hmem
  rw [hc] at hpart
  cases hpart

theorem compile_of_reads_characters {source : String} {marker : Char} {cs : List Char}
    (hsize : source.utf8ByteSize ≤ maxSourceBytes)
    (h : Reads marker (cs.map .character) source.toList) :
    Template.compile source marker = .ok ⟨source, textSegment cs.reverse⟩ := by
  apply compile_of_derives hsize
  refine ⟨_, h, ?_⟩
  have hsegments := segmentsOf_characters cs.reverse
  rwa [List.reverse_reverse, List.append_nil] at hsegments

/-- With the brace as marker, a name between braces is text, with one brace before it. -/
theorem compile_placeholderSource_brace {name : String} (hname : IsIdentifier name.toList)
    (hsize : (placeholderSource '\x7b' name.toList).utf8ByteSize ≤ maxSourceBytes) :
    Template.compile (placeholderSource '\x7b' name.toList) '\x7b' =
      .ok ⟨placeholderSource '\x7b' name.toList, [.text ("\x7b" ++ name ++ "\x7d")]⟩ := by
  have hreads : Reads '\x7b' (('\x7b' :: (name.toList ++ ['\x7d'])).map .character)
      (placeholderSource '\x7b' name.toList).toList := by
    rw [toList_placeholderSource]
    apply Reads.doubled
    apply reads_characters
    intro hmem
    rcases List.mem_append.1 hmem with hmem | hmem
    · exact hname.not_mem (by decide) hmem
    · cases List.mem_singleton.1 hmem
  have hcontent : String.ofList ('\x7b' :: (name.toList ++ ['\x7d'])) =
      "\x7b" ++ name ++ "\x7d" := by
    apply String.toList_injective
    simp
  rw [compile_of_reads_characters hsize hreads, textSegment, List.reverse_reverse, hcontent,
    if_neg (by simp)]

/-- These characters with every marker doubled. -/
def doubledMarkers (marker : Char) (cs : List Char) : List Char :=
  cs.flatMap fun c => if c = marker then [marker, marker] else [c]

def escape (marker : Char) (text : String) : String :=
  String.ofList (doubledMarkers marker text.toList)

/-- Reading goes on behind both markers of a pair, so the second one is never read together with
what follows the pair. -/
theorem Grammar.reads_doubledMarkers (marker : Char) (cs : List Char) :
    Reads marker (cs.map .character) (doubledMarkers marker cs) := by
  induction cs with
  | nil => exact .nil
  | cons c cs ih =>
    rw [List.map_cons, doubledMarkers, List.flatMap_cons]
    split
    next hc =>
      subst hc
      exact .doubled ih
    next hc => exact .character hc ih

theorem sublist_doubledMarkers (marker : Char) (cs : List Char) :
    cs.Sublist (doubledMarkers marker cs) := by
  induction cs with
  | nil => exact .slnil
  | cons c cs ih =>
    rw [doubledMarkers, List.flatMap_cons]
    split
    next hc =>
      subst hc
      exact (ih.cons c).cons_cons c
    next => exact ih.cons_cons c

theorem utf8ByteSize_le_escape (marker : Char) (text : String) :
    text.utf8ByteSize ≤ (escape marker text).utf8ByteSize := by
  rw [escape, Text.utf8ByteSize_ofList, Text.utf8ByteSize_eq_byteLength]
  exact Text.byteLength_le_of_sublist (sublist_doubledMarkers marker text.toList)

theorem compile_escape {marker : Char} {text : String}
    (hsize : (escape marker text).utf8ByteSize ≤ maxSourceBytes) :
    Template.compile (escape marker text) marker =
      .ok ⟨escape marker text, textSegment text.toList.reverse⟩ := by
  apply compile_of_reads_characters hsize
  rw [escape, String.toList_ofList]
  exact reads_doubledMarkers marker text.toList

theorem render_textSegment {t : Template} {text : String} {r : Record} {separator : Char}
    (hsegments : t.segments = textSegment text.toList.reverse)
    (hsize : text.utf8ByteSize ≤ maxRenderedBytes) : t.render r separator = .ok text := by
  rw [textSegment, List.reverse_reverse, String.ofList_toList] at hsegments
  split at hsegments
  next hnil =>
    have hempty : text = "" := by simpa using hnil
    rw [render, hsegments, hempty]
    rfl
  next => exact render_of_gives hsegments (.text text) hsize

/-- Doubling the markers of a text escapes it: the result is a template that renders to the text, on
every record and with every separator, if it is short enough to be a template at all. -/
theorem renders_escaped_text_iff (marker : Char) (text : String) :
    (∃ t, Template.compile (escape marker text) marker = .ok t ∧
      ∀ r separator, t.render r separator = .ok text) ↔
    (escape marker text).utf8ByteSize ≤ maxSourceBytes := by
  constructor
  · rintro ⟨t, hcompile, -⟩
    exact utf8ByteSize_le_of_compile hcompile
  · intro hsize
    have hlimit : text.utf8ByteSize ≤ maxRenderedBytes := calc
      text.utf8ByteSize ≤ (escape marker text).utf8ByteSize := utf8ByteSize_le_escape marker text
      _ ≤ maxSourceBytes := hsize
      _ ≤ maxRenderedBytes := by decide
    exact ⟨_, compile_escape hsize, fun r separator => render_textSegment rfl hlimit⟩

example : escape '$' "$\x7buid\x7d $$" = "$$\x7buid\x7d $$$$" := by decide

end Template

/-- The marker of these options can open a placeholder: before a name in braces it makes a template
that renders to the values of the attribute of this name, joined. -/
def Options.OpensPlaceholder (o : Options) : Prop :=
  ∀ name : String, Template.Grammar.IsIdentifier name.toList →
    (Template.placeholderSource o.templateMarker name.toList).utf8ByteSize ≤
      Template.maxSourceBytes →
    ∀ (r : Record) (values : List String), r.get? name = some values →
      (Text.join o.multivalueSeparator values).utf8ByteSize ≤ Template.maxRenderedBytes →
      ∃ t, Template.compile (Template.placeholderSource o.templateMarker name.toList)
          o.templateMarker = .ok t ∧
        t.render r o.multivalueSeparator = .ok (Text.join o.multivalueSeparator values)

namespace Options

theorem opensPlaceholder_of_ne {o : Options} (h : o.templateMarker ≠ '\x7b') :
    o.OpensPlaceholder := by
  intro name hname hsource r values hvalues hsize
  refine ⟨_, Template.compile_variable h hname hsource, ?_⟩
  exact Template.render_of_gives rfl (.listValue (Template.Expr.eval_variable hvalues)) hsize

theorem not_opensPlaceholder_of_eq {o : Options} (h : o.templateMarker = '\x7b') :
    ¬ o.OpensPlaceholder := by
  intro hopens
  have hname : Template.Grammar.IsIdentifier "uid".toList := by decide
  have hsource : (Template.placeholderSource '\x7b' "uid".toList).utf8ByteSize ≤
      Template.maxSourceBytes := by
    decide
  have hjoin : Text.join o.multivalueSeparator ["ann"] = "ann" := rfl
  obtain ⟨t, hcompile, hrender⟩ := hopens "uid" hname (h ▸ hsource)
    (Record.empty.insert "uid" ["ann"]) ["ann"] (by decide) (by rw [hjoin]; decide)
  rw [h, Template.compile_placeholderSource_brace hname hsource] at hcompile
  cases hcompile
  rw [hjoin, Template.render_of_gives rfl (.text _) (by decide)] at hrender
  exact absurd (Except.ok.inj hrender) (by decide)

/-- A marker can open a placeholder exactly if it is not the brace that stands behind it there. -/
theorem opensPlaceholder_iff (o : Options) : o.OpensPlaceholder ↔ o.templateMarker ≠ '\x7b' := by
  constructor
  · intro hopens hbrace
    exact not_opensPlaceholder_of_eq hbrace hopens
  · exact opensPlaceholder_of_ne

/-- Validation accepts the brace as marker, but it opens no placeholder: what would be the values of
an attribute is text. -/
theorem brace_opens_no_placeholder :
    violation? ⟨'.', ';', '\x7b'⟩ = none ∧
      Template.compile "\x7b\x7buid\x7d" '\x7b' =
        .ok ⟨"\x7b\x7buid\x7d", [.text "\x7buid\x7d"]⟩ ∧
      Template.render ⟨"\x7b\x7buid\x7d", [.text "\x7buid\x7d"]⟩
        (Record.empty.insert "uid" ["ann"]) ';' = .ok "\x7buid\x7d" ∧
      ¬ OpensPlaceholder ⟨'.', ';', '\x7b'⟩ :=
  ⟨by decide, by decide, by decide, not_opensPlaceholder_of_eq rfl⟩

end Options

end AttributeProfiles
