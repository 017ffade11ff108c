import AttributeProfiles.Proofs.Template.Grammar

/-!
# Runs of text

The segments of a template are the placeholders among its items and the runs of characters between
them. Taken from the right, a character joins the text before which it stands, or begins a text of
its own. So no text is empty and no two texts stand side by side. And where the items of one
template follow those of another, so do the segments, but for the two texts that may meet between
them.
-/

namespace AttributeProfiles.Template

open Grammar

def consCharacter (c : Char) : List Segment → List Segment
  | .text run :: others => .text (String.ofList (c :: run.toList)) :: others
  | others => .text (String.ofList [c]) :: others

theorem segmentsOf_character (c : Char) (items : List Item) :
    segmentsOf (.character c :: items) = consCharacter c (segmentsOf items) := rfl

theorem exists_text_of_character (c : Char) (items : List Item) :
    ∃ run others, segmentsOf (.character c :: items) = .text run :: others := by
  rw [segmentsOf_character]
  unfold consCharacter
  split <;> exact ⟨_, _, rfl⟩

theorem segmentsOf_eq_nil_iff {items : List Item} : segmentsOf items = [] ↔ items = [] := by
  constructor
  · intro h
    rcases items with _ | ⟨⟨c⟩ | ⟨e⟩, items⟩
    · rfl
    · obtain ⟨run, others, htext⟩ := exists_text_of_character c items
      rw [htext] at h
      cases h
    · cases h
  · rintro rfl
    rfl

/-- No text is empty, and no two texts stand side by side. -/
structure TextsApart (segments : List Segment) : Prop where
  ne_empty : ∀ content, .text content ∈ segments → content ≠ ""
  apart : ∀ left right, ¬ [.text left, .text right] <:+: segments

namespace TextsApart

variable {segments : List Segment}

theorem nil : TextsApart [] where
  ne_empty := by simp
  apart := by simp

theorem tail {g : Segment} (h : TextsApart (g :: segments)) : TextsApart segments where
  ne_empty content hmem := h.ne_empty content (List.mem_cons_of_mem g hmem)
  apart left right hmeet := h.apart left right (List.infix_cons hmeet)

theorem cons_placeholder (h : TextsApart segments) (e : Expr) :
    TextsApart (.placeholder e :: segments) where
  ne_empty content hmem := h.ne_empty content (by simpa using hmem)
  apart left right hmeet := by
    rcases List.infix_cons_iff.1 hmeet with hfirst | hmeet
    · simp at hfirst
    · exact h.apart left right hmeet

theorem cons_text (h : TextsApart segments) {content : String} (hcontent : content ≠ "")
    (hfirst : ∀ run, segments.head? ≠ some (.text run)) :
    TextsApart (.text content :: segments) where
  ne_empty other hmem := by
    rcases List.mem_cons.1 hmem with hmem | hmem
    · cases hmem
      exact hcontent
    · exact h.ne_empty other hmem
  apart left right hmeet := by
    rcases List.infix_cons_iff.1 hmeet with hmeet | hmeet
    · obtain ⟨-, rest, rfl⟩ := List.cons_prefix_cons.1 hmeet
      exact hfirst right rfl
    · exact h.apart left right hmeet

theorem consCharacter (h : TextsApart segments) (c : Char) :
    TextsApart (consCharacter c segments) := by
  have hcontent (run : List Char) : String.ofList (c :: run) ≠ "" := by simp
  cases segments with
  | nil => exact h.cons_text (hcontent []) (by simp)
  | cons g segments =>
    cases g with
    | placeholder e => exact h.cons_text (hcontent []) (by simp)
    | text run =>
      apply h.tail.cons_text (hcontent run.toList)
      intro other hfirst
      obtain ⟨rest, rfl⟩ := List.head?_eq_some_iff.1 hfirst
      exact h.apart run other ⟨[], rest, rfl⟩

end TextsApart

theorem textsApart_segmentsOf (items : List Item) : TextsApart (segmentsOf items) := by
  induction items with
  | nil => exact .nil
  | cons item items ih =>
    cases item with
    | placeholder e => exact ih.cons_placeholder e
    | character c => exact ih.consCharacter c

/-- Two lists of segments one after the other, with the texts that meet made one. -/
def joinSegments : List Segment → List Segment → List Segment
  | [], others => others
  | [.text left], .text right :: others => .text (left ++ right) :: others
  | g :: segments, others => g :: joinSegments segments others

theorem joinSegments_placeholder (e : Expr) (segments others : List Segment) :
    joinSegments (.placeholder e :: segments) others =
      .placeholder e :: joinSegments segments others := by
  rw [joinSegments]
  simp

theorem joinSegments_cons_cons (g h : Segment) (segments others : List Segment) :
    joinSegments (g :: h :: segments) others = g :: joinSegments (h :: segments) others := by
  rw [joinSegments]
  simp

/-- A character before two lists stands before the first one, or before the second one if the first
one is empty. -/
theorem consCharacter_joinSegments (c : Char) (segments others : List Segment) :
    consCharacter c (joinSegments segments others) =
      joinSegments (consCharacter c segments) others := by
  cases segments with
  | nil =>
    rcases others with _ | ⟨⟨content⟩ | ⟨e⟩, others⟩
    · rfl
    · simp [joinSegments, consCharacter]
    · rfl
  | cons g segments =>
    cases g with
    | placeholder e =>
      rw [joinSegments_placeholder, consCharacter, consCharacter, joinSegments_cons_cons,
        joinSegments_placeholder] <;> simp
    | text run =>
      cases segments with
      | cons h segments =>
        rw [joinSegments_cons_cons, consCharacter, consCharacter, joinSegments_cons_cons]
      | nil =>
        rcases others with _ | ⟨⟨content⟩ | ⟨e⟩, others⟩
        · rfl
        · simp [joinSegments, consCharacter, String.append_assoc]
        · rfl

theorem segmentsOf_append (items others : List Item) :
    segmentsOf (items ++ others) = joinSegments (segmentsOf items) (segmentsOf others) := by
  induction items with
  | nil => rfl
  | cons item items ih =>
    cases item with
    | placeholder e =>
      rw [List.cons_append, segmentsOf, segmentsOf, ih, joinSegments_placeholder]
    | character c =>
      rw [List.cons_append, segmentsOf_character, segmentsOf_character, ih,
        consCharacter_joinSegments]

end AttributeProfiles.Template
