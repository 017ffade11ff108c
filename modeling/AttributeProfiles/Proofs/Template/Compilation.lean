import AttributeProfiles.Proofs.Template.Completeness

/-!
# Compiling is deriving

A source compiles to a template exactly when it derives the segments of the template. Inside a
placeholder this is what the two previous modules say; here the placeholders are put between the
text around them, of which every maximal run is one segment.
-/

namespace AttributeProfiles.Template

open Grammar

theorem Grammar.Token.append_blanks {spelling word blanks : List Char} (h : Token spelling word)
    (hblanks : ∀ c ∈ blanks, Text.isBlank c) : Token spelling (word ++ blanks) := by
  obtain ⟨before, after, hbefore, hafter, rfl⟩ := h
  refine ⟨before, after ++ blanks, hbefore, ?_, by simp⟩
  intro c hc
  rcases List.mem_append.1 hc with hc | hc
  · exact hafter c hc
  · exact hblanks c hc

theorem Grammar.Spells.append_blanks {layer : Layer} {n : Nat} {e : Expr} {word blanks : List Char}
    (h : Spells layer n e word) (hblanks : ∀ c ∈ blanks, Text.isBlank c) :
    Spells layer n e (word ++ blanks) := by
  induction h with
  | literal h ht => exact .literal h (ht.append_blanks hblanks)
  | reference h ht => exact .reference h (ht.append_blanks hblanks)
  | call hfunction hname hopening h hclosing =>
    simp only [List.append_assoc]
    exact .call hfunction hname hopening h (hclosing.append_blanks hblanks)
  | group hopening h hclosing =>
    simp only [List.append_assoc]
    exact .group hopening h (hclosing.append_blanks hblanks)
  | ofPrimary _ ih => exact .ofPrimary ih
  | index h hopening hposition hdigits hclosing =>
    simp only [List.append_assoc]
    exact .index h hopening hposition hdigits (hclosing.append_blanks hblanks)
  | ofTerm _ ih => exact .ofTerm ih
  | concat hl hplus _ _ ihr =>
    simp only [List.append_assoc]
    exact .concat hl hplus ihr
  | ofSum _ ih => exact .ofSum ih
  | filter h hbar hfunction hname =>
    simp only [List.append_assoc]
    exact .filter h hbar hfunction (hname.append_blanks hblanks)

theorem readPlaceholder_sound {c c' : Cursor} {e : Expr} (hdepth : c.depth = 0)
    (h : readPlaceholder c = .ok (e, c')) :
    ∃ word, Spells .filtered maxNesting e word ∧ c.Passes (word ++ ['\x7d']) c' := by
  obtain ⟨⟨read, c₁⟩, hread, h⟩ := Outcome.bind_eq_ok_iff.1 h
  obtain ⟨word, hword, hspells⟩ := readFiltered_sound _ _ _ _ hread
  rw [hdepth] at hspells
  dsimp only at h
  split at h
  next c₂ heat =>
    cases h
    obtain ⟨blanks, hblanks, hpass⟩ := eat?_passes heat
    refine ⟨word ++ blanks, hspells.append_blanks hblanks, ?_⟩
    rw [List.append_assoc]
    exact hword.trans hpass
  · cases h

theorem readPlaceholder_complete {c : Cursor} {e : Expr} {word cs : List Char}
    (hdepth : c.depth = 0) (h : Spells .filtered maxNesting e word)
    (hrest : c.rest = word ++ '\x7d' :: cs) :
    ∃ c', readPlaceholder c = .ok (e, c') ∧ c'.rest = cs ∧ c'.depth = 0 := by
  have hbefore : c.Before (word ++ '\x7d' :: cs) := by rw [Cursor.Before, hrest]
  have hnesting : c.depth + maxNesting ≤ maxNesting := by omega
  have hclosing : ('\x7d' :: cs).dropWhile Text.isBlank = '\x7d' :: cs :=
    List.dropWhile_cons_of_neg (by decide)
  have hstops : Stops [')', '\x7d'] ('\x7d' :: cs) :=
    ⟨'\x7d', by decide, by rw [hclosing, List.head?_cons]⟩
  obtain ⟨c₁, hreach, hread⟩ := h.isComplete.readFiltered hbefore hnesting hstops le_rfl
  have hskip : c₁.skipBlanks.rest = '\x7d' :: cs := hreach.before.skipBlanks_rest.trans hclosing
  have heat : c₁.eat? '\x7d' = some c₁.skipBlanks.next :=
    Cursor.eat?_eq_some_iff.2 ⟨by rw [hskip, List.head?_cons], rfl⟩
  refine ⟨c₁.skipBlanks.next, ?_, ?_, ?_⟩
  · simp only [readPlaceholder, hread, bind, Except.bind, heat]
  · rw [Cursor.next_rest, hskip, List.tail_cons]
  · rw [Cursor.next_depth, Cursor.skipBlanks_depth, hreach.depth, hdepth]

theorem segmentsOf_append_of_run {others : List Segment} {items : List Item} {cs : List Char}
    (hitems : segmentsOf items = others) (hothers : ∀ run rest, others ≠ .text run :: rest) :
    segmentsOf (cs.map Item.character ++ items) = textSegment cs.reverse ++ others := by
  induction cs with
  | nil => simpa [textSegment] using hitems
  | cons c cs ih =>
    rw [List.map_cons, List.cons_append, segmentsOf, ih]
    cases cs with
    | cons d ds => simp [textSegment]
    | nil =>
      cases others with
      | nil => simp [textSegment]
      | cons segment rest =>
        cases segment with
        | text run => exact absurd rfl (hothers run rest)
        | placeholder e => simp [textSegment]

theorem segmentsOf_characters (read : List Char) :
    segmentsOf (read.reverse.map Item.character ++ []) = textSegment read := by
  rw [segmentsOf_append_of_run rfl (by simp [segmentsOf]), List.reverse_reverse, segmentsOf,
    List.append_nil]

theorem segmentsOf_characters_placeholder (read : List Char) (e : Expr) (items : List Item) :
    segmentsOf (read.reverse.map Item.character ++ .placeholder e :: items) =
      textSegment read ++ .placeholder e :: segmentsOf items := by
  rw [segmentsOf_append_of_run rfl (by simp [segmentsOf]), List.reverse_reverse, segmentsOf]

theorem reverse_cons_characters (c : Char) (read : List Char) (items : List Item) :
    (c :: read).reverse.map Item.character ++ items =
      read.reverse.map Item.character ++ .character c :: items := by
  simp

/-- A character in front of what is left to read ends the run that is read. -/
theorem exists_items_cons {marker x : Char} {read cs cs' : List Char} {result : List Segment}
    (h : ∃ items, Reads marker items cs ∧
      segmentsOf ((x :: read).reverse.map Item.character ++ items) = result)
    (hstep : ∀ items, Reads marker items cs → Reads marker (.character x :: items) cs') :
    ∃ items, Reads marker items cs' ∧
      segmentsOf (read.reverse.map Item.character ++ items) = result := by
  obtain ⟨items, hitems, hresult⟩ := h
  rw [reverse_cons_characters] at hresult
  exact ⟨.character x :: items, hstep items hitems, hresult⟩

/-- The segments that are read are those of the text read before and of the items that follow. -/
theorem readSegments_sound {marker : Char} {limit : Nat} {read : List Char} {c : Cursor}
    {result : List Segment} (hlimit : c.rest.length ≤ limit) (hdepth : c.depth = 0)
    (h : readSegments marker limit read c = .ok result) :
    ∃ items, Reads marker items c.rest ∧
      segmentsOf (read.reverse.map Item.character ++ items) = result := by
  induction limit generalizing read c result with
  | zero =>
    cases h
    have hnil : c.rest = [] := List.eq_nil_of_length_eq_zero (by omega)
    exact ⟨[], hnil ▸ .nil, segmentsOf_characters read⟩
  | succ limit ih =>
    unfold readSegments at h
    split at h
    next hnil =>
      cases h
      exact ⟨[], hnil ▸ .nil, segmentsOf_characters read⟩
    next x xs hcons =>
      rw [hcons] at hlimit ⊢
      rw [List.length_cons] at hlimit
      have hnext : c.next.rest = xs := by rw [Cursor.next_rest, hcons, List.tail_cons]
      have hdepth₁ : c.next.depth = 0 := by rw [Cursor.next_depth, hdepth]
      have hdepth₂ : c.next.next.depth = 0 := by rw [Cursor.next_depth, hdepth₁]
      split at h
      next hx =>
        have hitems := ih (by rw [hnext]; omega) hdepth₁ h
        rw [hnext] at hitems
        exact exists_items_cons hitems fun items hread => .character hx hread
      next hx =>
        obtain rfl : x = marker := not_not.1 hx
        split at h
        next hdoubled =>
          obtain ⟨ys, rfl⟩ := List.head?_eq_some_iff.1 hdoubled
          have hnext₂ : c.next.next.rest = ys := by rw [Cursor.next_rest, hnext, List.tail_cons]
          rw [List.length_cons] at hlimit
          have hitems := ih (by rw [hnext₂]; omega) hdepth₂ h
          rw [hnext₂] at hitems
          exact exists_items_cons hitems fun items hread => .doubled hread
        next hdoubled =>
          split at h
          next hbrace =>
            obtain ⟨ys, rfl⟩ := List.head?_eq_some_iff.1 hbrace
            have hnext₂ : c.next.next.rest = ys := by rw [Cursor.next_rest, hnext, List.tail_cons]
            obtain ⟨⟨e, c₁⟩, hread, h⟩ := Outcome.bind_eq_ok_iff.1 h
            obtain ⟨others, hothers, hresult⟩ := Outcome.bind_eq_ok_iff.1 h
            cases hresult
            obtain ⟨word, hword, hpass⟩ := readPlaceholder_sound hdepth₂ hread
            have hys : ys = word ++ '\x7d' :: c₁.rest := by
              have hrest := hpass.rest
              rw [hnext₂] at hrest
              simpa using hrest
            have hlength : c₁.rest.length ≤ limit := by
              rw [hys] at hlimit
              simp only [List.length_cons, List.length_append] at hlimit
              omega
            obtain ⟨items, hitems, rfl⟩ := ih hlength (hpass.depth.trans hdepth₂) hothers
            have hmarker : x ≠ '\x7b' := by
              rintro rfl
              exact hdoubled hbrace
            rw [hys]
            refine ⟨.placeholder e :: items, .placeholder hmarker hword hitems, ?_⟩
            exact segmentsOf_characters_placeholder read e items
          next hbrace =>
            have hitems := ih (by rw [hnext]; omega) hdepth₁ h
            rw [hnext] at hitems
            exact exists_items_cons hitems fun items hread => .marker hdoubled hbrace hread

theorem readSegments_complete {marker : Char} {items : List Item} {cs : List Char}
    (h : Reads marker items cs) {limit : Nat} {read : List Char} {c : Cursor}
    (hlimit : cs.length ≤ limit) (hdepth : c.depth = 0) (hrest : c.rest = cs) :
    readSegments marker limit read c =
      .ok (segmentsOf (read.reverse.map Item.character ++ items)) := by
  induction h generalizing limit read c with
  | nil =>
    rw [segmentsOf_characters]
    cases limit with
    | zero => rfl
    | succ limit => simp only [readSegments, hrest]
  | @doubled items cs h ih =>
    rw [List.length_cons, List.length_cons] at hlimit
    obtain ⟨limit, rfl⟩ : ∃ k, limit = k + 1 := ⟨limit - 1, by omega⟩
    have hnext : c.next.next.rest = cs := by
      rw [Cursor.next_rest, Cursor.next_rest, hrest, List.tail_cons, List.tail_cons]
    have hothers : readSegments marker limit (marker :: read) c.next.next = _ :=
      ih (by omega) (by simpa) hnext
    rw [reverse_cons_characters] at hothers
    rw [readSegments]
    simp only [hrest, ne_eq, not_true_eq_false, if_false, List.head?_cons, if_true]
    exact hothers
  | @placeholder e items word cs hmarker he h ih =>
    simp only [List.length_cons, List.length_append] at hlimit
    obtain ⟨limit, rfl⟩ : ∃ k, limit = k + 1 := ⟨limit - 1, by omega⟩
    have hnext : c.next.next.rest = word ++ '\x7d' :: cs := by
      rw [Cursor.next_rest, Cursor.next_rest, hrest, List.tail_cons, List.tail_cons]
    obtain ⟨c', hread, hcs, hdepth'⟩ := readPlaceholder_complete (by simpa) he hnext
    have hothers : readSegments marker limit [] c' = .ok (segmentsOf items) :=
      ih (by omega) hdepth' hcs
    have hdoubled : (some '\x7b' : Option Char) ≠ some marker := by
      rw [ne_eq, Option.some.injEq]
      exact hmarker.symm
    rw [readSegments, segmentsOf_characters_placeholder]
    simp only [hrest, ne_eq, not_true_eq_false, if_false, List.head?_cons, hdoubled, if_true,
      hread, bind, Except.bind, hothers]
  | @marker items cs hdoubled hbrace h ih =>
    rw [List.length_cons] at hlimit
    obtain ⟨limit, rfl⟩ : ∃ k, limit = k + 1 := ⟨limit - 1, by omega⟩
    have hnext : c.next.rest = cs := by rw [Cursor.next_rest, hrest, List.tail_cons]
    have hothers : readSegments marker limit (marker :: read) c.next = _ :=
      ih (by omega) (by simpa) hnext
    rw [reverse_cons_characters] at hothers
    rw [readSegments]
    simp only [hrest, ne_eq, not_true_eq_false, if_false, hdoubled, hbrace]
    exact hothers
  | @character x items cs hx h ih =>
    rw [List.length_cons] at hlimit
    obtain ⟨limit, rfl⟩ : ∃ k, limit = k + 1 := ⟨limit - 1, by omega⟩
    have hnext : c.next.rest = cs := by rw [Cursor.next_rest, hrest, List.tail_cons]
    have hothers : readSegments marker limit (x :: read) c.next = _ :=
      ih (by omega) (by simpa) hnext
    rw [reverse_cons_characters] at hothers
    rw [readSegments]
    simp only [hrest, ne_eq, hx, not_false_eq_true, if_true]
    exact hothers

theorem readSegments_of_derives {source : String} {marker : Char} {result : List Segment}
    (h : Derives marker source result) :
    readSegments marker source.toList.length [] (.start source) = .ok result := by
  obtain ⟨items, hitems, rfl⟩ := h
  exact readSegments_complete hitems le_rfl rfl rfl

/-- The grammar is unambiguous. -/
theorem Grammar.Derives.unique {source : String} {marker : Char} {result other : List Segment}
    (h : Derives marker source result) (h' : Derives marker source other) : result = other := by
  have hread := readSegments_of_derives h
  rw [readSegments_of_derives h'] at hread
  exact (Except.ok.inj hread).symm

theorem compile_of_derives {source : String} {marker : Char} {result : List Segment}
    (hsize : source.utf8ByteSize ≤ maxSourceBytes) (h : Derives marker source result) :
    Template.compile source marker = .ok ⟨source, result⟩ := by
  rw [Template.compile, if_neg (not_lt.2 hsize), readSegments_of_derives h]
  rfl

theorem derives_of_compile {source : String} {marker : Char} {t : Template}
    (h : Template.compile source marker = .ok t) : Derives marker source t.segments := by
  unfold Template.compile at h
  split at h
  · cases h
  · obtain ⟨segments, hread, hresult⟩ := Outcome.bind_eq_ok_iff.1 h
    cases hresult
    have hlimit : (Cursor.start source).rest.length ≤ source.toList.length := le_rfl
    exact readSegments_sound hlimit rfl hread

theorem utf8ByteSize_le_of_compile {source : String} {marker : Char} {t : Template}
    (h : Template.compile source marker = .ok t) : source.utf8ByteSize ≤ maxSourceBytes := by
  unfold Template.compile at h
  split at h
  · cases h
  next hsize => exact not_lt.1 hsize

theorem source_of_compile {source : String} {marker : Char} {t : Template}
    (h : Template.compile source marker = .ok t) : t.source = source := by
  unfold Template.compile at h
  split at h
  · cases h
  · obtain ⟨segments, -, hresult⟩ := Outcome.bind_eq_ok_iff.1 h
    cases hresult
    rfl

theorem mem_of_mem_segmentsOf {items : List Item} {e : Expr}
    (h : .placeholder e ∈ segmentsOf items) : .placeholder e ∈ items := by
  induction items with
  | nil => cases h
  | cons item items ih =>
    cases item with
    | placeholder other =>
      rw [segmentsOf, List.mem_cons, Segment.placeholder.injEq] at h
      rcases h with rfl | h
      · exact List.mem_cons_self
      · exact List.mem_cons_of_mem _ (ih h)
    | character c =>
      apply List.mem_cons_of_mem
      apply ih
      unfold segmentsOf at h
      split at h
      next run others hitems =>
        rw [hitems]
        rcases List.mem_cons.1 h with h | h
        · cases h
        · exact List.mem_cons_of_mem _ h
      next =>
        rcases List.mem_cons.1 h with h | h
        · cases h
        · exact h

theorem Grammar.Reads.exists_spells {marker : Char} {items : List Item} {cs : List Char} {e : Expr}
    (h : Reads marker items cs) (he : .placeholder e ∈ items) :
    ∃ word, word <:+: cs ∧ Spells .filtered maxNesting e word := by
  induction h with
  | nil => cases he
  | @doubled items cs _ ih =>
    obtain ⟨word, hword, hspells⟩ := ih (by simpa using he)
    exact ⟨word, hword.trans (List.suffix_append [marker, marker] cs).isInfix, hspells⟩
  | @placeholder other items word cs _ hspells _ ih =>
    rcases List.mem_cons.1 he with he | he
    · cases he
      exact ⟨word, ⟨[marker, '\x7b'], '\x7d' :: cs, by simp⟩, hspells⟩
    · obtain ⟨part, hpart, hpartSpells⟩ := ih he
      have hcs : cs <:+ marker :: '\x7b' :: (word ++ '\x7d' :: cs) :=
        ⟨marker :: '\x7b' :: (word ++ ['\x7d']), by simp⟩
      exact ⟨part, hpart.trans hcs.isInfix, hpartSpells⟩
  | @marker items cs _ _ _ ih =>
    obtain ⟨word, hword, hspells⟩ := ih (by simpa using he)
    exact ⟨word, hword.trans (List.suffix_cons marker cs).isInfix, hspells⟩
  | @character c items cs _ _ ih =>
    obtain ⟨word, hword, hspells⟩ := ih (by simpa using he)
    exact ⟨word, hword.trans (List.suffix_cons c cs).isInfix, hspells⟩

theorem exists_spells_of_compile {source : String} {marker : Char} {t : Template} {e : Expr}
    (h : Template.compile source marker = .ok t) (he : .placeholder e ∈ t.segments) :
    ∃ word, word <:+: source.toList ∧ Spells .filtered maxNesting e word := by
  obtain ⟨items, hitems, hsegments⟩ := derives_of_compile h
  rw [← hsegments] at he
  exact hitems.exists_spells (mem_of_mem_segmentsOf he)

def placeholderSource (marker : Char) (word : List Char) : String :=
  String.ofList (marker :: '\x7b' :: (word ++ ['\x7d']))

theorem toList_placeholderSource (marker : Char) (word : List Char) :
    (placeholderSource marker word).toList = marker :: '\x7b' :: (word ++ ['\x7d']) :=
  String.toList_ofList

/-- With another marker than the brace, a word of an expression between braces is its placeholder. -/
theorem compile_placeholderSource {marker : Char} {e : Expr} {word : List Char}
    (hmarker : marker ≠ '\x7b') (h : Spells .filtered maxNesting e word)
    (hsize : (placeholderSource marker word).utf8ByteSize ≤ maxSourceBytes) :
    Template.compile (placeholderSource marker word) marker =
      .ok ⟨placeholderSource marker word, [.placeholder e]⟩ := by
  apply compile_of_derives hsize
  refine ⟨[.placeholder e], ?_, rfl⟩
  rw [toList_placeholderSource]
  exact .placeholder hmarker h .nil

theorem compile_variable {marker : Char} {name : String} (hmarker : marker ≠ '\x7b')
    (hname : IsIdentifier name.toList)
    (hsize : (placeholderSource marker name.toList).utf8ByteSize ≤ maxSourceBytes) :
    Template.compile (placeholderSource marker name.toList) marker =
      .ok ⟨placeholderSource marker name.toList, [.placeholder (.variable name)]⟩ := by
  have hspells : Spells .filtered maxNesting (.variable name) name.toList :=
    .ofSum (.ofTerm (.ofPrimary (spells_variable hname)))
  exact compile_placeholderSource hmarker hspells hsize

/-- A source within the limit compiles to a template exactly when it derives the segments of the
template; a longer source does not compile. -/
theorem compile_eq_ok_iff_derives {source : String} {marker : Char} {t : Template} :
    Template.compile source marker = .ok t ↔
      source.utf8ByteSize ≤ maxSourceBytes ∧ t.source = source ∧
        Derives marker source t.segments := by
  unfold Template.compile
  constructor
  · intro h
    split at h
    · cases h
    next hsize =>
      obtain ⟨segments, hread, hresult⟩ := Outcome.bind_eq_ok_iff.1 h
      cases hresult
      have hlimit : (Cursor.start source).rest.length ≤ source.toList.length := le_rfl
      obtain ⟨items, hitems, hsegments⟩ := readSegments_sound hlimit rfl hread
      exact ⟨not_lt.1 hsize, rfl, items, hitems, hsegments⟩
  · rintro ⟨hsize, hsource, hderives⟩
    rw [if_neg (not_lt.2 hsize), readSegments_of_derives hderives, ← hsource]
    rfl

example : Template.compile "$$\x7bmail\x7d$\x7b mail[-1] |scope \x7d" '$' = .ok
    ⟨"$$\x7bmail\x7d$\x7b mail[-1] |scope \x7d",
      [.text "$\x7bmail\x7d",
        .placeholder (.call "scope" (.index (.variable "mail") (-1)))]⟩ := by
  decide

end AttributeProfiles.Template
