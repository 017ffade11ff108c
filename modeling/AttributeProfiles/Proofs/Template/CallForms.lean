import AttributeProfiles.Proofs.Template.Depth
import AttributeProfiles.Proofs.Template.Nesting
import AttributeProfiles.Proofs.Template.Segments

/-!
# Forms of a call

A function can be applied to an expression as a filter behind it or as a call around it, and both
give the same call. Parentheses around an expression give the expression. Whatever the expression
is, reading it ends at the same place before a filter sign, a parenthesis or a brace. A filter takes
no nesting. A call and a group take one more than the expression, so they are refused where it has
used up the nesting that there is, and nowhere else.
-/

namespace AttributeProfiles.Template

open Grammar

def filterForm (function : String) (word : List Char) : List Char :=
  word ++ (" | ".toList ++ function.toList)

def callForm (function : String) (word : List Char) : List Char :=
  function.toList ++ (['('] ++ (word ++ [')']))

def groupForm (word : List Char) : List Char := ['('] ++ (word ++ [')'])

/-- A placeholder of this word is short enough to be a source. -/
def Fits (marker : Char) (word : List Char) : Prop :=
  (placeholderSource marker word).utf8ByteSize ≤ maxSourceBytes

theorem fits_iff {marker : Char} {word : List Char} :
    Fits marker word ↔ marker.utf8Size + Text.byteLength word + 2 ≤ maxSourceBytes := by
  have hbraces : '\x7b'.utf8Size = 1 ∧ '\x7d'.utf8Size = 1 := by decide
  rw [Fits, Text.utf8ByteSize_eq_byteLength, toList_placeholderSource]
  simp only [Text.byteLength_cons, Text.byteLength_append, Text.byteLength_nil, hbraces]
  omega

/-- A placeholder of this word compiles to this expression and nothing else. -/
def ReadsAs (marker : Char) (word : List Char) (e : Expr) : Prop :=
  Template.compile (placeholderSource marker word) marker =
    .ok ⟨placeholderSource marker word, [.placeholder e]⟩

/-- A placeholder of this word is refused because expressions are nested too deeply in it. -/
def TooDeep (marker : Char) (word : List Char) : Prop :=
  Template.compile (placeholderSource marker word) marker = .error (.tooComplex .nesting)

variable {marker : Char} {word : List Char} {e : Expr} {function : String}

theorem ReadsAs.not_tooDeep (h : ReadsAs marker word e) : ¬ TooDeep marker word := by
  intro hdeep
  rw [TooDeep, h] at hdeep
  cases hdeep

theorem TooDeep.fits (h : TooDeep marker word) : Fits marker word := by
  by_contra hlong
  rw [TooDeep, Template.compile, if_pos (Nat.not_le.1 hlong)] at h
  cases h

theorem ReadsAs.spells (h : ReadsAs marker word e) :
    marker ≠ '\x7b' ∧ Spells .filtered maxNesting e word := by
  obtain ⟨items, hitems, hsegments⟩ := derives_of_compile h
  have hcharacter : ∀ c others, items ≠ .character c :: others := by
    rintro c others rfl
    obtain ⟨run, rest, htext⟩ := exists_text_of_character c others
    rw [htext] at hsegments
    cases hsegments
  rw [toList_placeholderSource] at hitems
  generalize hcs : marker :: '\x7b' :: (word ++ ['\x7d']) = cs at hitems
  cases hitems with
  | nil => cases hcs
  | doubled _ => exact absurd rfl (hcharacter _ _)
  | marker _ _ _ => exact absurd rfl (hcharacter _ _)
  | character _ _ => exact absurd rfl (hcharacter _ _)
  | placeholder hmarker hspells hothers =>
    rw [segmentsOf, List.cons.injEq, Segment.placeholder.injEq, segmentsOf_eq_nil_iff] at hsegments
    obtain ⟨rfl, rfl⟩ := hsegments
    cases hothers
    simp only [List.cons.injEq, true_and, List.append_cancel_right_eq] at hcs
    subst hcs
    exact ⟨hmarker, hspells⟩

theorem ReadsAs.filter (h : ReadsAs marker word e) (hfunction : function ∈ builtins)
    (hsize : Fits marker (filterForm function word)) :
    ReadsAs marker (filterForm function word) (.call function e) := by
  obtain ⟨hmarker, hspells⟩ := h.spells
  have hblank : ∀ c ∈ [' '], Text.isBlank c := List.forall_mem_singleton.2 rfl
  have hbar : Token ['|'] " | ".toList := ⟨[' '], [' '], hblank, hblank, rfl⟩
  exact compile_placeholderSource hmarker (.filter hspells hbar hfunction (token_self _)) hsize

theorem ReadsAs.call (h : ReadsAs marker word e) (hfunction : function ∈ builtins)
    (hroom : Spells .filtered (maxNesting - 1) e word)
    (hsize : Fits marker (callForm function word)) :
    ReadsAs marker (callForm function word) (.call function e) := by
  have hcall : Spells .primary (maxNesting - 1) (.call function e) (callForm function word) :=
    .call hfunction (token_self _) (token_self _) hroom (token_self _)
  exact compile_placeholderSource h.spells.1 (.ofSum (.ofTerm (.ofPrimary hcall))) hsize

theorem ReadsAs.group (h : ReadsAs marker word e)
    (hroom : Spells .filtered (maxNesting - 1) e word) (hsize : Fits marker (groupForm word)) :
    ReadsAs marker (groupForm word) e := by
  have hgroup : Spells .primary (maxNesting - 1) e (groupForm word) :=
    .group (token_self _) hroom (token_self _)
  exact compile_placeholderSource h.spells.1 (.ofSum (.ofTerm (.ofPrimary hgroup))) hsize

namespace Cursor

theorem shallower_deeper_eq_self {c : Cursor} (h : 0 < c.depth) : c.shallower.deeper = c := by
  have hdepth : c.depth - 1 + 1 = c.depth := by omega
  simp only [deeper, shallower, hdepth]

theorem skipBlanks_eq_self {c : Cursor} {x : Char} {rest : List Char} (hrest : c.rest = x :: rest)
    (hx : Text.isBlank x = false) : c.skipBlanks = c := by
  have htake : c.rest.takeWhile Text.isBlank = [] := by
    rw [hrest]
    exact List.takeWhile_cons_of_neg (by simp [hx])
  have hdrop : c.rest.dropWhile Text.isBlank = c.rest := by
    rw [hrest]
    exact List.dropWhile_cons_of_neg (by simp [hx])
  simp only [skipBlanks, skipWhile, htake, hdrop, Text.byteLength_nil, Nat.add_zero]

theorem skipBlanks_of_isIdentifier {c : Cursor} {name rest : List Char} (hname : IsIdentifier name)
    (hrest : c.rest = name ++ rest) : c.skipBlanks = c := by
  obtain ⟨x, xs, rfl, hx, -⟩ := hname
  exact skipBlanks_eq_self hrest
    (isBlank_eq_false_of_isIdentifierPart (isIdentifierPart_of_start hx))

end Cursor

theorem readIdentifier_of_rest {c : Cursor} {name rest : List Char} {x : Char}
    (hname : IsIdentifier name) (hx : isIdentifierPart x = false)
    (hrest : c.rest = name ++ x :: rest) :
    ∃ c', readIdentifier c = .ok (String.ofList name, c') ∧ c.Passes name c' := by
  obtain ⟨y, ys, rfl, hy, hys⟩ := hname
  have hall : ∀ d ∈ y :: ys, isIdentifierPart d := by
    intro d hd
    rcases List.mem_cons.1 hd with rfl | hd
    · exact isIdentifierPart_of_start hy
    · exact hys d hd
  have htake : c.rest.takeWhile isIdentifierPart = y :: ys := by
    rw [hrest, List.takeWhile_append_of_pos hall, List.takeWhile_cons_of_neg (by simp [hx]),
      List.append_nil]
  have hpass := Cursor.Passes.skipWhile isIdentifierPart c
  rw [htake] at hpass
  refine ⟨c.skipWhile isIdentifierPart, ?_, hpass⟩
  rw [readIdentifier, if_pos, htake]
  rw [hrest]
  exact hy

theorem dropWhile_isBlank_closing (rest : List Char) :
    (')' :: rest).dropWhile Text.isBlank = ')' :: rest :=
  List.dropWhile_cons_of_neg (by decide)

/-- What is read up to a closing parenthesis is spelled by all that stands before the parenthesis,
blanks at the end included. -/
theorem spells_of_readFiltered {limit : Nat} {rest : List Char} {c c' : Cursor}
    (h : readFiltered limit c = .ok (e, c')) (hrest : c.rest = word ++ ')' :: rest)
    (hbefore : c'.Before (')' :: rest)) : Spells .filtered (maxNesting - c.depth) e word := by
  obtain ⟨read, hpass, hspells⟩ := readFiltered_sound limit _ _ _ h
  have hdrop : c'.rest.dropWhile Text.isBlank = ')' :: rest :=
    hbefore.trans (dropWhile_isBlank_closing rest)
  have hafter : c'.rest = c'.rest.takeWhile Text.isBlank ++ ')' :: rest := by
    rw [← hdrop, List.takeWhile_append_dropWhile]
  have hword : word = read ++ c'.rest.takeWhile Text.isBlank := by
    have hsplit : c.rest = read ++ c'.rest := hpass.rest
    rw [hrest, hafter, ← List.append_assoc] at hsplit
    exact List.append_cancel_right hsplit
  rw [hword]
  exact hspells.append_blanks fun _ => List.mem_takeWhile_imp

/-- Without room for one more expression around it, an expression that is read outside of all others
is refused inside one. -/
theorem readFiltered_eq_error {limit : Nat} {rest : List Char} {c : Cursor}
    (h : Spells .filtered maxNesting e word) (hroom : ¬ Spells .filtered (maxNesting - 1) e word)
    (hrest : c.rest = word ++ ')' :: rest) (hdepth : c.depth = 1) (hlimit : c.rest.length ≤ limit) :
    readFiltered limit c = .error (.tooComplex .nesting) := by
  have hbefore : c.shallower.Before (word ++ ')' :: rest) :=
    congrArg (List.dropWhile Text.isBlank) hrest
  have hnesting : c.shallower.depth + maxNesting ≤ maxNesting := by
    simp only [Cursor.shallower, hdepth]
    omega
  have hstops : Stops [')', '\x7d'] (')' :: rest) :=
    ⟨')', List.mem_cons_self, by rw [dropWhile_isBlank_closing, List.head?_cons]⟩
  obtain ⟨c₁, hreach, hread⟩ := h.isComplete.readFiltered hbefore hnesting hstops hlimit
  have hdeepens := readFiltered_deepens limit c.shallower
  rw [Cursor.shallower_deeper_eq_self (by omega), hread] at hdeepens
  rcases hdeepens with herror | hsame
  · exact herror
  · -- If it were read here, it would be spelled with the nesting that is left here.
    have hspells := spells_of_readFiltered hsame hrest hreach.before
    rw [hdepth] at hspells
    exact absurd hspells hroom

theorem readFiltered_next_eq_error {limit : Nat} {rest : List Char} {c : Cursor}
    (h : Spells .filtered maxNesting e word) (hroom : ¬ Spells .filtered (maxNesting - 1) e word)
    (hopening : c.rest = '(' :: (word ++ ')' :: rest)) (hdepth : c.depth = 1)
    (hlimit : c.rest.length ≤ limit + 1) :
    readFiltered limit c.next = .error (.tooComplex .nesting) := by
  have hnext : c.next.rest = word ++ ')' :: rest := by
    rw [Cursor.next_rest, hopening, List.tail_cons]
  apply readFiltered_eq_error h hroom hnext
  · rw [Cursor.next_depth, hdepth]
  · rw [Cursor.next_rest, List.length_tail]
    omega

theorem readPlaceholder_eq_error {c : Cursor} {cause : Error} (hrest : c.rest = word ++ ['\x7d'])
    (hdepth : c.depth = 0) (h : readTerm (readFiltered word.length) c.deeper = .error cause) :
    readPlaceholder c = .error cause := by
  have hlength : (word ++ ['\x7d']).length = word.length + 1 := by simp
  have hnesting : ¬ maxNesting ≤ 0 := by decide
  rw [readPlaceholder, hrest, hlength, readFiltered, hdepth, if_neg hnesting, readSum, h]
  rfl

/-- The first term of a source that is one placeholder begins behind the marker and the brace, and
its error is that of the source. -/
theorem compile_eq_error_of_readTerm {cause : Error} (hmarker : marker ≠ '\x7b')
    (hsize : Fits marker word)
    (h : readTerm (readFiltered word.length)
      ⟨word ++ ['\x7d'], Text.byteLength [marker, '\x7b'], 1⟩ = .error cause) :
    Template.compile (placeholderSource marker word) marker = .error cause := by
  have hstart : (Cursor.start (placeholderSource marker word)).rest =
      marker :: '\x7b' :: (word ++ ['\x7d']) := toList_placeholderSource marker word
  have hnext : (Cursor.start (placeholderSource marker word)).next.next =
      ⟨word ++ ['\x7d'], Text.byteLength [marker, '\x7b'], 0⟩ := by
    rw [Cursor.start, toList_placeholderSource]
    simp [Cursor.next]
  have hread : readPlaceholder (Cursor.start (placeholderSource marker word)).next.next =
      .error cause := by
    rw [hnext]
    exact readPlaceholder_eq_error rfl rfl h
  have hlength : (placeholderSource marker word).toList.length = word.length + 2 + 1 := by
    simp [toList_placeholderSource]
  have hdoubled : (some '\x7b' : Option Char) ≠ some marker := by
    rw [ne_eq, Option.some.injEq]
    exact hmarker.symm
  rw [Template.compile, if_neg (Nat.not_lt.2 hsize), hlength, readSegments, hstart]
  simp only [ne_eq, not_true_eq_false, if_false, List.head?_cons, hdoubled, if_true, hread, bind,
    Except.bind]

theorem compile_eq_error {cause : Error} (hmarker : marker ≠ '\x7b') (hsize : Fits marker word)
    (h : ∀ c : Cursor, c.rest = word ++ ['\x7d'] → c.depth = 1 →
      readPrimary (readFiltered word.length) c = .error cause) :
    Template.compile (placeholderSource marker word) marker = .error cause := by
  apply compile_eq_error_of_readTerm hmarker hsize
  rw [readTerm, h _ rfl rfl]
  rfl

theorem ReadsAs.tooDeep_group (h : ReadsAs marker word e)
    (hroom : ¬ Spells .filtered (maxNesting - 1) e word) (hsize : Fits marker (groupForm word)) :
    TooDeep marker (groupForm word) := by
  obtain ⟨hmarker, hspells⟩ := h.spells
  apply compile_eq_error hmarker hsize
  intro c hrest hdepth
  have hopening : c.rest = '(' :: (word ++ ')' :: ['\x7d']) := by
    rw [hrest, groupForm]
    simp
  have hlimit : c.rest.length ≤ (groupForm word).length + 1 := by simp [hrest]
  have hnested := readFiltered_next_eq_error hspells hroom hopening hdepth hlimit
  have hquote : ¬ ('(' = '"' ∨ '(' = '\'') := by decide
  have hself : c.skipBlanks = c := Cursor.skipBlanks_eq_self hopening (by decide)
  simp only [readPrimary, hself, hopening, if_neg hquote, if_true, hnested, bind, Except.bind]

theorem ReadsAs.tooDeep_call (h : ReadsAs marker word e) (hfunction : function ∈ builtins)
    (hroom : ¬ Spells .filtered (maxNesting - 1) e word)
    (hsize : Fits marker (callForm function word)) :
    TooDeep marker (callForm function word) := by
  obtain ⟨hmarker, hspells⟩ := h.spells
  apply compile_eq_error hmarker hsize
  intro c hrest hdepth
  have hname : IsIdentifier function.toList := isIdentifier_of_mem_builtins hfunction
  have hcall : c.rest = function.toList ++ '(' :: (word ++ ')' :: ['\x7d']) := by
    rw [hrest, callForm]
    simp
  obtain ⟨c₁, hread, hpass⟩ := readIdentifier_of_rest hname (by decide) hcall
  have hopening : c₁.rest = '(' :: (word ++ ')' :: ['\x7d']) :=
    List.append_cancel_left (hpass.rest.symm.trans hcall)
  have hlimit : c₁.rest.length ≤ (callForm function word).length + 1 := by
    have hlength := congrArg List.length (hpass.rest.symm.trans hrest)
    simp only [List.length_append, List.length_singleton] at hlength
    omega
  have hdepth₁ : c₁.depth = 1 := hpass.depth.trans hdepth
  have hnested := readFiltered_next_eq_error hspells hroom hopening hdepth₁ hlimit
  have heat : c₁.eat? '(' = some c₁.next := by
    rw [Cursor.eat?, Cursor.skipBlanks_eq_self hopening (by decide), hopening,
      if_pos List.head?_cons]
  have hself : c.skipBlanks = c := Cursor.skipBlanks_of_isIdentifier hname hcall
  have hbefore : c.Before (function.toList ++ '(' :: (word ++ ')' :: ['\x7d'])) := by
    rw [Cursor.Before, hcall]
  obtain ⟨x, xs, hcons, hquote, hgroup, hx⟩ :=
    exists_cons_of_isIdentifier hname (token_self _) hbefore
  rw [hself] at hcons
  simp only [readPrimary, hself, hcons, if_neg hquote, if_neg hgroup, if_pos hx, hread, heat,
    hnested, bind, Except.bind]

/-- A form that is read where one more expression has room around a word, and is too deep where it
has none, is read unless it is too deep. -/
theorem reads_or_tooDeep {form : List Char} {result : Expr}
    (hreads : Spells .filtered (maxNesting - 1) e word → Fits marker form →
      ReadsAs marker form result)
    (hdeep : ¬ Spells .filtered (maxNesting - 1) e word → Fits marker form →
      TooDeep marker form) :
    (Fits marker form → ¬ TooDeep marker form → ReadsAs marker form result) ∧
      (TooDeep marker form ↔ Fits marker form ∧ ¬ Spells .filtered (maxNesting - 1) e word) := by
  refine ⟨?_, ?_, ?_⟩
  · intro hsize hshallow
    by_cases hroom : Spells .filtered (maxNesting - 1) e word
    · exact hreads hroom hsize
    · exact absurd (hdeep hroom hsize) hshallow
  · intro htooDeep
    refine ⟨htooDeep.fits, ?_⟩
    intro hroom
    exact (hreads hroom htooDeep.fits).not_tooDeep htooDeep
  · rintro ⟨hsize, hroom⟩
    exact hdeep hroom hsize

/-- The forms of a call agree. Around whatever one placeholder compiles to, within the limit on
sources, a function as a filter and as a call gives the same call, and parentheses give the
expression, unless they are nested too deeply. A filter never is. A call and a group are exactly
where the word has no reading with one level of nesting less. -/
theorem call_forms_agree (h : ReadsAs marker word e) (hfunction : function ∈ builtins) :
    ((Fits marker (filterForm function word) →
        ReadsAs marker (filterForm function word) (.call function e)) ∧
      ¬ TooDeep marker (filterForm function word)) ∧
    ((Fits marker (callForm function word) → ¬ TooDeep marker (callForm function word) →
        ReadsAs marker (callForm function word) (.call function e)) ∧
      (TooDeep marker (callForm function word) ↔
        Fits marker (callForm function word) ∧ ¬ Spells .filtered (maxNesting - 1) e word)) ∧
    ((Fits marker (groupForm word) → ¬ TooDeep marker (groupForm word) →
        ReadsAs marker (groupForm word) e) ∧
      (TooDeep marker (groupForm word) ↔
        Fits marker (groupForm word) ∧ ¬ Spells .filtered (maxNesting - 1) e word)) := by
  refine ⟨⟨h.filter hfunction, ?_⟩, ?_, ?_⟩
  · intro hdeep
    exact (h.filter hfunction hdeep.fits).not_tooDeep hdeep
  · exact reads_or_tooDeep (h.call hfunction) (h.tooDeep_call hfunction)
  · exact reads_or_tooDeep h.group h.tooDeep_group

/-- With all the nesting that there is, one more filter is possible, and one more call or group is
not. With less they all are. -/
theorem call_forms_agree_calledWord :
    ReadsAs '$' (calledWord 0 31) (scopeTimes 31) ∧
      ReadsAs '$' (filterForm "scope" (calledWord 0 31)) (scopeTimes 32) ∧
      TooDeep '$' (callForm "scope" (calledWord 0 31)) ∧
      TooDeep '$' (groupForm (calledWord 0 31)) ∧
      ReadsAs '$' (callForm "scope" (calledWord 0 30)) (scopeTimes 31) ∧
      ReadsAs '$' (groupForm (calledWord 0 30)) (scopeTimes 30) := by
  have hfull : ReadsAs '$' (calledWord 0 31) (scopeTimes 31) :=
    compile_calledWord 0 31 (by decide) (by decide)
  have hless : ReadsAs '$' (calledWord 0 30) (scopeTimes 30) :=
    compile_calledWord 0 30 (by decide) (by decide)
  have hdeep : ¬ Spells .filtered (maxNesting - 1) (scopeTimes 31) (calledWord 0 31) := by
    intro hspells
    have hbound := hspells.callDepth_le
    rw [callDepth_scopeTimes, count_calledWord] at hbound
    exact absurd hbound (by decide)
  have hroom : Spells .filtered (maxNesting - 1) (scopeTimes 30) (calledWord 0 30) :=
    spells_calledWord 0 0 30
  have hscope : "scope" ∈ builtins := mem_builtins.2 rfl
  obtain ⟨⟨hfilter, -⟩, ⟨-, hcall⟩, -, hgroup⟩ := call_forms_agree hfull hscope
  obtain ⟨-, ⟨hcallReads, hcallDeep⟩, hgroupReads, hgroupDeep⟩ := call_forms_agree hless hscope
  have hfits : ∀ calls ≤ 31, Fits '$' (filterForm "scope" (calledWord 0 calls)) ∧
      Fits '$' (callForm "scope" (calledWord 0 calls)) ∧
        Fits '$' (groupForm (calledWord 0 calls)) := by
    intro calls hcalls
    have hsizes : '$'.utf8Size = 1 ∧ Text.byteLength " | ".toList = 3 ∧
        Text.byteLength ['('] = 1 ∧ Text.byteLength [')'] = 1 ∧ maxSourceBytes = 4096 := by
      decide
    simp only [fits_iff, filterForm, callForm, groupForm, Text.byteLength_append,
      byteLength_calledWord, byteLength_scope, hsizes]
    omega
  obtain ⟨hfilterFull, hcallFull, hgroupFull⟩ := hfits 31 le_rfl
  obtain ⟨-, hcallLess, hgroupLess⟩ := hfits 30 (by omega)
  refine ⟨hfull, hfilter hfilterFull, hcall.2 ⟨hcallFull, hdeep⟩, hgroup.2 ⟨hgroupFull, hdeep⟩,
    hcallReads hcallLess ?_, hgroupReads hgroupLess ?_⟩
  · intro htooDeep
    exact (hcallDeep.1 htooDeep).2 hroom
  · intro htooDeep
    exact (hgroupDeep.1 htooDeep).2 hroom

end AttributeProfiles.Template
