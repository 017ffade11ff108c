import AttributeProfiles.Template.Reader

/-!
# The grammar of templates

The grammar says which texts are templates and which segments they stand for, without saying how
they are read. Expressions are built in four layers, as in

    filtered := sum ('|' identifier)*
    sum      := term ('+' term)*
    term     := primary ('[' integer ']')*
    primary  := literal | identifier | identifier '(' filtered ')' | '(' filtered ')'

with every operator to the left, blanks around every token, and at most `maxNesting` filtered
expressions inside each other. Outside placeholders a template is read from left to right.
-/

namespace AttributeProfiles.Template.Grammar

/-- A token: its spelling with blanks before and after it. -/
def Token (spelling word : List Char) : Prop :=
  ∃ before after, (∀ c ∈ before, Text.isBlank c) ∧ (∀ c ∈ after, Text.isBlank c) ∧
    word = before ++ spelling ++ after

theorem token_self (spelling : List Char) : Token spelling spelling :=
  ⟨[], [], by simp, by simp, by simp⟩

/-- Identifiers are a letter or an underscore, then letters, digits and underscores. -/
def IsIdentifier (word : List Char) : Prop :=
  ∃ c cs, word = c :: cs ∧ isIdentifierStart c ∧ ∀ d ∈ cs, isIdentifierPart d

theorem isIdentifier_cons_iff {c : Char} {cs : List Char} :
    IsIdentifier (c :: cs) ↔ (isIdentifierStart c && cs.all isIdentifierPart) = true := by
  rw [Bool.and_eq_true, List.all_eq_true]
  constructor
  · rintro ⟨x, xs, hword, hx, hxs⟩
    cases hword
    exact ⟨hx, hxs⟩
  · rintro ⟨hc, hcs⟩
    exact ⟨c, cs, rfl, hc, hcs⟩

instance : (word : List Char) → Decidable (IsIdentifier word)
  | [] => isFalse (by rintro ⟨c, cs, hword, -⟩; cases hword)
  | _ :: _ => decidable_of_iff _ isIdentifier_cons_iff.symm

/-- The spellings of an integer of 64 bits: decimal digits, after a minus or not. -/
def SpellsInteger (value : Int) (word : List Char) : Prop :=
  ∃ negative digits, word = (if negative then ['-'] else []) ++ digits ∧ digits ≠ [] ∧
    (∀ c ∈ digits, c.isDigit) ∧ value = Word.signed negative (Digits.number 10 digits) ∧
    Word.IsSigned value

inductive Escape : Char → Char → Prop
  | newline : Escape 'n' '\n'
  | tab : Escape 't' '\t'
  | backslash : Escape '\\' '\\'
  | doubleQuote : Escape '"' '"'
  | singleQuote : Escape '\'' '\''

/-- What stands between the quotes of a literal, with the content that it spells. -/
inductive SpellsContent (quote : Char) : List Char → List Char → Prop
  | nil : SpellsContent quote [] []
  | plain {c content word} (hquote : c ≠ quote) (hbackslash : c ≠ '\\')
      (h : SpellsContent quote content word) : SpellsContent quote (c :: content) (c :: word)
  | escaped {c d content word} (he : Escape c d) (h : SpellsContent quote content word) :
      SpellsContent quote (d :: content) ('\\' :: c :: word)

def SpellsLiteral (content word : List Char) : Prop :=
  ∃ quote body, (quote = '"' ∨ quote = '\'') ∧ SpellsContent quote content body ∧
    word = quote :: body ++ [quote]

inductive Layer where
  | primary
  | term
  | sum
  | filtered

/-- The words of an expression in a layer, with at most `n` filtered expressions inside each
other. -/
inductive Spells : Layer → Nat → Expr → List Char → Prop
  | literal {n content spelling word} (h : SpellsLiteral content spelling)
      (ht : Token spelling word) : Spells .primary n (.literal (String.ofList content)) word
  | reference {n name word} (h : IsIdentifier name) (ht : Token name word) :
      Spells .primary n (.variable (String.ofList name)) word
  | call {n function argument name opening word closing} (hfunction : function ∈ builtins)
      (hname : Token function.toList name) (hopening : Token ['('] opening)
      (h : Spells .filtered n argument word) (hclosing : Token [')'] closing) :
      Spells .primary n (.call function argument) (name ++ (opening ++ (word ++ closing)))
  | group {n e opening word closing} (hopening : Token ['('] opening)
      (h : Spells .filtered n e word) (hclosing : Token [')'] closing) :
      Spells .primary n e (opening ++ (word ++ closing))
  | ofPrimary {n e word} (h : Spells .primary n e word) : Spells .term n e word
  | index {n e position word opening spelling digits closing} (h : Spells .term n e word)
      (hopening : Token ['['] opening) (hposition : SpellsInteger position spelling)
      (hdigits : Token spelling digits) (hclosing : Token [']'] closing) :
      Spells .term n (.index e position) (word ++ (opening ++ (digits ++ closing)))
  | ofTerm {n e word} (h : Spells .term n e word) : Spells .sum n e word
  | concat {n left right word plus other} (hl : Spells .sum n left word)
      (hplus : Token ['+'] plus) (hr : Spells .term n right other) :
      Spells .sum n (.concat left right) (word ++ (plus ++ other))
  | ofSum {n e word} (h : Spells .sum n e word) : Spells .filtered (n + 1) e word
  | filter {n e function word bar name} (h : Spells .filtered n e word)
      (hbar : Token ['|'] bar) (hfunction : function ∈ builtins)
      (hname : Token function.toList name) :
      Spells .filtered n (.call function e) (word ++ (bar ++ name))

theorem spells_variable {n : Nat} {name : String} (h : IsIdentifier name.toList) :
    Spells .primary n (.variable name) name.toList := by
  have hname : Spells .primary n (.variable (String.ofList name.toList)) name.toList :=
    .reference h (token_self _)
  rwa [String.ofList_toList] at hname

/-- What a template is made of: characters that stand for themselves, and placeholders. -/
inductive Item where
  | character (c : Char)
  | placeholder (e : Expr)

/-- The items of a template, read from left to right. A doubled marker is one marker, whatever
follows it; another marker before a brace opens a placeholder, and there is no other reading of it;
every other character stands for itself. -/
inductive Reads (marker : Char) : List Item → List Char → Prop
  | nil : Reads marker [] []
  | doubled {items cs} (h : Reads marker items cs) :
      Reads marker (.character marker :: items) (marker :: marker :: cs)
  | placeholder {e items word cs} (hmarker : marker ≠ '\x7b')
      (he : Spells .filtered maxNesting e word) (h : Reads marker items cs) :
      Reads marker (.placeholder e :: items) (marker :: '\x7b' :: (word ++ '\x7d' :: cs))
  | marker {items cs} (hdoubled : cs.head? ≠ some marker) (hbrace : cs.head? ≠ some '\x7b')
      (h : Reads marker items cs) : Reads marker (.character marker :: items) (marker :: cs)
  | character {c items cs} (hc : c ≠ marker) (h : Reads marker items cs) :
      Reads marker (.character c :: items) (c :: cs)

/-- The segments of a list of items: each maximal run of characters is one text. -/
def segmentsOf : List Item → List Segment
  | [] => []
  | .placeholder e :: items => .placeholder e :: segmentsOf items
  | .character c :: items =>
    match segmentsOf items with
    | .text run :: others => .text (String.ofList (c :: run.toList)) :: others
    | others => .text (String.ofList [c]) :: others

def Derives (marker : Char) (source : String) (result : List Segment) : Prop :=
  ∃ items, Reads marker items source.toList ∧ segmentsOf items = result

end AttributeProfiles.Template.Grammar
