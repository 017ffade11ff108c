import AttributeProfiles.Proofs.Template.Compilation
import AttributeProfiles.Proofs.Template.Operations
import AttributeProfiles.Proofs.Template.Segments
import AttributeProfiles.Proofs.Template.Variables

/-!
# What can still fail after compiling

Compiling settles what a template is made of: texts that are neither empty nor side by side,
variables that are identifiers of the source, and calls of functions that there are. It settles
neither kinds nor anything that depends on a record, so rendering can still fail, but no longer for
the syntax of the source or for a function that it names.
-/

namespace AttributeProfiles.Template

open Grammar

/-- A name is an identifier that stands in these characters. -/
def IdentifierIn (source : List Char) (name : String) : Prop :=
  IsIdentifier name.toList ∧ name.toList <:+: source

/-- The variables are identifiers of the source. So are the names of the functions that are called,
and each of them is the name of a function that there is. -/
def Expr.WellFormed (source : List Char) : Expr → Prop
  | .variable name => IdentifierIn source name
  | .literal _ => True
  | .index list _ => list.WellFormed source
  | .concat left right => left.WellFormed source ∧ right.WellFormed source
  | .call function argument =>
    IdentifierIn source function ∧ function ∈ builtins ∧ argument.WellFormed source

section

variable {source word : List Char}

theorem IdentifierIn.mono {name : String} (h : IdentifierIn word name) (hword : word <:+: source) :
    IdentifierIn source name :=
  ⟨h.1, h.2.trans hword⟩

theorem Expr.WellFormed.mono {e : Expr} (h : e.WellFormed word) (hword : word <:+: source) :
    e.WellFormed source := by
  induction e with
  | «variable» name => exact IdentifierIn.mono h hword
  | literal text => trivial
  | index list position ih => exact ih h
  | concat left right ihleft ihright => exact ⟨ihleft h.1, ihright h.2⟩
  | call function argument ih => exact ⟨h.1.mono hword, h.2.1, ih h.2.2⟩

theorem Grammar.Token.identifierIn {name : String} (h : Token name.toList word)
    (hname : IsIdentifier name.toList) : IdentifierIn word name := by
  obtain ⟨before, after, -, -, rfl⟩ := h
  exact ⟨hname, before, after, rfl⟩

theorem Expr.wellFormed_call {function : String} {argument : Expr} {name : List Char}
    (hfunction : function ∈ builtins) (hname : Token function.toList name)
    (hnamed : name <:+: source) (h : argument.WellFormed word) (hword : word <:+: source) :
    (Expr.call function argument).WellFormed source :=
  ⟨(hname.identifierIn (isIdentifier_of_mem_builtins hfunction)).mono hnamed, hfunction,
    h.mono hword⟩

theorem Grammar.Spells.wellFormed {layer : Layer} {n : Nat} {e : Expr}
    (h : Spells layer n e word) : e.WellFormed word := by
  induction h with
  | literal _ _ => trivial
  | @reference n name word hname ht =>
    rw [← String.toList_ofList (l := name)] at hname ht
    exact ht.identifierIn hname
  | @call n function argument name opening word closing hfunction hname _ _ _ ih =>
    have hnamed : name <:+: name ++ (opening ++ (word ++ closing)) :=
      (List.prefix_append _ _).isInfix
    have hword : word <:+: name ++ (opening ++ (word ++ closing)) :=
      ⟨name ++ opening, closing, by simp⟩
    exact Expr.wellFormed_call hfunction hname hnamed ih hword
  | group _ _ _ ih => exact ih.mono (List.infix_append' _ _ _)
  | ofPrimary _ ih => exact ih
  | index _ _ _ _ _ ih => exact Expr.WellFormed.mono ih (List.prefix_append _ _).isInfix
  | ofTerm _ ih => exact ih
  | @concat n left right word plus other _ _ _ ihleft ihright =>
    have hother : other <:+: word ++ (plus ++ other) := ⟨word ++ plus, [], by simp⟩
    exact ⟨ihleft.mono (List.prefix_append _ _).isInfix, ihright.mono hother⟩
  | ofSum _ ih => exact ih
  | @filter n e function word bar name _ _ hfunction hname ih =>
    have hnamed : name <:+: word ++ (bar ++ name) := ⟨word ++ bar, [], by simp⟩
    exact Expr.wellFormed_call hfunction hname hnamed ih (List.prefix_append _ _).isInfix

end

/-- The failures that are left to rendering, for a source and a record. -/
def Error.LeftToRendering (source : List Char) (r : Record) : Error → Prop
  | .malformed _ _ => False
  | .undefinedVariable name => IdentifierIn source name ∧ r.get? name = none
  | .unscoped value => '@' ∉ value.toList
  | .unknownFunction _ => False
  | .typeMismatch _ => True
  | .indexOutOfRange position length => position < -length ∨ length ≤ position
  | .tooComplex excess => excess = .output

variable {source : List Char} {r : Record} {cause : Error}

theorem Value.leftToRendering_of_at {v : Value} {position : Int}
    (h : v.at position = .error cause) : cause.LeftToRendering source r := by
  rcases Value.at_eq_error_iff.1 h with ⟨-, rfl⟩ | ⟨items, -, hposition, rfl⟩
  · trivial
  · exact hposition

theorem Value.leftToRendering_of_append {u v : Value} (h : u.append v = .error cause) :
    cause.LeftToRendering source r := by
  obtain ⟨-, rfl⟩ := Value.append_eq_error_iff.1 h
  trivial

/-- A function that there is does not fail for being unknown. -/
theorem Value.leftToRendering_of_call {function : String} {v : Value}
    (hfunction : function ∈ builtins) (h : v.call function = .error cause) :
    cause.LeftToRendering source r := by
  rcases (Value.call_eq_error_iff hfunction).1 h with ⟨-, rfl⟩ | ⟨value, -, hsign, rfl⟩
  · trivial
  · exact hsign

theorem Expr.WellFormed.leftToRendering_of_eval {e : Expr} (h : e.WellFormed source)
    (heval : e.eval r = .error cause) : cause.LeftToRendering source r := by
  induction e generalizing cause with
  | «variable» name =>
    rw [Expr.eval] at heval
    split at heval
    · cases heval
    next habsent =>
      cases heval
      exact ⟨h, habsent⟩
  | literal text => cases heval
  | index list position ih =>
    rcases Outcome.bind_eq_error_iff.1 heval with hlist | ⟨v, -, hat⟩
    · exact ih h hlist
    · exact Value.leftToRendering_of_at hat
  | concat left right ihleft ihright =>
    rcases Outcome.bind_eq_error_iff.1 heval with hleft | ⟨a, -, hrest⟩
    · exact ihleft h.1 hleft
    rcases Outcome.bind_eq_error_iff.1 hrest with hright | ⟨b, -, happend⟩
    · exact ihright h.2 hright
    · exact Value.leftToRendering_of_append happend
  | call function argument ih =>
    rcases Outcome.bind_eq_error_iff.1 heval with hargument | ⟨v, -, hcall⟩
    · exact ih h.2.2 hargument
    · exact Value.leftToRendering_of_call h.2.1 hcall

theorem leftToRendering_of_render {t : Template} {separator : Char}
    (ht : ∀ e, .placeholder e ∈ t.segments → e.WellFormed source)
    (h : t.render r separator = .error cause) : cause.LeftToRendering source r := by
  by_cases hcause : cause = .tooComplex .output
  · rw [hcause]
    rfl
  · obtain ⟨e, he, heval⟩ := exists_eval_error_of_render h hcause
    exact (ht e he).leftToRendering_of_eval heval

/-- What compiles is well formed, and later does not fail for its syntax. No text is empty and no
two texts stand side by side, every variable is an identifier, and every function that is called is
there. On a record, rendering can fail because a variable is absent, which is an identifier of the
source, because a value has no domain, because operands do not go together, because a list is too
short, or because there is too much output; it never fails because the source is malformed or a
function is unknown. -/
theorem failures_left_by_compile {source : String} {marker : Char} {t : Template}
    (h : Template.compile source marker = .ok t) :
    TextsApart t.segments ∧
      (∀ e, .placeholder e ∈ t.segments → e.WellFormed source.toList) ∧
      ∀ r separator cause,
        t.render r separator = .error cause ∨ t.renderValues r separator = .error cause →
          cause.LeftToRendering source.toList r := by
  have hplaceholders : ∀ e, .placeholder e ∈ t.segments → e.WellFormed source.toList := by
    intro e he
    obtain ⟨word, hword, hspells⟩ := exists_spells_of_compile h he
    exact hspells.wellFormed.mono hword
  refine ⟨?_, hplaceholders, ?_⟩
  · obtain ⟨items, -, hsegments⟩ := derives_of_compile h
    rw [← hsegments]
    exact textsApart_segmentsOf items
  · rintro r separator cause (hrender | hvalues)
    · exact leftToRendering_of_render hplaceholders hrender
    · exact leftToRendering_of_render hplaceholders (renderValues_eq_error_iff.1 hvalues)

/-- A greeting fails for an address without a domain, and where there is no one to greet. -/
theorem failures_left_by_compile_greeting :
    Template.compile greeting.source '$' = .ok greeting ∧
      TextsApart greeting.segments ∧
      (∀ e, .placeholder e ∈ greeting.segments → e.WellFormed greeting.source.toList) ∧
      greeting.render localGuest ';' = .error (.unscoped "ann") ∧
      Error.LeftToRendering greeting.source.toList localGuest (.unscoped "ann") ∧
      greeting.renderValues Record.empty ';' = .error (.undefinedVariable "name") ∧
      Error.LeftToRendering greeting.source.toList Record.empty (.undefinedVariable "name") := by
  have hcompile : Template.compile greeting.source '$' = .ok greeting := by decide
  obtain ⟨htexts, hplaceholders, hfailures⟩ := failures_left_by_compile hcompile
  have hdomain : greeting.render localGuest ';' = .error (.unscoped "ann") := by decide
  have habsent : greeting.renderValues Record.empty ';' = .error (.undefinedVariable "name") := by
    decide
  exact ⟨hcompile, htexts, hplaceholders, hdomain, hfailures _ _ _ (.inl hdomain), habsent,
    hfailures _ _ _ (.inr habsent)⟩

end AttributeProfiles.Template
