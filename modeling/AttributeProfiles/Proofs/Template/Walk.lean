import AttributeProfiles.Logged
import AttributeProfiles.Proofs.Outcomes
import AttributeProfiles.Template.Reader

/-!
# Reading step by step

A walk is a reader that accounts for every move of its place: over one character, into an expression
and out of it. It looks at nothing but the characters that follow its place, and where it fails its
moves so far are known. The walks below are the readers of templates taken apart into such moves. No
walk goes back: one that looks for an operator in vain has passed the blanks before it.
-/

namespace AttributeProfiles.Template

variable {α β : Type}

inductive Move where
  /-- Over one character. -/
  | pass
  /-- Into an expression. -/
  | enter
  /-- Out of the innermost expression. -/
  | leave
  /-- Nowhere, at the start of each turn of the loop over the segments. -/
  | turn
deriving DecidableEq, Repr

def Cursor.after (c : Cursor) : Move → Cursor
  | .pass => c.next
  | .enter => c.deeper
  | .leave => c.shallower
  | .turn => c

/-- A reader that accounts for its moves. -/
def Walk (α : Type) : Type := Cursor → Logged Move (Except Error (α × Cursor))

namespace Walk

/-- What a walk from a place reads, and the place that it reaches. -/
def outcome (w : Walk α) (c : Cursor) : Except Error (α × Cursor) := (w c).value

def result (w : Walk α) (c : Cursor) : Except Error α := (w.outcome c).map Prod.fst

def moves (w : Walk α) (c : Cursor) : List Move := (w c).events

instance : Monad Walk where
  pure a c := pure (.ok (a, c))
  bind w f c := do
    match ← w c with
    | .ok (a, d) => f a d
    | .error cause => pure (.error cause)

@[simp] theorem outcome_pure (a : α) (c : Cursor) : (pure a : Walk α).outcome c = .ok (a, c) := rfl

@[simp] theorem outcome_bind (w : Walk α) (f : α → Walk β) (c : Cursor) :
    (w >>= f).outcome c = w.outcome c >>= fun read => (f read.1).outcome read.2 := by
  simp only [bind, outcome]
  cases (w c).value <;> rfl

theorem outcome_bind_of_ok {w : Walk α} {c d : Cursor} {a : α} (h : w.outcome c = .ok (a, d))
    (f : α → Walk β) : (w >>= f).outcome c = (f a).outcome d := by
  rw [outcome_bind, h, Outcome.ok_bind]

theorem result_bind (w : Walk α) (f : α → Walk β) (c : Cursor) :
    (w >>= f).result c = w.outcome c >>= fun read => (f read.1).result read.2 := by
  rw [result, outcome_bind]
  cases w.outcome c <;> rfl

theorem moves_bind_of_ok {w : Walk α} {c d : Cursor} {a : α} (h : w.outcome c = .ok (a, d))
    (f : α → Walk β) : (w >>= f).moves c = w.moves c ++ (f a).moves d := by
  unfold outcome at h
  simp only [bind, moves, h]

theorem moves_bind_of_error {w : Walk α} {c : Cursor} {cause : Error}
    (h : w.outcome c = .error cause) (f : α → Walk β) : (w >>= f).moves c = w.moves c := by
  unfold outcome at h
  simp only [bind, moves, h, Logged.pure_events, List.append_nil]

def make (move : Move) : Walk Unit := fun c => ⟨.ok ((), c.after move), [move]⟩

def here : Walk Cursor := fun c => pure (.ok (c, c))

def fail (cause : Error) : Walk α := fun _ => pure (.error cause)

def failHere (fault : Fault) : Walk α := do
  let c ← here
  fail (c.fault fault)

theorem outcome_make (move : Move) (c : Cursor) :
    (make move).outcome c = .ok ((), c.after move) := rfl

theorem outcome_here (c : Cursor) : here.outcome c = .ok (c, c) := rfl

theorem outcome_failHere (fault : Fault) (c : Cursor) :
    (failHere fault : Walk α).outcome c = .error (c.fault fault) := rfl

def bump : Walk (Option Char) := do
  let c ← here
  match c.rest with
  | [] => pure none
  | x :: _ => do
    make .pass
    pure (some x)

def skip (p : Char → Bool) : Walk (List Char) := do
  let c ← here
  let run := c.rest.takeWhile p
  forM run fun _ => make .pass
  pure run

def blanks : Walk Unit := do
  let _ ← skip Text.isBlank
  pure ()

/-- Whether `x` follows the blanks. They are passed, and so is `x` if it follows. -/
def eat (x : Char) : Walk Bool := do
  blanks
  let c ← here
  if c.rest.head? = some x then do
    make .pass
    pure true
  else pure false

def close (x : Char) (fault : Fault) : Walk Unit := do
  if ← eat x then pure () else failHere fault

def identifier : Walk String := do
  let c ← here
  if c.rest.head?.any isIdentifierStart then do
    let run ← skip isIdentifierPart
    pure (String.ofList run)
  else failHere .expectedIdentifier

def integer : Walk Int := do
  let c ← here
  let negative := decide (c.rest.head? = some '-')
  (if negative then make .pass else pure ())
  let digits ← skip Char.isDigit
  match indexValue? negative digits with
  | some value => pure value
  | none =>
    fail (c.fault (.invalidIndex (String.ofList (if negative then '-' :: digits else digits))))

def literal (quote : Char) : Nat → List Char → Walk String
  | 0, _ => failHere .unterminatedLiteral
  | limit + 1, read => do
    match ← bump with
    | none => failHere .unterminatedLiteral
    | some x =>
      if x = quote then pure (String.ofList read.reverse)
      else if x = '\\' then do
        match ← bump with
        | none => failHere .unterminatedLiteral
        | some y =>
          match unescape? y with
          | some z => literal quote limit (z :: read)
          | none => failHere (.unknownEscape y)
      else literal quote limit (x :: read)

def call (name : String) (argument : Expr) : Walk Expr :=
  match callByName name argument with
  | .ok e => pure e
  | .error cause => fail cause

def primary (nested : Walk Expr) : Walk Expr := do
  blanks
  let c ← here
  match c.rest with
  | [] => failHere .unexpectedEnd
  | x :: xs =>
    if x = '"' ∨ x = '\'' then do
      make .pass
      let content ← literal x xs.length []
      pure (.literal content)
    else if x = '(' then do
      make .pass
      let inner ← nested
      close ')' .unclosedGroup
      pure inner
    else if isIdentifierStart x then do
      let name ← identifier
      if ← eat '(' then do
        let argument ← nested
        close ')' .unclosedCall
        call name argument
      else pure (.variable name)
    else failHere (.unexpectedCharacter x)

def indices : Nat → Expr → Walk Expr
  | 0, e => pure e
  | limit + 1, e => do
    if ← eat '[' then do
      blanks
      let position ← integer
      close ']' .unclosedIndex
      indices limit (.index e position)
    else pure e

def term (nested : Walk Expr) : Walk Expr := do
  let c ← here
  let e ← primary nested
  indices c.rest.length e

def summands (nested : Walk Expr) : Nat → Expr → Walk Expr
  | 0, e => pure e
  | limit + 1, e => do
    if ← eat '+' then do
      let summand ← term nested
      summands nested limit (.concat e summand)
    else pure e

def sum (nested : Walk Expr) : Walk Expr := do
  let c ← here
  let e ← term nested
  summands nested c.rest.length e

def filters : Nat → Expr → Walk Expr
  | 0, e => pure e
  | limit + 1, e => do
    if ← eat '|' then do
      blanks
      let name ← identifier
      let e ← call name e
      filters limit e
    else pure e

/-- A walk inside one more expression, unless these are too many. -/
def inside (w : Walk α) : Walk α := do
  make .enter
  let c ← here
  if maxNesting < c.depth then fail (.tooComplex .nesting)
  else do
    let a ← w
    make .leave
    pure a

def filtered : Nat → Walk Expr
  | 0 => inside (failHere .unexpectedEnd)
  | limit + 1 => inside do
    let c ← here
    let e ← sum (filtered limit)
    filters c.rest.length e

def placeholder : Walk Expr := do
  let c ← here
  let e ← filtered c.rest.length
  close '\x7d' .unclosedPlaceholder
  pure e

def segments (marker : Char) : Nat → List Char → Walk (List Segment)
  | 0, read => do
    make .turn
    pure (textSegment read)
  | limit + 1, read => do
    make .turn
    match ← bump with
    | none => pure (textSegment read)
    | some x =>
      if x ≠ marker then segments marker limit (x :: read)
      else do
        let c ← here
        if c.rest.head? = some marker then do
          make .pass
          segments marker limit (marker :: read)
        else if c.rest.head? = some '\x7b' then do
          make .pass
          let e ← placeholder
          let others ← segments marker limit []
          pure (textSegment read ++ .placeholder e :: others)
        else segments marker limit (x :: read)

def template (source : String) (marker : Char) : Walk Template := do
  if maxSourceBytes < source.utf8ByteSize then fail (.tooComplex (.source source.utf8ByteSize))
  else do
    let segments ← segments marker source.toList.length []
    pure ⟨source, segments⟩

end Walk

end AttributeProfiles.Template
