import AttributeProfiles.LogFilter.Directive

/-!
# Log filters

A filter is a list of directives, separated by commas. Of the directives that concern an event the
most specific one decides whether it is shown; an event that none concerns is not shown.
-/

namespace AttributeProfiles

/-- The directives of a filter, in the order in which they are given. -/
structure LogFilter where
  directives : List LogFilter.Directive
deriving DecidableEq, Repr

namespace LogFilter

def upTo (level : Level) : LogFilter := ⟨[{ rank := level.rank }]⟩

/-- The filter that a text spells. Without any directive it shows errors. -/
def parse? (text : String) : Option LogFilter := do
  let parts := (text.toList.splitOn ',').filter (· ≠ [])
  if parts = [] then some (upTo .error)
  else
    let directives ← parts.mapM Directive.ofText?
    some ⟨directives⟩

/-- The filter that a text spells, or else the one for warnings. -/
def ofText (text : String) : LogFilter := (parse? text).getD (upTo .warn)

def shows (f : LogFilter) (e : Event) : Bool :=
  match f.directives.filter (·.concerns e) with
  | [] => false
  | first :: others => decide (e.level.rank ≤ (others.foldl Directive.prefer first).rank)

def render (f : LogFilter) (events : List Event) : String :=
  String.join ((events.filter f.shows).map fun e => e.line ++ "\n")

end LogFilter

end AttributeProfiles
