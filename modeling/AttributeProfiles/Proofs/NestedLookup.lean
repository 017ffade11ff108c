import AttributeProfiles.Nested
import AttributeProfiles.Proofs.Pieces

/-!
# Looking up one name where another was written

A record that holds a value under one name is looked up under another. Only the segments of the two
names matter: the shorter name must begin the longer one, and what is left of the longer one is
either still wrapped around the value or leads on into it. All other names lead to nothing.
-/

namespace AttributeProfiles

/-- Segments lead from a value to a value inside it: each one is the name of a member of the object
reached so far. -/
inductive Json.Value.LeadsTo : Json.Value → List String → Json.Value → Prop
  | here (value : Json.Value) : LeadsTo value [] value
  | member {members : List (String × Json.Value)} {segment : String} {segments : List String}
      {inner target : Json.Value} (found : members.lookup segment = some inner)
      (onward : LeadsTo inner segments target) :
      LeadsTo (.object members) (segment :: segments) target

namespace NestedName

variable {separator : Char} {value : Json.Value}

theorem member?_eq_some_iff {segment : String} {inner : Json.Value} :
    value.member? segment = some inner ↔
      ∃ members, value = .object members ∧ members.lookup segment = some inner := by
  cases value <;> simp [Json.Value.member?]

/-- A descent ends where its segments lead, and fails where they lead nowhere. -/
theorem descend?_eq_some_iff {segments : List String} {target : Json.Value} :
    descend? value segments = some target ↔ value.LeadsTo segments target := by
  induction segments generalizing value with
  | nil =>
    rw [descend?_nil, Option.some.injEq]
    constructor
    · rintro rfl
      exact .here value
    · rintro ⟨⟩
      rfl
  | cons segment segments ih =>
    rw [descend?_cons, Option.bind_eq_some_iff]
    constructor
    · rintro ⟨inner, hmember, honward⟩
      obtain ⟨members, rfl, hfound⟩ := member?_eq_some_iff.1 hmember
      exact .member hfound (ih.1 honward)
    · rintro (_ | ⟨hfound, honward⟩)
      exact ⟨_, hfound, ih.2 honward⟩

theorem wrap_append (outer inner : List String) (value : Json.Value) :
    wrap (outer ++ inner) value = wrap outer (wrap inner value) :=
  List.foldr_append

theorem descend?_wrap_eq_none {wrapping segments : List String}
    (hshort : ¬ segments <+: wrapping) (hlong : ¬ wrapping <+: segments) :
    descend? (wrap wrapping value) segments = none := by
  induction wrapping generalizing segments with
  | nil => exact absurd List.nil_prefix hlong
  | cons layer wrapping ih =>
    cases segments with
    | nil => exact absurd List.nil_prefix hshort
    | cons segment segments =>
      rw [List.cons_prefix_cons] at hshort hlong
      rw [descend?_cons, wrap, List.foldr_cons, ← wrap, Json.Value.member?, Entries.lookup_cons]
      by_cases h : segment = layer
      · rw [if_pos h]
        exact ih (fun hp => hshort ⟨h, hp⟩) (fun hp => hlong ⟨h.symm, hp⟩)
      · rw [if_neg h]
        rfl

/-- The record that holds a value under a name and nothing else. -/
def onlyUnder (separator : Char) (name : String) (value : Json.Value) : ExternalRecord :=
  (ofName separator name).put value .empty

/-- The record is an object around the value like those inside it, so a look-up is a descent. -/
theorem find?_onlyUnder_eq_descend? (separator : Char) (s t : String) (value : Json.Value) :
    (ofName separator t).find? (onlyUnder separator s value) =
      descend? (wrap (Text.split separator s) value) (Text.split separator t) := by
  rw [← segments_ofName, ← segments_ofName, segments, segments, descend?_cons, find?, onlyUnder, put,
    Table.get?_insert, Table.get?_empty, wrap, wrap, List.foldr_cons, Json.Value.member?,
    Entries.lookup_cons]
  rfl

/-- Names are cut at the first separator first, and what follows it then. -/
theorem ofName_eq_of_cut {name first rest : String} (hfirst : separator ∉ first.toList)
    (hname : name.toList = first.toList ++ separator :: rest.toList) :
    ofName separator name = ⟨first, Text.split separator rest⟩ := by
  have hsplit : Text.split separator name = first :: Text.split separator rest := by
    rw [Text.split_append hname, Text.split_eq_singleton hfirst, List.singleton_append]
  rw [ofName, hsplit]

theorem ofName_eq_of_not_mem {name : String} (h : separator ∉ name.toList) :
    ofName separator name = ⟨name, []⟩ := by
  rw [ofName, Text.split_eq_singleton h]

/-- What a record that holds a value under one name holds under another. The record has one member,
for what stands before the first separator. A name whose segments begin those of the first finds the
value with the other segments around it; a name whose segments begin with those of the first finds
what the other ones lead to inside the value; any other name finds nothing. -/
theorem find?_onlyUnder (separator : Char) (s t : String) (value : Json.Value) :
    (∀ first rest, separator ∉ first.toList → s.toList = first.toList ++ separator :: rest.toList →
      (onlyUnder separator s value).entries =
        [(first, wrap (Text.split separator rest) value)]) ∧
    (separator ∉ s.toList → (onlyUnder separator s value).entries = [(s, value)]) ∧
    (∀ rest, Text.split separator s = Text.split separator t ++ rest →
      (ofName separator t).find? (onlyUnder separator s value) = some (wrap rest value)) ∧
    (∀ rest, Text.split separator t = Text.split separator s ++ rest → ∀ target,
      (ofName separator t).find? (onlyUnder separator s value) = some target ↔
        value.LeadsTo rest target) ∧
    (¬ Text.split separator t <+: Text.split separator s →
      ¬ Text.split separator s <+: Text.split separator t →
      (ofName separator t).find? (onlyUnder separator s value) = none) ∧
    (ofName separator s).find? (onlyUnder separator s value) = some value := by
  refine ⟨?_, ?_, ?_, ?_, ?_, find?_put _ _ _⟩
  · intro first rest hfirst hname
    rw [onlyUnder, ofName_eq_of_cut hfirst hname]
    rfl
  · intro h
    rw [onlyUnder, ofName_eq_of_not_mem h]
    rfl
  · intro rest hsegments
    rw [find?_onlyUnder_eq_descend?, hsegments, wrap_append, descend?_wrap]
  · intro rest hsegments target
    rw [find?_onlyUnder_eq_descend?, hsegments, descend?_append, descend?_wrap, Option.bind_some,
      descend?_eq_some_iff]
  · intro hshort hlong
    rw [find?_onlyUnder_eq_descend?, descend?_wrap_eq_none hshort hlong]

/-- Empty segments count like others. -/
example : (ofName '.' "a.").find? (onlyUnder '.' "a..b" (.text "x")) =
    some (.object [("b", .text "x")]) := rfl

end NestedName

end AttributeProfiles
