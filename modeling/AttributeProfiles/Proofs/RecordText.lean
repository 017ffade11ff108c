import AttributeProfiles.Json.Records
import AttributeProfiles.Proofs.ExportResult
import AttributeProfiles.Proofs.Json.Reading
import AttributeProfiles.Proofs.Pieces

/-!
# Records written and read

Records of both kinds are read back from the values as which they are written. Internal records are
always written as values that can be read back from their texts. For exported records this depends
on how deep their names lead: every separator of a name is one more object inside the others.
-/

namespace AttributeProfiles

theorem Json.Value.texts?_eq_some_iff {value : Json.Value} {values : List String} :
    value.texts? = some values ↔ value = .texts values := by
  constructor
  · intro h
    cases value with
    | list items =>
      rw [Json.Value.texts, Json.Value.list.injEq]
      rw [Json.Value.texts?] at h
      induction items generalizing values with
      | nil =>
        cases h
        rfl
      | cons item items ih =>
        rw [List.mapM_cons] at h
        obtain ⟨first, hfirst, h⟩ := Option.bind_eq_some_iff.1 h
        obtain ⟨others, hothers, h⟩ := Option.bind_eq_some_iff.1 h
        cases h
        split at hfirst
        · cases hfirst
          rw [List.map_cons, ih hothers]
        · cases hfirst
    | null | boolean | number | text | object => cases h
  · rintro rfl
    exact Json.Value.texts?_texts values

/-- A value with members. -/
def Json.Value.IsObject (value : Json.Value) : Prop := ∃ members, value = .object members

/-- A value with members of which each is a list of texts. -/
def Json.Value.IsObjectOfTexts (value : Json.Value) : Prop :=
  ∃ members, value = .object members ∧ ∀ member ∈ members, ∃ values, member.2 = .texts values

theorem ExternalRecord.isSome_ofValue?_iff {value : Json.Value} :
    (ExternalRecord.ofValue? value).isSome ↔ value.IsObject := by
  cases value <;> simp [ExternalRecord.ofValue?, Json.Value.IsObject]

theorem Record.isSome_ofValue?_iff {value : Json.Value} :
    (Record.ofValue? value).isSome ↔ value.IsObjectOfTexts := by
  cases value with
  | object members =>
    have hread : (Record.ofValue? (.object members)).isSome =
        (members.mapM fun m : String × Json.Value => m.2.texts?.map (m.1, ·)).isSome := by
      rw [Record.ofValue?]
      cases members.mapM fun m : String × Json.Value => m.2.texts?.map (m.1, ·) <;> rfl
    have hmember : ∀ m : String × Json.Value,
        (m.2.texts?.map (m.1, ·)).isSome ↔ ∃ values, m.2 = .texts values := by
      intro m
      simp only [Option.isSome_map, Option.isSome_iff_exists, Json.Value.texts?_eq_some_iff]
    simp only [hread, Outcome.isSome_mapM_iff, hmember, Json.Value.IsObjectOfTexts,
      Json.Value.object.injEq, exists_eq_left']
  | null | boolean | number | text | list => simp [Record.ofValue?, Json.Value.IsObjectOfTexts]

@[simp] theorem ExternalRecord.ofValue?_toValue (r : ExternalRecord) :
    ExternalRecord.ofValue? r.toValue = some r := by
  rw [toValue, ofValue?, Table.ofList_entries]

@[simp] theorem Record.ofValue?_toValue (r : Record) : Record.ofValue? r.toValue = some r := by
  have hread : ∀ e ∈ r.entries, (Json.Value.texts e.2).texts?.map (e.1, ·) = some e := by
    intro e _
    rw [Json.Value.texts?_texts, Option.map_some]
  have hentries : (r.entries.map fun e => (e.1, Json.Value.texts e.2)).mapM
      (fun member : String × Json.Value => member.2.texts?.map (member.1, ·)) = some r.entries :=
    Outcome.mapM_map_eq_some hread
  show ((r.entries.map fun e => (e.1, Json.Value.texts e.2)).mapM
    (fun member : String × Json.Value => member.2.texts?.map (member.1, ·))).bind
      (fun entries => some (ofList entries)) = some r
  rw [hentries, Option.bind_some, ofList_entries]

theorem Record.readable_toValue (r : Record) : Json.Readable 2 r.toValue := by
  refine .object ?_ fun m hm => ?_
  · rw [List.map_map]
    exact r.nodup_names
  · obtain ⟨e, -, rfl⟩ := List.mem_map.1 hm
    exact .texts 0 e.2

namespace NestedName

/-- Every segment of a name nests the value one deeper. -/
theorem readable_wrap {depth : Nat} {value : Json.Value} (h : Json.Readable depth value)
    (segments : List String) : Json.Readable (depth + segments.length) (wrap segments value) := by
  induction segments with
  | nil => exact h
  | cons segment segments ih =>
    refine .object (by simp) fun m hm => ?_
    rw [List.mem_singleton.1 hm]
    exact ih

theorem length_inner_ofName (separator : Char) (name : String) :
    (ofName separator name).inner.length = name.toList.count separator := by
  have hsegments := congrArg List.length (segments_ofName separator name)
  rw [Text.length_split, segments, List.length_cons] at hsegments
  exact Nat.succ_injective hsegments

end NestedName

namespace Mapper

variable {m : Mapper} {profile : String}

/-- The first external names of a profile hold no more than so many separators. -/
def NestsWithin (m : Mapper) (profile : String) (separators : Nat) : Prop :=
  ∀ a name, (m.externalNames profile a).head? = some name →
    name.toList.count m.options.separator ≤ separators

/-- An exported record is two levels deeper than its names have separators. -/
theorem NestsWithin.readable_fromInternal {separators : Nat}
    (h : m.NestsWithin profile separators) (r : Record) :
    Json.Readable (separators + 2) (ExternalRecord.toValue (m.fromInternal profile r).value) := by
  refine .object (Table.distinct _) fun e he => ?_
  obtain ⟨a, name, values, -, hexports, hvalue⟩ :=
    exists_lastUnder_of_get? (Table.get?_eq_some_iff.2 he)
  have hdepth := h a name hexports.first
  rw [← NestedName.length_inner_ofName] at hdepth
  have hwrap := NestedName.readable_wrap (Json.Readable.texts 0 values)
    (NestedName.ofName m.options.separator name).inner
  rw [← hvalue]
  exact hwrap.mono (by omega)

end Mapper

end AttributeProfiles
