import AttributeProfiles.Proofs.ByteOrder
import AttributeProfiles.Proofs.RoundTrip
import Mathlib.Data.List.Induction

/-!
# What an export gives

Several attributes of a record can go under one member of the external record: those whose first
external names begin with one segment. The member is what the last of them makes of it, whole, and
it stands where the first of them put it. Attributes are visited in the order of their names, so
first and last are the smallest and the greatest name.
-/

namespace AttributeProfiles

namespace Table

variable {α : Type}

theorem mem_names_ofList {es : List (String × α)} {name : String} :
    name ∈ (ofList es).names ↔ name ∈ es.map Prod.fst := by
  rw [mem_names_iff, get?_ofList, Entries.lookup_isSome_iff, List.map_reverse, List.mem_reverse]

theorem ofList_concat (es : List (String × α)) (e : String × α) :
    ofList (es ++ [e]) = (ofList es).insert e.1 e.2 := by
  rw [ofList, List.foldl_concat, ← ofList]

/-- Names stand in the order in which entries first gave them: between two names there is a point
at which the one had been given and the other had not. -/
theorem pairwise_names_ofList (es : List (String × α)) :
    (ofList es).names.Pairwise fun s t => ∃ before after, es = before ++ after ∧
      s ∈ before.map Prod.fst ∧ t ∉ before.map Prod.fst := by
  induction es using List.reverseRecOn with
  | nil => exact .nil
  | append_singleton es e ih =>
    have hkept : (ofList es).names.Pairwise fun s t => ∃ before after, es ++ [e] = before ++ after ∧
        s ∈ before.map Prod.fst ∧ t ∉ before.map Prod.fst := by
      refine ih.imp fun ⟨before, after, hes, hs, ht⟩ => ⟨before, after ++ [e], ?_, hs, ht⟩
      rw [hes, List.append_assoc]
    rw [ofList_concat, names_insert]
    split
    · exact hkept
    next hnew =>
      refine List.pairwise_append.2 ⟨hkept, List.pairwise_singleton _ _, fun s hs t ht => ?_⟩
      rw [List.mem_singleton.1 ht]
      exact ⟨es, [e], rfl, mem_names_ofList.1 hs, fun h => hnew (mem_names_ofList.2 h)⟩

end Table

theorem Entries.lookup_reverse_eq_some_iff {α : Type} {es : List (String × α)} {name : String}
    {a : α} : es.reverse.lookup name = some a ↔
      ∃ before after, es = before ++ (name, a) :: after ∧ name ∉ after.map Prod.fst := by
  rw [List.lookup_eq_some_iff]
  constructor
  · rintro ⟨after, before, hes, hafter⟩
    refine ⟨before.reverse, after.reverse, by simpa using congrArg List.reverse hes, fun h => ?_⟩
    obtain ⟨e, he, rfl⟩ := List.mem_map.1 h
    simpa using hafter e (List.mem_reverse.1 he)
  · rintro ⟨before, after, rfl, hafter⟩
    refine ⟨after.reverse, before.reverse, by simp, fun e he => ?_⟩
    have hne : name ≠ e.1 := by
      rintro rfl
      exact hafter (List.mem_map_of_mem (List.mem_reverse.1 he))
    simpa using hne

/-- A value inside one object for each segment, the first segment outermost. -/
inductive Json.Value.Nested (core : Json.Value) : List String → Json.Value → Prop
  | bare : Nested core [] core
  | object (segment : String) {segments : List String} {inner : Json.Value}
      (h : Nested core segments inner) :
      Nested core (segment :: segments) (.object [(segment, inner)])

theorem Json.Value.nested_iff {core value : Json.Value} {segments : List String} :
    core.Nested segments value ↔ NestedName.wrap segments core = value := by
  induction segments generalizing value with
  | nil =>
    constructor
    · rintro ⟨⟩
      rfl
    · rintro rfl
      exact .bare
  | cons segment segments ih =>
    constructor
    · rintro (_ | ⟨_, h⟩)
      rw [← ih.1 h]
      rfl
    · rintro rfl
      exact .object segment (ih.2 rfl)

theorem Record.lt_of_entries_eq {r : Record} {before after : List (String × List String)}
    {e : String × List String} (h : r.entries = before ++ e :: after) :
    (∀ d ∈ before, d.1 < e.1) ∧ ∀ d ∈ after, e.1 < d.1 := by
  obtain ⟨-, hafter, hbefore⟩ := List.pairwise_append.1 (h ▸ r.ascending)
  exact ⟨fun d hd => hbefore d hd e List.mem_cons_self, (List.pairwise_cons.1 hafter).1⟩

namespace Mapper

variable (m : Mapper) (profile : String) (r : Record)

/-- An attribute of a record is exported with its values, under the first external name that the
profile lists for it. -/
structure Exports (a name : String) (values : List String) : Prop where
  held : r.get? a = some values
  first : (m.externalNames profile a).head? = some name

/-- An attribute is exported under a name that begins with a segment. -/
def GoesUnder (segment a : String) : Prop :=
  ∃ name values, m.Exports profile r a name values ∧ m.firstSegment name = segment

/-- Among the attributes that go under a segment, one has the greatest name. -/
structure LastUnder (segment a : String) : Prop where
  goes : m.GoesUnder profile r segment a
  greatest : ∀ b, m.GoesUnder profile r segment b → b = a ∨ Text.bytes b < Text.bytes a

/-- Among the attributes that go under a segment, one has the smallest name. -/
structure FirstUnder (segment a : String) : Prop where
  goes : m.GoesUnder profile r segment a
  smallest : ∀ b, m.GoesUnder profile r segment b → b = a ∨ Text.bytes a < Text.bytes b

variable {m profile r}

/-- The value that is put under the first segment of a name: the values of an attribute, in one
object for each further segment. -/
def exportedValue (m : Mapper) (name : String) (values : List String) : Json.Value :=
  NestedName.wrap (NestedName.ofName m.options.separator name).inner (.texts values)

theorem exportedMember?_eq_some_iff {e : String × List String} {segment : String}
    {value : Json.Value} :
    m.exportedMember? profile e = some (segment, value) ↔
      ∃ name, (m.externalNames profile e.1).head? = some name ∧ m.firstSegment name = segment ∧
        m.exportedValue name e.2 = value := by
  simp only [exportedMember?, exportTarget?, Option.map_map, Option.map_eq_some_iff,
    Function.comp_apply, Prod.mk.injEq, firstSegment, exportedValue]

theorem GoesUnder.exists_entry {segment a : String} (h : m.GoesUnder profile r segment a) :
    ∃ e ∈ r.entries, e.1 = a := by
  obtain ⟨_, values, ⟨held, _⟩, _⟩ := h
  exact ⟨(a, values), Record.get?_eq_some_iff.1 held, rfl⟩

theorem Exports.firstSegment_eq {segment a name : String} {values : List String}
    (h : m.Exports profile r a name values) (hgoes : m.GoesUnder profile r segment a) :
    m.firstSegment name = segment := by
  obtain ⟨other, _, ⟨-, first⟩, rfl⟩ := hgoes
  rw [Option.some.inj (h.first.symm.trans first)]

theorem mem_segments_iff {part : List (String × List String)} (hpart : part ⊆ r.entries)
    {segment : String} :
    segment ∈ (part.filterMap (m.exportedMember? profile)).map Prod.fst ↔
      ∃ e ∈ part, m.GoesUnder profile r segment e.1 := by
  constructor
  · intro h
    obtain ⟨⟨_, value⟩, hmember, rfl⟩ := List.mem_map.1 h
    obtain ⟨e, he, hmember⟩ := List.mem_filterMap.1 hmember
    obtain ⟨name, first, hsegment, -⟩ := exportedMember?_eq_some_iff.1 hmember
    exact ⟨e, he, name, e.2, ⟨Record.get?_eq_some_iff.2 (hpart he), first⟩, hsegment⟩
  · rintro ⟨e, he, name, values, ⟨-, first⟩, hsegment⟩
    have hmember := exportedMember?_eq_some_iff.2 ⟨name, first, hsegment, rfl⟩
    exact List.mem_map.2 ⟨_, List.mem_filterMap.2 ⟨e, he, hmember⟩, rfl⟩

theorem mem_names_fromInternal_iff {segment : String} :
    segment ∈ (m.fromInternal profile r).value.names ↔ ∃ a, m.GoesUnder profile r segment a := by
  rw [fromInternal_value, Table.mem_names_ofList, exportedMembers,
    mem_segments_iff (List.Subset.refl _)]
  constructor
  · rintro ⟨e, -, h⟩
    exact ⟨e.1, h⟩
  · rintro ⟨a, h⟩
    obtain ⟨e, he, rfl⟩ := h.exists_entry
    exact ⟨e, he, h⟩

/-- What stands under a segment comes from the last of the attributes that go there. -/
theorem exists_lastUnder_of_get? {segment : String} {value : Json.Value}
    (h : (m.fromInternal profile r).value.get? segment = some value) :
    ∃ a name values, m.LastUnder profile r segment a ∧ m.Exports profile r a name values ∧
      m.exportedValue name values = value := by
  rw [get?_fromInternal, Entries.lookup_reverse_eq_some_iff, exportedMembers] at h
  obtain ⟨_, _, hmembers, hnone⟩ := h
  obtain ⟨before, rest, hentries, -, hrest⟩ := List.filterMap_eq_append_iff.1 hmembers
  obtain ⟨skipped, e, after, rfl, -, hmember, rfl⟩ := List.filterMap_eq_cons_iff.1 hrest
  rw [← List.append_assoc] at hentries
  obtain ⟨hsmaller, -⟩ := Record.lt_of_entries_eq hentries
  have he : e ∈ r.entries := by simp [hentries]
  have hafter : after ⊆ r.entries := fun d hd => by simp [hentries, hd]
  obtain ⟨name, first, hsegment, hvalue⟩ := exportedMember?_eq_some_iff.1 hmember
  have hexports : m.Exports profile r e.1 name e.2 := ⟨Record.get?_eq_some_iff.2 he, first⟩
  refine ⟨e.1, name, e.2, ⟨⟨name, e.2, hexports, hsegment⟩, fun b hb => ?_⟩, hexports, hvalue⟩
  obtain ⟨d, hd, rfl⟩ := hb.exists_entry
  rw [hentries, List.mem_append, List.mem_cons] at hd
  rcases hd with hd | rfl | hd
  · exact .inr (Text.bytes_lt_of_lt (hsmaller d hd))
  · exact .inl rfl
  · exact absurd ((mem_segments_iff hafter).2 ⟨d, hd, hb⟩) hnone

theorem get?_fromInternal_of_lastUnder {segment a name : String} {values : List String}
    (hlast : m.LastUnder profile r segment a) (hexports : m.Exports profile r a name values) :
    (m.fromInternal profile r).value.get? segment = some (m.exportedValue name values) := by
  obtain ⟨before, after, hentries⟩ :=
    List.append_of_mem (Record.get?_eq_some_iff.1 hexports.held)
  obtain ⟨-, hgreater⟩ := Record.lt_of_entries_eq hentries
  have hafter : after ⊆ r.entries := fun d hd => by simp [hentries, hd]
  have hmember : m.exportedMember? profile (a, values) =
      some (segment, m.exportedValue name values) :=
    exportedMember?_eq_some_iff.2
      ⟨name, hexports.first, hexports.firstSegment_eq hlast.goes, rfl⟩
  rw [get?_fromInternal, Entries.lookup_reverse_eq_some_iff, exportedMembers, hentries,
    List.filterMap_append, List.filterMap_cons_some hmember]
  refine ⟨_, _, rfl, fun h => ?_⟩
  obtain ⟨d, hd, hgoes⟩ := (mem_segments_iff hafter).1 h
  have hlt := hgreater d hd
  rcases hlast.greatest d.1 hgoes with heq | hless
  · exact String.lt_irrefl _ (heq ▸ hlt)
  · exact String.lt_irrefl _ (String.lt_trans hlt (Text.bytes_lt_bytes_iff.1 hless))

theorem exists_firstUnder {segment a : String} (h : m.GoesUnder profile r segment a) :
    ∃ first, m.FirstUnder profile r segment first := by
  classical
  have hsome : (r.entries.find? fun e => m.GoesUnder profile r segment e.1).isSome := by
    obtain ⟨e, he, rfl⟩ := h.exists_entry
    exact List.find?_isSome.2 ⟨e, he, decide_eq_true h⟩
  obtain ⟨e, he⟩ := Option.isSome_iff_exists.1 hsome
  obtain ⟨hgoes, before, after, hentries, hbefore⟩ := List.find?_eq_some_iff_append.1 he
  obtain ⟨-, hgreater⟩ := Record.lt_of_entries_eq hentries
  refine ⟨e.1, of_decide_eq_true hgoes, fun b hb => ?_⟩
  obtain ⟨d, hd, rfl⟩ := hb.exists_entry
  rw [hentries, List.mem_append, List.mem_cons] at hd
  rcases hd with hd | rfl | hd
  · simpa [hb] using hbefore d hd
  · exact .inl rfl
  · exact .inr (Text.bytes_lt_of_lt (hgreater d hd))

theorem pairwise_names_fromInternal :
    (m.fromInternal profile r).value.names.Pairwise fun s t => ∃ a b,
      m.FirstUnder profile r s a ∧ m.FirstUnder profile r t b ∧ Text.bytes a < Text.bytes b := by
  have hnames := Table.pairwise_names_ofList (m.exportedMembers profile r)
  rw [← fromInternal_value] at hnames
  refine hnames.imp_of_mem fun {s t} _ ht ⟨_, _, hmembers, hs, hnot⟩ => ?_
  obtain ⟨before, after, hentries, rfl, -⟩ := List.filterMap_eq_append_iff.1 hmembers
  have hpart : before ⊆ r.entries := fun d hd => hentries ▸ List.mem_append_left after hd
  obtain ⟨d, hd, hgoes⟩ := (mem_segments_iff hpart).1 hs
  obtain ⟨a, ha⟩ := exists_firstUnder hgoes
  obtain ⟨_, hother⟩ := mem_names_fromInternal_iff.1 ht
  obtain ⟨b, hb⟩ := exists_firstUnder hother
  refine ⟨a, b, ha, hb, ?_⟩
  -- The first attribute under `t` comes after the point before which `s` was set.
  obtain ⟨e, he, rfl⟩ := hb.goes.exists_entry
  have hafter : e ∈ after := by
    rcases List.mem_append.1 (hentries ▸ he) with hbefore | hafter
    · exact absurd ((mem_segments_iff hpart).2 ⟨e, hbefore, hb.goes⟩) hnot
    · exact hafter
  have hlt : Text.bytes d.1 < Text.bytes e.1 :=
    Text.bytes_lt_of_lt ((List.pairwise_append.1 (hentries ▸ r.ascending)).2.2 d hd e hafter)
  rcases ha.smallest d.1 hgoes with heq | hless
  · exact heq ▸ hlt
  · exact List.lt_trans hless hlt

/-- The members of an exported record are the first segments of the names under which attributes
are exported. Each holds the values of the attribute with the greatest name, as a list of texts
inside one object for each further segment, and nothing of the others; they stand in the order of
the attributes with the smallest names. So the attributes with the greatest names are found under
their names. -/
theorem fromInternal_members (m : Mapper) (profile : String) (r : Record) :
    (∀ segment, segment ∈ (m.fromInternal profile r).value.names ↔
      ∃ a, m.GoesUnder profile r segment a) ∧
    (∀ segment value, (m.fromInternal profile r).value.get? segment = some value ↔
      ∃ a name values inner, m.LastUnder profile r segment a ∧
        m.Exports profile r a name values ∧
        Text.split m.options.separator name = segment :: inner ∧
        (Json.Value.list (values.map .text)).Nested inner value) ∧
    ((m.fromInternal profile r).value.names.Pairwise fun s t => ∃ a b,
      m.FirstUnder profile r s a ∧ m.FirstUnder profile r t b ∧ Text.bytes a < Text.bytes b) ∧
    (∀ segment a name values, m.LastUnder profile r segment a → m.Exports profile r a name values →
      (NestedName.ofName m.options.separator name).find? (m.fromInternal profile r).value =
        some (.list (values.map .text))) := by
  refine ⟨fun _ => mem_names_fromInternal_iff, fun segment value => ⟨?_, ?_⟩,
    pairwise_names_fromInternal, ?_⟩
  · intro h
    obtain ⟨a, name, values, hlast, hexports, hvalue⟩ := exists_lastUnder_of_get? h
    have hname : NestedName.ofName m.options.separator name = ⟨segment, _⟩ :=
      NestedName.ext (hexports.firstSegment_eq hlast.goes) rfl
    exact ⟨a, name, values, _, hlast, hexports, NestedName.ofName_eq_iff.1 hname,
      Json.Value.nested_iff.2 hvalue⟩
  · rintro ⟨a, name, values, inner, hlast, hexports, hsplit, hnested⟩
    rw [get?_fromInternal_of_lastUnder hlast hexports, exportedValue,
      NestedName.ofName_eq_iff.2 hsplit]
    exact congrArg some (Json.Value.nested_iff.1 hnested)
  · intro segment a name values hlast hexports
    have hfirst : (NestedName.ofName m.options.separator name).first = segment :=
      hexports.firstSegment_eq hlast.goes
    rw [NestedName.find?, hfirst, get?_fromInternal_of_lastUnder hlast hexports,
      Option.bind_some, exportedValue, NestedName.descend?_wrap]
    rfl

end Mapper

/-- Two attributes go under the segments of an address, with another one between them. -/
def Config.residents : Config where
  attributes := .ofList
    [("street", .ofList [("openid", ["address.street.line"])]),
      ("mail", .ofList [("openid", ["email", "mail"])]),
      ("city", .ofList [("openid", ["address.locality"])])]
  templateAttributes := none

namespace Mapper

def residents : Mapper where
  config := .residents
  index := (NameIndex.ofAttributes Config.residents.attributes).value
  derived := []
  valid := by decide
  indexed := rfl
  compiled := by decide

def resident : Record :=
  ((Record.empty.insert "mail" ["ann@example.org"]).insert "street" ["1 Elm Road", ""]).insert
    "city" ["Bath"]

/-- The street comes after the city and replaces it, where the city was put. -/
theorem fromInternal_members_resident :
    residents.FirstUnder "openid" resident "address" "city" ∧
      residents.LastUnder "openid" resident "address" "street" ∧
      residents.Exports "openid" resident "street" "address.street.line" ["1 Elm Road", ""] ∧
      (residents.fromInternal "openid" resident).value.get? "address" = some
        (.object [("street", .object [("line", .list [.text "1 Elm Road", .text ""])])]) ∧
      (residents.fromInternal "openid" resident).value.names = ["address", "email"] ∧
      (NestedName.ofName '.' "address.street.line").find?
          (residents.fromInternal "openid" resident).value =
        some (.list [.text "1 Elm Road", .text ""]) := by
  have hstreet : residents.Exports "openid" resident "street" "address.street.line"
      ["1 Elm Road", ""] := ⟨by decide, by decide⟩
  have hcity : residents.Exports "openid" resident "city" "address.locality" ["Bath"] :=
    ⟨by decide, by decide⟩
  have hordered : ∀ e ∈ resident.entries, (e.1 = "city" ∨ "city" < e.1) ∧
      (e.1 = "street" ∨ e.1 < "street") := by
    decide
  have hfirst : residents.FirstUnder "openid" resident "address" "city" := by
    refine ⟨⟨_, _, hcity, by decide⟩, fun b hb => ?_⟩
    obtain ⟨e, he, rfl⟩ := hb.exists_entry
    exact (hordered e he).1.imp_right Text.bytes_lt_of_lt
  have hlast : residents.LastUnder "openid" resident "address" "street" := by
    refine ⟨⟨_, _, hstreet, by decide⟩, fun b hb => ?_⟩
    obtain ⟨e, he, rfl⟩ := hb.exists_entry
    exact (hordered e he).2.imp_right Text.bytes_lt_of_lt
  obtain ⟨-, hmembers, -, hfound⟩ := fromInternal_members residents "openid" resident
  have hnested : (Json.Value.list [.text "1 Elm Road", .text ""]).Nested ["street", "line"]
      (.object [("street", .object [("line", .list [.text "1 Elm Road", .text ""])])]) :=
    .object _ (.object _ .bare)
  exact ⟨hfirst, hlast, hstreet,
    (hmembers _ _).2 ⟨_, _, _, _, hlast, hstreet, by decide, hnested⟩, by decide,
    hfound _ _ _ _ hlast hstreet⟩

end Mapper

end AttributeProfiles
