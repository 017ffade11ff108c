import AttributeProfiles.Config.Loading
import AttributeProfiles.Proofs.Json.Reading

/-!
# Configurations written and read

A configuration is written as the JSON text of a value and read through the document that the text
says. Every part of the value says the document that the part is read from, so the configuration is
read back as it was, valid or not, with its tables in the order of their declaration.
-/

namespace AttributeProfiles

theorem Files.readText_toUTF8 {files : Files} {path text : String}
    (stored : files path = .ok text.toUTF8) : files.readText path = .ok text := by
  have hbytes : String.fromUTF8? text.toUTF8 = some text := dif_pos text.isValidUTF8
  unfold readText
  rw [stored]
  dsimp only [bind, Except.bind]
  rw [hbytes]

namespace Json.Value

def document (v : Value) : Document := v.tree.document

@[simp] theorem document_text (s : String) : document (.text s) = .text s := by
  simp [document, tree, Tree.document]

@[simp] theorem document_list (items : List Value) :
    document (.list items) = .list (items.map document) := by
  have hitems : Tree.documents (itemTrees items) = items.map document := by
    induction items with
    | nil => rfl
    | cons item items ih => rw [itemTrees, Tree.documents, ih, List.map_cons, document]
  rw [document, tree, Tree.document, hitems]

@[simp] theorem document_object (members : List (String × Value)) :
    document (.object members) = .table (members.map fun m => (m.1, m.2.document)) := by
  have hmembers : Tree.entries? (memberTrees members) =
      some (members.map fun m => (m.1, m.2.document)) := by
    induction members with
    | nil => rfl
    | cons m members ih =>
      obtain ⟨name, value⟩ := m
      simp [memberTrees, Tree.entries?, ih, document]
  rw [document, tree, Tree.document, hmembers]

end Json.Value

namespace Document

@[simp] theorem names?_texts (names : List String) :
    (Json.Value.texts names).document.names? = some names := by
  rw [Json.Value.texts, Json.Value.document_list, List.map_map]
  exact Outcome.mapM_map_eq_some fun name _ => by simp [text?]

theorem table?_object {α : Type} {value : Document → Option α} {write : α → Json.Value}
    (h : ∀ a, value (write a).document = some a) (t : Table α) :
    (Json.Value.object (t.entries.map fun e => (e.1, write e.2))).document.table? value =
      some t := by
  have hread : ∀ e ∈ t.entries, (value (write e.2).document).map (e.1, ·) = some e := by
    intro e _
    rw [h, Option.map_some]
  have hentries : (t.entries.map fun e => (e.1, (write e.2).document)).mapM
      (fun d => (value d.2).map (d.1, ·)) = some t.entries :=
    Outcome.mapM_map_eq_some hread
  rw [Json.Value.document_object, List.map_map, table?]
  show ((t.entries.map fun e => (e.1, (write e.2).document)).mapM
    (fun d => (value d.2).map (d.1, ·))).bind (fun read => some (Table.ofList read)) = some t
  rw [hentries, Option.bind_some, Table.ofList_entries]

theorem attributeTable?_tableValue (t : AttributeTable) :
    (Config.tableValue t).document.attributeTable? = some t :=
  table?_object (fun lists : NameLists => table?_object names?_texts lists) t

@[simp] theorem char?_toString (c : Char) :
    (Json.Value.text c.toString).document.char? = some c := by
  rw [Json.Value.document_text]
  simp [char?]

theorem options?_optionsValue (surplus : Surplus) (o : Options) :
    (Config.optionsValue o).document.options? surplus = some o := by
  have hfields : (Config.optionsValue o).document.fields? surplus
      ["separator", "multivalue_separator", "template_marker"] =
        some [some (Json.Value.text o.separator.toString).document,
          some (Json.Value.text o.multivalueSeparator.toString).document,
          some (Json.Value.text o.templateMarker.toString).document] := by
    simp only [Config.optionsValue, Json.Value.document_object]
    rfl
  rw [options?, hfields]
  simp only [Option.bind_eq_bind, Option.bind_some, fieldOr, char?_toString]

theorem optionalTable?_tableValue (t : AttributeTable) :
    (Config.tableValue t).document.optionalTable? = some (some t) := by
  have hread := attributeTable?_tableValue t
  rw [Config.tableValue, Json.Value.document_object] at hread ⊢
  rw [optionalTable?, hread, Option.map_some]
  simp

end Document

namespace Config

theorem config?_toValue (surplus : Document.Surplus) (c : Config) :
    c.toValue.document.config? surplus = some c := by
  have hfields : c.toValue.document.fields? surplus
      ["attributes", "template_attributes", "options"] =
        some [some (tableValue c.attributes).document,
          c.templateAttributes.map fun t => (tableValue t).document,
          some (optionsValue c.options).document] := by
    rw [toValue, Json.Value.document_object]
    cases c.templateAttributes <;> rfl
  have hderived : Document.fieldOr none Document.optionalTable?
      (c.templateAttributes.map fun t => (tableValue t).document) = some c.templateAttributes := by
    cases c.templateAttributes with
    | none => rfl
    | some t => exact Document.optionalTable?_tableValue t
  rw [Document.config?, hfields]
  simp only [Option.bind_eq_bind, Option.bind_some, Document.attributeTable?_tableValue, hderived]
  simp only [Document.fieldOr, Document.options?_optionsValue, Option.bind_some]

theorem readable_tableValue (t : AttributeTable) : Json.Readable 3 (tableValue t) := by
  refine .object ?_ fun m hm => ?_
  · rw [List.map_map]
    exact t.distinct
  · obtain ⟨e, -, rfl⟩ := List.mem_map.1 hm
    refine .object ?_ fun m hm => ?_
    · rw [List.map_map]
      exact e.2.distinct
    · obtain ⟨l, -, rfl⟩ := List.mem_map.1 hm
      exact .texts 0 l.2

theorem readable_optionsValue (o : Options) : Json.Readable 1 (optionsValue o) := by
  refine .object (by simp) ?_
  simp only [List.forall_mem_cons]
  exact ⟨.text 0 _, .text 0 _, .text 0 _, by simp⟩

theorem readable_toValue (c : Config) : Json.Readable 4 c.toValue := by
  have hoptions : Json.Readable 3 (optionsValue c.options) :=
    (readable_optionsValue c.options).mono (by decide)
  refine .object ?_ ?_
  · cases c.templateAttributes <;> simp
  · cases c.templateAttributes with
    | none =>
      simp [readable_tableValue, hoptions]
    | some t =>
      simp [readable_tableValue, hoptions]

theorem ofJson?_toJson (c : Config) : ofJson? c.toJson = some c := by
  rw [ofJson?, toJson, Json.Value.read?_tree_compact c.readable_toValue, Option.bind_some]
  exact config?_toValue .refused c

/-- A configuration is read back from the JSON text that is written for it. -/
theorem parse_toJson (c : Config) : parse .json c.toJson = .ok c := by
  unfold parse
  dsimp only
  rw [ofJson?_toJson]

theorem read_toJson {files : Files} {path : String} {c : Config}
    (stored : files path = .ok c.toJson.toUTF8) (hpath : Format.ofPath path = .json) :
    read files path = .ok c := by
  have hexists : files.existsAt path = true := by
    unfold Files.existsAt
    rw [stored]
  unfold read
  rw [hexists, Files.readText_toUTF8 stored, hpath]
  unfold parse
  dsimp only
  rw [ofJson?_toJson]
  rfl

end Config

end AttributeProfiles
