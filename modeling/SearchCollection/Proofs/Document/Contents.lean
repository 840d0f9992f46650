import SearchCollection.Document
import SearchCollection.Proofs.Entries
import SearchCollection.Proofs.Schema.Assembled

/-! # What a document holds

A document has one value under the name of each field in the collection, that of
the last field of the name, and beside them the attributes of the record whose
names no field is declared under (`Schema.document_contents`). A field that is
renamed leaves its declared name free: the attribute of that name does not show.
The names of settings are free for attributes.
-/

namespace SearchCollection

namespace Schema

variable {schema : Schema} {record : Record} {key : String}

/-- No field is found for a key exactly when none is declared under it. -/
theorem field?_eq_none_iff :
    schema.field? key = none ↔ ∀ field ∈ schema.fields, field.declaredName ≠ key := by
  simp only [field?, List.find?_eq_none, decide_eq_true_eq]

/-- A document has the output names of the fields, and of the attributes those under which no field
is declared. -/
theorem mem_keys_document :
    key ∈ (schema.document record).map Prod.fst ↔
      (∃ field ∈ schema.fields, field.outputName = key) ∨
      (∃ value, (key, value) ∈ record.attributes) ∧
        ∀ field ∈ schema.fields, field.declaredName ≠ key := by
  rw [document, Entries.mem_keys_ofList, List.map_append, List.mem_append, or_comm]
  simp only [List.map_map, List.mem_map, Function.comp_apply, undeclared, List.mem_filter,
    Option.isNone_iff_eq_none, field?_eq_none_iff]
  refine or_congr_right ⟨?_, ?_⟩
  · rintro ⟨⟨name, value⟩, ⟨member, free⟩, rfl⟩
    exact ⟨⟨value, member⟩, free⟩
  · rintro ⟨⟨value, member⟩, free⟩
    exact ⟨(key, value), ⟨member, free⟩, rfl⟩

/-- An attribute is left where it is unless a field is declared under its name. -/
theorem filter_undeclared :
    (schema.undeclared record).filter (fun entry => entry.1 = key) =
      if ∀ field ∈ schema.fields, field.declaredName ≠ key then
        record.attributes.filter fun entry => entry.1 = key
      else [] := by
  rw [undeclared, List.filter_filter]
  split
  · next free =>
      refine List.filter_congr fun entry _ => ?_
      by_cases same : entry.1 = key
      · simp [same, field?_eq_none_iff.mpr free]
      · simp [same]
  · next taken =>
      rw [List.filter_eq_nil_iff]
      rintro entry - both
      rw [Bool.and_eq_true, decide_eq_true_iff, Option.isNone_iff_eq_none] at both
      exact taken (field?_eq_none_iff.mp (both.1 ▸ both.2))

/-- Under a key stands the value of the last field of the name, or else the last attribute of the
name, unless a field is declared under it. -/
theorem get?_document :
    (schema.document record).get? key =
      (((schema.fields.filter fun field => field.outputName = key).getLast?).map fun field =>
        (field.castValue record).toJson).or
      (if ∀ field ∈ schema.fields, field.declaredName ≠ key then
        ((record.attributes.filter fun entry => entry.1 = key).getLast?).map fun entry =>
          entry.2.toJson
      else none) := by
  rw [document, Entries.get?_ofList, List.filter_append, List.getLast?_append, List.filter_map,
    List.filter_map, List.getLast?_map, List.getLast?_map, Option.map_or, Option.map_map,
    Option.map_map]
  refine congrArg₂ Option.or rfl ?_
  change Option.map (fun entry => entry.2.toJson)
    ((schema.undeclared record).filter fun entry => entry.1 = key).getLast? = _
  rw [filter_undeclared]
  split <;> rfl

/-- Where an item is wanted, there is a last one that is. -/
theorem exists_getLast?_filter {α : Type} {items : List α} {wanted : α → Prop}
    [DecidablePred wanted] (present : ∃ item ∈ items, wanted item) :
    ∃ item, (items.filter fun item => wanted item).getLast? = some item := by
  obtain ⟨item, member, holds⟩ := present
  rw [← Option.isSome_iff_exists, List.getLast?_isSome]
  exact List.ne_nil_of_mem (List.mem_filter.mpr ⟨member, decide_eq_true holds⟩)

/-- **The contents of a document.** Each key of a document occurs once. The keys are the names of
the fields in the collection and those of the attributes that no field is declared under. Under
the name of a field stands the value of the last field of the name, and under another key the last
attribute of the name. So an attribute shows under the declared name of a field only as the value
of a field of that name, and attributes with the names of settings show like all others. -/
theorem document_contents (type : RecordType) (schema : Schema) (record : Record)
    (assembled : assemble type = .ok schema) :
    Entries.Ordered (schema.document record) ∧
    (∀ key, key ∈ (schema.document record).map Prod.fst ↔
      (∃ field ∈ schema.fields, field.outputName = key) ∨
      (∃ value, (key, value) ∈ record.attributes) ∧
        ∀ field ∈ schema.fields, field.declaredName ≠ key) ∧
    (∀ key, (∃ field ∈ schema.fields, field.outputName = key) →
      ∃ last, (schema.fields.filter fun field => field.outputName = key).getLast? = some last ∧
        (schema.document record).get? key = some (last.castValue record).toJson) ∧
    (∀ key ∈ (schema.document record).map Prod.fst,
      (∀ field ∈ schema.fields, field.outputName ≠ key) →
      ∃ last, (record.attributes.filter fun entry => entry.1 = key).getLast? = some last ∧
        (schema.document record).get? key = some last.2.toJson) ∧
    (∀ field ∈ schema.fields,
      field.declaredName ∈ (schema.document record).map Prod.fst ↔
        ∃ other ∈ schema.fields, other.outputName = field.declaredName) ∧
    ∀ (setting : Setting) (value : Value), (setting.name, value) ∈ record.attributes →
      setting.name ∈ (schema.document record).map Prod.fst := by
  refine ⟨Entries.ordered_ofList _, fun key => mem_keys_document, ?_, ?_, ?_, ?_⟩
  · intro key named
    obtain ⟨last, found⟩ := exists_getLast?_filter named
    refine ⟨last, found, ?_⟩
    rw [get?_document, found, Option.map_some, Option.some_or]
  · intro key member unnamed
    obtain ⟨⟨value, native⟩, free⟩ := (mem_keys_document.mp member).resolve_left
      fun ⟨field, fieldMember, named⟩ => unnamed field fieldMember named
    have present : ∃ entry ∈ record.attributes, entry.1 = key := ⟨(key, value), native, rfl⟩
    obtain ⟨last, found⟩ := exists_getLast?_filter present
    have fields : schema.fields.filter (fun field => field.outputName = key) = [] := by
      rw [List.filter_eq_nil_iff]
      intro field fieldMember named
      exact unnamed field fieldMember (of_decide_eq_true named)
    refine ⟨last, found, ?_⟩
    rw [get?_document, fields, found, if_pos free]
    rfl
  · intro field member
    rw [mem_keys_document, or_iff_left]
    rintro ⟨-, free⟩
    exact free field member rfl
  · intro setting value native
    refine mem_keys_document.mpr (.inr ⟨⟨value, native⟩, fun field member same => ?_⟩)
    exact not_named_of_mem_fields assembled member ⟨setting, same.symm⟩

/-- An attribute with the name of a setting stays in the document. -/
theorem document_contents_article : ∃ schema, assemble article = .ok schema ∧
    "default_sorting_field" ∈ (schema.document
      ⟨fun _ => .null, .null, [("default_sorting_field", .text "rank")]⟩).map Prod.fst := by
  obtain ⟨schema, assembled⟩ := exists_assemble_article
  refine ⟨schema, assembled, ?_⟩
  obtain ⟨-, -, -, -, -, settings⟩ := document_contents article schema
    ⟨fun _ => .null, .null, [("default_sorting_field", .text "rank")]⟩ assembled
  exact settings .defaultSortingField (.text "rank") List.mem_cons_self

end Schema

end SearchCollection
