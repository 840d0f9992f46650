import Mathlib.Data.List.Nodup
import SearchCollection.Proofs.Document.Contents

/-! # The names of fields in the collection

No two fields of a schema are declared under one name, but a field that is renamed
may take the name of another. The names in the collection are distinct exactly
when the new names are, and none of them is the declared name of a field that
keeps its own (`Field.nodup_outputName_iff`). Then every field has a descriptor
and a place in each document for itself; otherwise the last field of a name takes
the place of the others (`Schema.fields_unshadowed`).
-/

namespace SearchCollection

namespace Field

variable {field : Field} {fields : List Field} {name : String}

theorem outputName_of_renamed (renamed : field.modifiers.name = some name) :
    field.outputName = name := by
  rw [outputName, renamed, Option.getD_some]

theorem outputName_of_kept (kept : field.modifiers.name = none) :
    field.outputName = field.declaredName := by
  rw [outputName, kept, Option.getD_none]

/-- No new name is given twice or belongs to a field that keeps its declared name. -/
structure NamesApart (fields : List Field) : Prop where
  once : (fields.filterMap fun field => field.modifiers.name).Nodup
  free : ∀ renamed ∈ fields, ∀ kept ∈ fields, kept.modifiers.name = none →
    renamed.modifiers.name ≠ some kept.declaredName

/-- Fields whose output names differ have their names apart. -/
theorem namesApart_of_nodup (nodup : (fields.map outputName).Nodup) : NamesApart fields where
  once := by
    refine List.pairwise_filterMap.mpr ((List.pairwise_map.mp nodup).imp fun {first second} => ?_)
    intro differ name renamed other renamedOther same
    apply differ
    rw [outputName_of_renamed renamed, outputName_of_renamed renamedOther, same]
  free := by
    intro renamed member kept keptMember keeps taken
    have same : renamed.outputName = kept.outputName := by
      rw [outputName_of_renamed taken, outputName_of_kept keeps]
    have equal : renamed = kept := List.inj_on_of_nodup_map nodup member keptMember same
    rw [equal, keeps] at taken
    cases taken

/-- Declared fields whose names are apart have different output names. -/
theorem nodup_of_namesApart (declared : (fields.map declaredName).Nodup)
    (apart : NamesApart fields) : (fields.map outputName).Nodup := by
  have pairs := (List.pairwise_map.mp declared).and (List.pairwise_filterMap.mp apart.once)
  refine List.pairwise_map.mpr (pairs.imp_of_mem fun {first second} member later => ?_)
  rintro ⟨declaredDiffer, newDiffer⟩ same
  cases firstName : first.modifiers.name with
  | none =>
      rw [outputName_of_kept firstName] at same
      cases secondName : second.modifiers.name with
      | none => exact declaredDiffer (same.trans (outputName_of_kept secondName))
      | some name =>
          rw [outputName_of_renamed secondName] at same
          exact apart.free second later first member firstName (secondName.trans (same ▸ rfl))
  | some name =>
      rw [outputName_of_renamed firstName] at same
      cases secondName : second.modifiers.name with
      | none =>
          rw [outputName_of_kept secondName] at same
          exact apart.free first member second later secondName (firstName.trans (same ▸ rfl))
      | some other =>
          rw [outputName_of_renamed secondName] at same
          exact newDiffer name firstName other secondName same

/-- The names in the collection are distinct exactly when the new ones stay apart from each other
and from the names that are kept. -/
theorem nodup_outputName_iff (declared : (fields.map declaredName).Nodup) :
    (fields.map outputName).Nodup ↔ NamesApart fields :=
  ⟨namesApart_of_nodup, nodup_of_namesApart declared⟩

end Field

namespace Schema

variable {schema : Schema} {field : Field} {before after : List Field}

/-- The value of a field stays unless a later field has its name in the collection. -/
theorem get?_document_of_last (split : schema.fields = before ++ field :: after)
    (last : ∀ later ∈ after, later.outputName ≠ field.outputName) (record : Record) :
    (schema.document record).get? field.outputName = some (field.castValue record).toJson := by
  have behind : after.filter (fun later => later.outputName = field.outputName) = [] := by
    rw [List.filter_eq_nil_iff]
    intro later member same
    exact last later member (of_decide_eq_true same)
  have found : (schema.fields.filter fun other =>
      other.outputName = field.outputName).getLast? = some field := by
    rw [split, List.filter_append, List.filter_cons_of_pos (by simp), behind,
      List.getLast?_append]
    rfl
  rw [get?_document, found, Option.map_some, Option.some_or]

/-- Where output names differ, every field is read from a document under its own. -/
theorem get?_document_of_nodup (nodup : (schema.fields.map Field.outputName).Nodup)
    (member : field ∈ schema.fields) (record : Record) :
    (schema.document record).get? field.outputName = some (field.castValue record).toJson := by
  obtain ⟨before, after, split⟩ := List.append_of_mem member
  refine get?_document_of_last split (fun later laterMember same => ?_) record
  rw [split, List.map_append, List.map_cons] at nodup
  have absent := (List.nodup_cons.mp (List.nodup_append.mp nodup).2.1).1
  exact absent (List.mem_map.mpr ⟨later, laterMember, same⟩)

/-- No two fields of an assembled schema are declared under one name. -/
theorem nodup_declaredName {type : RecordType} (assembled : assemble type = .ok schema) :
    (schema.fields.map Field.declaredName).Nodup := by
  obtain ⟨declaration, declared⟩ := exists_declared_of_assemble assembled
  obtain ⟨-, -, resolves, -⟩ := (assemble_eq_ok_iff declared).mp assembled
  rw [resolves.map_declaredName]
  exact nodup_fieldEntries (type.nodup_normalized declaration)

/-- The descriptors carry the output names of the fields. -/
theorem names_descriptors (schema : Schema) :
    schema.collectionSchema.fields.map Field.Descriptor.name =
      schema.fields.map Field.outputName := by
  rw [collectionSchema, List.map_map]
  rfl

/-- **When no field is shadowed.** The declared names of the fields of a schema are distinct. Their
names in the collection are distinct, and so are those of the descriptors, exactly when the new
names are given once each and none is the declared name of a field that keeps it. Then every
document has the value of every field under the field's name. In any case it has the value of each
field behind which no other has its name. -/
theorem fields_unshadowed (type : RecordType) (schema : Schema)
    (assembled : assemble type = .ok schema) :
    (schema.fields.map Field.declaredName).Nodup ∧
    ((schema.fields.map Field.outputName).Nodup ↔ Field.NamesApart schema.fields) ∧
    ((schema.collectionSchema.fields.map Field.Descriptor.name).Nodup ↔
      Field.NamesApart schema.fields) ∧
    (Field.NamesApart schema.fields → ∀ (record : Record), ∀ field ∈ schema.fields,
      (schema.document record).get? field.outputName = some (field.castValue record).toJson) ∧
    ∀ (record : Record) (before : List Field) (field : Field) (after : List Field),
      schema.fields = before ++ field :: after →
      (∀ later ∈ after, later.outputName ≠ field.outputName) →
      (schema.document record).get? field.outputName = some (field.castValue record).toJson := by
  have declared := nodup_declaredName assembled
  have distinct : (schema.fields.map Field.outputName).Nodup ↔ Field.NamesApart schema.fields :=
    Field.nodup_outputName_iff declared
  refine ⟨declared, distinct, ?_, ?_, ?_⟩
  · rw [names_descriptors]
    exact distinct
  · intro apart record field member
    exact get?_document_of_nodup (distinct.mpr apart) member record
  · intro record before field after split last
    exact get?_document_of_last split last record

/-- Memos call their text by the name that their subject would have if it kept its own. -/
def memo : RecordType where
  name := "Memo"
  declared := .ok (.ofList [("text", .tokens "string|name:subject"),
    ("subject", .tokens "string|name:headline")])
  softDelete := true

/-- The subject and the text of a memo are told apart, since the subject gives its own name up. -/
theorem fields_unshadowed_memo : ∃ schema, assemble memo = .ok schema ∧
    Field.NamesApart schema.fields ∧
    schema.fields.map Field.outputName = ["subject", "headline", "id", "__soft_deleted"] := by
  have computed : (assemble memo).map (fun schema => schema.fields.map Field.outputName) =
      .ok ["subject", "headline", "id", "__soft_deleted"] := rfl
  obtain ⟨schema, assembled⟩ : ∃ schema, assemble memo = .ok schema :=
    exists_eq_ok_of_isOk (by decide)
  rw [assembled] at computed
  have names : schema.fields.map Field.outputName =
      ["subject", "headline", "id", "__soft_deleted"] := Except.ok.inj computed
  obtain ⟨-, distinct, -⟩ := fields_unshadowed memo schema assembled
  refine ⟨schema, assembled, distinct.mp ?_, names⟩
  rw [names]
  decide

/-- An article with a headline and no title. -/
def untitled : Record where
  read name := if name = "headline" then .text "Dawn" else .null
  primaryKeyValue := .text "1"
  attributes := []

/-- The headline of an article goes by the name of the title. -/
def headlineField : Field :=
  ⟨"headline", .string, { Modifiers.default "headline" with name := some "title" }, []⟩

/-- The field of the title takes the place of the headline, also where there is no title. -/
theorem headline_shadowed : ∃ schema, assemble article = .ok schema ∧
    ¬(schema.fields.map Field.outputName).Nodup ∧
    ¬(schema.collectionSchema.fields.map Field.Descriptor.name).Nodup ∧
    headlineField ∈ schema.fields ∧
    (headlineField.castValue untitled).toJson = .string "Dawn" ∧
    (schema.document untitled).get? headlineField.outputName = some (.string "") := by
  have names : (assemble article).map (fun schema => schema.fields.map Field.outputName) =
      .ok ["title", "title", "rank", "id"] := rfl
  have first : (assemble article).map (fun schema => schema.fields.head?) =
      .ok (some headlineField) := rfl
  have shown : (assemble article).map (fun schema => (schema.document untitled).get? "title") =
      .ok (some (.string "")) := rfl
  obtain ⟨schema, assembled⟩ := exists_assemble_article
  rw [assembled] at names first shown
  have repeated : ¬(schema.fields.map Field.outputName).Nodup := by
    have all : schema.fields.map Field.outputName = ["title", "title", "rank", "id"] :=
      Except.ok.inj names
    rw [all]
    decide
  refine ⟨schema, assembled, repeated, ?_, ?_, rfl, Except.ok.inj shown⟩
  · rwa [names_descriptors]
  · exact List.mem_of_head? (Except.ok.inj first)

end Schema

end SearchCollection
