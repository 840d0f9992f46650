import SearchCollection.Proofs.Document.Names
import SearchCollection.Proofs.Schema.Order

/-! # What depends on the order of a declaration

Reordered declarations are assembled to schemas with the same field under each declared
name and the same value of each setting. Where no two fields have one name in the
collection, every record has the same document under both (`assemble_reordered`);
otherwise the order decides which of two fields is the last of a name.
-/

namespace SearchCollection

namespace Schema

variable {schema other : Schema}

/-- Fields with names of their own make the same document in any order. -/
theorem document_eq_of_perm (perm : schema.fields.Perm other.fields)
    (nodup : (schema.fields.map Field.outputName).Nodup) (record : Record) :
    schema.document record = other.document record := by
  have nodupOther : (other.fields.map Field.outputName).Nodup :=
    (perm.map Field.outputName).nodup_iff.mp nodup
  apply Entries.eq_of_get?_eq (Entries.ordered_ofList _) (Entries.ordered_ofList _)
  intro key
  by_cases named : ∃ field ∈ schema.fields, field.outputName = key
  · obtain ⟨field, member, rfl⟩ := named
    have otherMember : field ∈ other.fields := perm.mem_iff.mp member
    exact (get?_document_of_nodup nodup member record).trans
      (get?_document_of_nodup nodupOther otherMember record).symm
  · have unnamed : schema.fields.filter (fun field => field.outputName = key) = [] := by
      rw [List.filter_eq_nil_iff]
      intro field member same
      exact named ⟨field, member, of_decide_eq_true same⟩
    have unnamedOther : other.fields.filter (fun field => field.outputName = key) = [] := by
      apply List.nil_perm.mp
      rw [← unnamed]
      exact perm.filter _
    have free : (∀ field ∈ schema.fields, field.declaredName ≠ key) ↔
        ∀ field ∈ other.fields, field.declaredName ≠ key := by
      simp only [perm.mem_iff]
    have found := @get?_document schema record key
    have foundOther := @get?_document other record key
    rw [unnamed] at found
    rw [unnamedOther] at foundOther
    simp only [← free] at foundOther
    exact found.trans foundOther.symm

end Schema

/-- **The order of a declaration.** Two declarations with the same entries are both assembled or
both refused. Their schemas have the same fields and the same settings in different orders, so
the same field is found under each declared name and the same value for each setting. If no two
fields have one name in the collection, the schemas also give every record the same document. -/
theorem assemble_reordered (type : RecordType) (first second : Declaration)
    (perm : first.entries.Perm second.entries) :
    ((∃ schema, assemble (type.declaring first) = .ok schema) ↔
      ∃ schema, assemble (type.declaring second) = .ok schema) ∧
    ∀ schema other, assemble (type.declaring first) = .ok schema →
      assemble (type.declaring second) = .ok other →
      schema.Reordered other ∧
      (∀ name, schema.field? name = other.field? name) ∧
      (∀ setting, schema.setting? setting = other.setting? setting) ∧
      ((schema.fields.map Field.outputName).Nodup →
        ∀ record, schema.document record = other.document record) := by
  constructor
  · constructor
    · rintro ⟨schema, assembled⟩
      obtain ⟨other, assembledOther, -⟩ := exists_assemble_of_perm perm assembled
      exact ⟨other, assembledOther⟩
    · rintro ⟨schema, assembled⟩
      obtain ⟨other, assembledOther, -⟩ := exists_assemble_of_perm perm.symm assembled
      exact ⟨other, assembledOther⟩
  · intro schema other assembled assembledOther
    obtain ⟨found, assembledFound, reordered⟩ := exists_assemble_of_perm perm assembled
    have same : found = other := Except.ok.inj (assembledFound.symm.trans assembledOther)
    rw [same] at reordered
    have declared : (schema.fields.map Field.declaredName).Nodup :=
      Schema.nodup_declaredName assembled
    have settings : (schema.settings.map Prod.fst).Nodup := Schema.nodup_settings assembled
    refine ⟨reordered, ?_, ?_, ?_⟩
    · intro name
      exact find?_key_eq_of_perm reordered.fields declared name
    · intro setting
      exact congrArg (Option.map Prod.snd)
        (find?_key_eq_of_perm reordered.settings settings setting)
    · intro nodup record
      exact Schema.document_eq_of_perm reordered.fields nodup record

/-- Races are sorted by the rank, which is declared behind the setting. -/
def raceForwards : Declaration where
  entries := [("default_sorting_field", .tokens "rank"), ("id", .tokens "int64"),
    ("rank", .tokens "int32"), ("title", .tokens "string|name:headline")]
  nodup := by simp

/-- The declaration of races read backwards. -/
def raceBackwards : Declaration where
  entries := raceForwards.entries.reverse
  nodup := by simp [raceForwards]

def race : RecordType where
  name := "Race"
  softDelete := true

/-- Races declared forwards and backwards have their fields in different orders and the same
documents. -/
theorem assemble_reordered_race :
    raceForwards.entries.Perm raceBackwards.entries ∧
      ∃ schema other, assemble (race.declaring raceForwards) = .ok schema ∧
        assemble (race.declaring raceBackwards) = .ok other ∧
        schema.fields.map Field.outputName = ["id", "rank", "headline", "__soft_deleted"] ∧
        other.fields.map Field.outputName = ["headline", "rank", "id", "__soft_deleted"] ∧
        ∀ record, schema.document record = other.document record := by
  have perm : raceForwards.entries.Perm raceBackwards.entries :=
    (List.reverse_perm raceForwards.entries).symm
  have computed : (assemble (race.declaring raceForwards)).map
      (fun schema => schema.fields.map Field.outputName) =
        .ok ["id", "rank", "headline", "__soft_deleted"] := rfl
  have computedOther : (assemble (race.declaring raceBackwards)).map
      (fun schema => schema.fields.map Field.outputName) =
        .ok ["headline", "rank", "id", "__soft_deleted"] := rfl
  obtain ⟨both, same⟩ := assemble_reordered race raceForwards raceBackwards perm
  obtain ⟨schema, assembled, names⟩ := exists_of_map_eq_ok computed
  obtain ⟨other, assembledOther⟩ := both.mp ⟨schema, assembled⟩
  rw [assembledOther] at computedOther
  obtain ⟨-, -, -, documents⟩ := same schema other assembled assembledOther
  refine ⟨perm, schema, other, assembled, assembledOther, names, Except.ok.inj computedOther, ?_⟩
  apply documents
  rw [names]
  decide

end SearchCollection
