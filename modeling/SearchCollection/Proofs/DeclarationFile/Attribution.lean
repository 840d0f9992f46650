import SearchCollection.Proofs.Declaration
import SearchCollection.Proofs.DeclarationFile.Grammar
import SearchCollection.Proofs.Registry.Attribution

/-! # Faults point at the declaration file

Whatever is at fault with the declaration of a file, the fault carries the name of the
record type, and the field it concerns has a key in the file or is the one that the
file wants to sort by (`FileRecordType.Locates`). This holds of every request, also
when a registry answers it with fields that were resolved for another file of the same
name and declaration (`faults_attributed`).
-/

namespace SearchCollection

namespace FileRecordType

variable {type : FileRecordType} {declaration : Declaration} {fault : Fault} {name : String}

/-- The schema of the file has a key with the text. -/
def HasKey (type : FileRecordType) (name : String) : Prop :=
  ∃ members, type.schema = some (.mapping members) ∧ ∃ member ∈ members, member.1.HasText name

/-- The default sorting field of the file's declaration is set to the name. -/
def SortsBy (type : FileRecordType) (name : String) : Prop :=
  ∃ declaration, type.toRecordType.declared = .ok declaration ∧ declaration.SortsBy name

/-- The fault is one of the record type's declaration, and the field it concerns, if there is one,
has a key in the file or is the one that the file wants to sort by and cannot. -/
structure Locates (type : FileRecordType) (fault : Fault) : Prop where
  declaration : fault.isDeclaration = true
  record : fault.record? = some type.name
  field : ∀ name, fault.field? = some name → type.HasKey name ∨
    (∃ cause, fault = .declaration type.name cause ∧ cause.ConcernsSorting) ∧ type.SortsBy name

/-- The names of a declaration are the texts of the file's keys. -/
theorem hasKey_of_mem_names (declared : type.toRecordType.declared = .ok declaration)
    (member : name ∈ declaration.names) : type.HasKey name := by
  have read : Yaml.declaration type.schema = .ok declaration := mapError_eq_ok_iff.mp declared
  unfold Yaml.declaration at read
  split at read
  · cases read
  · cases read
  · next members given =>
      obtain ⟨entries, each, rfl⟩ := ((Yaml.answers_declaration members).ok_iff declaration).mp read
      rw [Declaration.names_ofList, List.mem_eraseDups] at member
      obtain ⟨entry, entryMember, rfl⟩ := List.mem_map.mp member
      obtain ⟨key, keyMember, named, -⟩ := exists_mem_of_forall₂ each entryMember
      exact ⟨members, given, key, keyMember, named⟩
  · cases read

/-- The fault that keeps a file from having a declaration is in the file. -/
theorem locates_of_declared (undeclared : type.toRecordType.declared = .error fault) :
    type.Locates fault := by
  obtain ⟨cause, read, rfl⟩ := mapError_eq_error_iff.mp undeclared
  refine ⟨rfl, rfl, fun name concerns => .inl ?_⟩
  unfold Yaml.declaration at read
  split at read
  · cases read
    cases concerns
  · cases read
    cases concerns
  · next members given =>
      obtain ⟨fine, fails⟩ := ((Yaml.answers_declaration members).error_iff cause).mp read
      cases fails with
      | key tree nameless => cases concerns
      | option named bad =>
          cases concerns
          exact ⟨_, given, _, List.mem_append_right _ List.mem_cons_self, named⟩
  · cases read
    cases concerns

end FileRecordType

/-- **Faults point at their record type and field.** Take a registry that has answered any requests
about record types from files, of which those of one name have one declaration. Whatever request
about such a record type it then refuses, the fault is one of a declaration and carries the name of
the record type. The field that it concerns, if there is one, has a key in the file; the entries
that assembly adds are never at fault. Only where the default sorting field is at fault it can be
the name that this is set to. The lookup of a single field is refused under the declared name of
the field, by every registry. -/
theorem faults_attributed (types : FileRecordType → Prop)
    (one : ∀ first second, types first → types second → first.name = second.name →
      first.toRecordType.declared = second.toRecordType.declared)
    (requests : List Request)
    (among : ∀ request ∈ requests, ¬request.AsksField ∧ ∀ asked, request.type? = some asked →
      ∃ type, types type ∧ type.toRecordType = asked) :
    (∀ type, types type → ∀ request : Request, request.type? = some type.toRecordType →
      ∀ fault, ((Registry.empty.after requests).perform request).answer = .error fault →
        type.Locates fault) ∧
    ∀ (registry : Registry) (record name : String) (option : Normalized) (fault : Fault),
      (registry.resolveField record name option).answer = .error fault →
        fault.isDeclaration = true ∧ fault.record? = some record ∧ fault.field? = some name := by
  constructor
  · intro type member request asked fault failed
    have keeps := Registry.keeps_after among
    have oneDeclaration :
        OneDeclaration fun asked => ∃ type, types type ∧ type.toRecordType = asked := by
      rintro _ _ ⟨first, firstMember, rfl⟩ ⟨second, secondMember, rfl⟩ same
      exact one first second firstMember secondMember same
    rcases Registry.attributed_of_perform oneDeclaration keeps ⟨type, member, rfl⟩ asked failed with
      undeclared | ⟨declaration, cause, declared, rfl, located⟩
    · exact FileRecordType.locates_of_declared undeclared
    · refine ⟨rfl, rfl, fun name concerns => ?_⟩
      rcases located name concerns with named | ⟨concernsSorting, sorts⟩
      · exact .inl (FileRecordType.hasKey_of_mem_names declared named)
      · exact .inr ⟨⟨cause, rfl, concernsSorting⟩, declaration, declared, sorts⟩
  · intro registry record name option fault failed
    have lookup := registry.resolveField_lookup record name option
    generalize registry.resolveField record name option = outcome at lookup failed
    cases lookup with
    | refused missing refused =>
        cases failed
        obtain ⟨cause, rfl, concerned⟩ := Field.exists_cause_of_resolve refused
        exact ⟨rfl, rfl, concerned⟩
    | _ => cases failed

/-- Catalogs with one schema and different names for the primary key. -/
def catalog (primaryKey : String) : FileRecordType where
  name := "Catalog"
  primaryKey := primaryKey
  softDelete := true
  deletedAt := "removed"
  instants := []
  schema := some (.mapping [(.string "title", .string "string|name:heading|searchable"),
    (.number (.integer 7),
      .sequence [.string "int32", .mapping [(.string "searchable", .bool true)]])])
  source := none

/-- The schema of one catalog is kept and then handed out for another. -/
def catalogRequests : List Request :=
  [.invalidate "Catalog", .resolve (catalog "isbn").toRecordType,
    .lint (catalog "removed").toRecordType]

/-- The schema of one catalog is handed out for another, and the fault that follows from it is
located in the file of the other all the same. -/
theorem faults_attributed_catalog :
    ((Registry.empty.after catalogRequests).perform
        (.queryBy (catalog "id").toRecordType)).answer =
      .error (.declaration "Catalog" (.typeNotQueryable "7" .int32)) ∧
    (catalog "id").Locates (.declaration "Catalog" (.typeNotQueryable "7" .int32)) := by
  have refused : ((Registry.empty.after catalogRequests).perform
      (.queryBy (catalog "id").toRecordType)).answer =
      .error (.declaration "Catalog" (.typeNotQueryable "7" .int32)) := rfl
  refine ⟨refused, ?_⟩
  have attributed := faults_attributed (fun type => ∃ key, type = catalog key) ?_ catalogRequests ?_
  · exact attributed.1 (catalog "id") ⟨"id", rfl⟩ (.queryBy _) rfl _ refused
  · rintro _ _ ⟨first, rfl⟩ ⟨second, rfl⟩ -
    rfl
  · simp only [catalogRequests, List.forall_mem_cons, List.not_mem_nil, false_implies,
      implies_true, and_true]
    refine ⟨⟨id, fun _ asked => nomatch asked⟩, ⟨id, ?_⟩, id, ?_⟩
    · rintro _ ⟨⟩
      exact ⟨_, ⟨"isbn", rfl⟩, rfl⟩
    · rintro _ ⟨⟩
      exact ⟨_, ⟨"removed", rfl⟩, rfl⟩

end SearchCollection
