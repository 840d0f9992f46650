import SearchCollection.Proofs.Field.Acceptance
import SearchCollection.Proofs.Schema.Searched
import SearchCollection.Proofs.Schema.Sorting

/-! # The field that a fault concerns

A fault of a field carries the name that the field is declared under
(`Field.exists_cause_of_resolve`). The entries that assembly adds are never at fault,
and the default sorting field is the only setting whose faults concern a field. So
every fault of a declaration concerns no field, or one that the declaration itself
speaks of (`Declaration.Locates`).
-/

namespace SearchCollection

namespace Field

variable {record name : String} {option : Normalized} {map : OptionMap} {fault : Fault}

/-- The fault of an option concerns the field of the option. -/
theorem Refuses.field?_eq {cause : DeclarationFault} (refuses : Refuses name map cause) :
    cause.field? = some name := by
  cases refuses with
  | type uncertain => rfl
  | modifier oneType fault =>
      obtain ⟨before, modifier, value, after, -, -, ⟨-, rfl⟩ | ⟨-, -, rfl⟩⟩ := fault
      · rfl
      · cases modifier <;> rfl
  | parameter oneType modifiers fault =>
      obtain ⟨before, parameter, entry, after, -, -, -, ⟨-, -, rfl⟩ | ⟨-, -, rfl⟩⟩ := fault <;> rfl

/-- A field is refused for a fault of its own, whatever name it would have had in a collection. -/
theorem exists_cause_of_resolve (refused : resolve record name option = .error fault) :
    ∃ cause : DeclarationFault, fault = .declaration record cause ∧ cause.field? = some name := by
  obtain ⟨cause, rfl, failed⟩ := resolve_eq_error_iff.mp refused
  exact ⟨cause, rfl, (ofMap_eq_error_iff_refuses.mp failed).field?_eq⟩

end Field

namespace Setting

/-- Settings other than the default sorting field concern no field. -/
theorem field?_of_readValues {setting : Setting} {typeOf? : String → Option FieldType}
    {values : List OptionValue} {cause : DeclarationFault}
    (other : setting ≠ .defaultSortingField)
    (failed : setting.readValues typeOf? values = .error cause) : cause.field? = none := by
  cases setting with
  | defaultSortingField => exact (other rfl).elim
  | tokenSeparators | symbolsToIndex =>
      rw [readValues] at failed
      split at failed <;> cases failed
      rfl
  | enableNestedFields =>
      unfold readValues at failed
      dsimp only at failed
      split at failed
      · split at failed <;> cases failed
        rfl
      · cases failed
        rfl

end Setting

namespace Declaration

/-- The option that the declaration gives to the default sorting field names the field. -/
def SortsBy (declaration : Declaration) (name : String) : Prop :=
  ∃ option, (Setting.defaultSortingField.name, option) ∈ declaration.entries ∧
    Setting.SortsBy option.normalize.settingValues name

/-- The field that the fault concerns, if there is one, has a name of the declaration, or the
declaration wants to sort by it. -/
def Locates (declaration : Declaration) (cause : DeclarationFault) : Prop :=
  ∀ name, cause.field? = some name →
    name ∈ declaration.names ∨ cause.ConcernsSorting ∧ declaration.SortsBy name

end Declaration

variable {type : RecordType} {declaration : Declaration} {fault : Fault} {name : String}
  {option : Normalized}

/-- A normal entry comes from the declaration or has one of the two options that are added. -/
theorem declared_or_added (member : (name, option) ∈ type.normalized declaration) :
    (∃ given, (name, given) ∈ declaration.entries ∧ option = given.normalize) ∨
      option = primaryKeyOption.normalize ∨ option = softDeleteOption.normalize := by
  unfold RecordType.normalized at member
  rw [type.entries_complete] at member
  obtain ⟨⟨_, given⟩, entryMember, same⟩ := List.mem_map.mp member
  cases same
  rcases List.mem_append.mp entryMember with front | deletion
  · rcases List.mem_append.mp front with own | key
    · exact .inl ⟨given, own, rfl⟩
    · exact .inr (.inl (congrArg _ (RecordType.option_of_mem_keyEntry key)))
  · exact .inr (.inr (congrArg _ (RecordType.option_of_mem_deletionEntry deletion)))

/-- A field that is at fault has a name of the declaration. -/
theorem locates_of_resolve (member : (name, option) ∈ type.normalized declaration)
    (refused : Field.resolve type.name name option = .error fault) :
    ∃ cause, fault = .declaration type.name cause ∧ declaration.Locates cause := by
  rcases declared_or_added member with ⟨given, declared, -⟩ | rfl | rfl
  · obtain ⟨cause, rfl, concerned⟩ := Field.exists_cause_of_resolve refused
    refine ⟨cause, rfl, fun other concerns => .inl ?_⟩
    obtain rfl := Option.some.inj (concerned.symm.trans concerns)
    exact List.mem_map_of_mem declared
  · cases refused
  · cases refused

/-- A setting that is at fault concerns no field but the one to be sorted by. -/
theorem locates_of_read {setting : Setting} {typeOf? : String → Option FieldType}
    (member : (setting.name, option) ∈ type.normalized declaration)
    (refused : setting.read type.name typeOf? option = .error fault) :
    ∃ cause, fault = .declaration type.name cause ∧ declaration.Locates cause := by
  obtain ⟨cause, failed, rfl⟩ := mapError_eq_error_iff.mp refused
  refine ⟨cause, rfl, fun name concerns => ?_⟩
  by_cases sorting : setting = .defaultSortingField
  · subst sorting
    obtain ⟨concernsSorting, sorts⟩ := Setting.sortsBy_of_readValues_eq_error failed concerns
    rcases declared_or_added member with ⟨given, declared, rfl⟩ | rfl | rfl
    · exact .inr ⟨concernsSorting, given, declared, sorts⟩
    · obtain ⟨text, alone | alone, -⟩ := sorts.given <;> cases alone
    · obtain ⟨text, alone | alone, -⟩ := sorts.given <;> cases alone
  · rw [Setting.field?_of_readValues sorting failed] at concerns
    cases concerns

/-- A field that is searched by default has a name of the declaration. -/
theorem mem_names_of_isSearchable {field : Field}
    (member : (name, option) ∈ type.normalized declaration)
    (resolved : Field.resolve type.name name option = .ok field)
    (searchable : field.isSearchable = true) : field.declaredName ∈ declaration.names := by
  rcases declared_or_added member with ⟨given, declared, -⟩ | rfl | rfl
  · rw [Field.declaredName_of_resolve resolved]
    exact List.mem_map_of_mem declared
  · cases resolved
    cases searchable
  · cases resolved
    cases searchable

end SearchCollection
