import SearchCollection.Fault

/-! # What a type is suited for

Not every type may be queried by default or sorted by. A field whose type is not
suited is a fault of the declaration.
-/

namespace SearchCollection.FieldType

/-- The field may stand in the default list of query fields, or a fault says that it may not. -/
def checkQueryable (type : FieldType) (field : String) : Except DeclarationFault Unit :=
  if type.isQueryable then .ok () else .error (.typeNotQueryable field type)

/-- Documents may be sorted by the field, or a fault says that they may not. -/
def checkSortable (type : FieldType) (field : String) : Except DeclarationFault Unit :=
  if type.isSortable then .ok () else .error (.sortingFieldNotSortable field type)

end SearchCollection.FieldType
