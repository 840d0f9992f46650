import SearchCollection.Cast

/-! # The forms that values are cast to

A field type asks for one item of a shape, for a list of items of a shape, or for
nothing (`FieldType.form`). Casting to a type is casting to its form: an item is
cast to its shape, null included, and a list item by item (`FieldType.cast_eq_cast_form`).
The JSON of a cast value therefore fits the form of the type, whatever value was
cast (`FieldType.fits_toJson_cast`), and a list type casts the items of a list as
the type of its items does (`FieldType.cast_items`).
-/

namespace SearchCollection

inductive Shape where
  | text
  | integer
  | float
  | boolean
  | compound
deriving DecidableEq

namespace Shape

/-- Whether a tree is one of the shape. Every shape but a text may be missing, which is null; a
compound is a list or an object of anything. -/
def fits : Shape → Json → Bool
  | .text, .string _ => true
  | .integer, .null => true
  | .integer, .number (.integer _) => true
  | .float, .null => true
  | .float, .number (.float value) => value.isFinite
  | .boolean, .null => true
  | .boolean, .bool _ => true
  | .compound, .null => true
  | .compound, .array _ => true
  | .compound, .object _ => true
  | _, _ => false

/-- The value as an item of the shape. -/
def cast : Shape → Value → Value
  | .text => Value.castText
  | .integer => Value.castInt
  | .float => Value.castFloat
  | .boolean => Value.castBool
  | .compound => Value.castStructure

/-- A double that is not finite is null in JSON, and so missing. -/
theorem fits_toJson_float (value : Binary64) : Shape.float.fits (Value.float value).toJson := by
  rw [Value.toJson]
  split
  · next finite => exact finite
  · rfl

/-- A value cast to a shape is written as an item of that shape. -/
theorem fits_toJson_cast (shape : Shape) (value : Value) :
    shape.fits (shape.cast value).toJson := by
  cases shape with
  | text => cases value <;> rfl
  | integer => cases value <;> rfl
  | float =>
      cases value with
      | null => rfl
      | _ => exact fits_toJson_float _
  | boolean => cases value <;> rfl
  | compound => cases value <;> rfl

end Shape

/-- The items of a list; any other value is the only item, and null is none. -/
def Value.listed : Value → List Value
  | .null => []
  | .array items => items
  | value => [value]

/-- What a field type asks for. -/
inductive Form where
  | any
  | item (shape : Shape)
  | list (shape : Shape)
deriving DecidableEq

namespace Form

/-- Whether a tree is of the form. A list is never null and holds items of its shape only. -/
def fits : Form → Json → Bool
  | .any, _ => true
  | .item shape, json => shape.fits json
  | .list shape, .array items => items.all shape.fits
  | .list _, _ => false

/-- The value cast to the form: as it is, to an item, or item by item, where null has no items and
what is no list is the only item. -/
def cast : Form → Value → Value
  | .any, value => value
  | .item shape, value => shape.cast value
  | .list _, .null => .array []
  | .list shape, value => value.wrap.castEach shape.cast

/-- What is cast to a list is one, of the items cast one by one. -/
theorem cast_list (shape : Shape) (value : Value) :
    (Form.list shape).cast value = .array (value.listed.map shape.cast) := by
  cases value <;> rfl

/-- A value cast to a form is written as a tree of that form. -/
theorem fits_toJson_cast (form : Form) (value : Value) : form.fits (form.cast value).toJson := by
  cases form with
  | any => rfl
  | item shape => exact shape.fits_toJson_cast value
  | list shape =>
      rw [cast_list, Value.toJson, Value.itemsToJson_eq_map, List.map_map, fits, List.all_eq_true]
      intro json member
      obtain ⟨item, -, rfl⟩ := List.mem_map.mp member
      exact shape.fits_toJson_cast item

/-- What fits the form of a list is a list. -/
theorem exists_array_of_fits {shape : Shape} {json : Json} (fitting : (Form.list shape).fits json) :
    ∃ items, json = .array items ∧ ∀ item ∈ items, shape.fits item := by
  cases json with
  | array items => exact ⟨items, rfl, List.all_eq_true.mp fitting⟩
  | _ => cases fitting

end Form

namespace FieldType

def form : FieldType → Form
  | .auto | .stringAuto => .any
  | .string | .image => .item .text
  | .stringArray => .list .text
  | .int32 | .int64 => .item .integer
  | .int32Array | .int64Array => .list .integer
  | .float => .item .float
  | .floatArray => .list .float
  | .bool => .item .boolean
  | .boolArray => .list .boolean
  | .object | .geopoint => .item .compound
  | .geopolygon | .geopointArray | .objectArray => .list .compound

/-- Casting to a type is casting to its form. What null becomes is listed apart for the types, and
is what the shapes make of it. -/
theorem cast_eq_cast_form (type : FieldType) (value : Value) :
    type.cast value = type.form.cast value := by
  cases value with
  | null => cases type <;> rfl
  | _ => cases type <;> rfl

/-- A value cast to a field type is written as what the type asks for. -/
theorem fits_toJson_cast (type : FieldType) (value : Value) :
    type.form.fits (type.cast value).toJson := by
  rw [cast_eq_cast_form]
  exact type.form.fits_toJson_cast value

/-- The type of the items of a list type. The numbers of a polygon have no type of their own. -/
def itemType? : FieldType → Option FieldType
  | .stringArray => some .string
  | .int32Array => some .int32
  | .int64Array => some .int64
  | .floatArray => some .float
  | .boolArray => some .bool
  | .geopointArray => some .geopoint
  | .objectArray => some .object
  | .auto | .string | .stringAuto | .int32 | .int64 | .float | .bool | .geopoint | .geopolygon
  | .object | .image => none

variable {list item : FieldType}

/-- A list type asks for a list of the very shape that the type of its items asks for. -/
theorem exists_shape_of_itemType? (paired : list.itemType? = some item) :
    ∃ shape, list.form = .list shape ∧ item.form = .item shape := by
  cases list with
  | stringArray | int32Array | int64Array | floatArray | boolArray | geopointArray | objectArray =>
      cases paired
      exact ⟨_, rfl, rfl⟩
  | _ => cases paired

/-- A value is cast to a list type by casting each of its items to the type of the items. -/
theorem cast_eq_map_listed (paired : list.itemType? = some item) (value : Value) :
    list.cast value = .array (value.listed.map item.cast) := by
  obtain ⟨shape, listForm, itemForm⟩ := exists_shape_of_itemType? paired
  have each : item.cast = shape.cast := by
    funext value
    rw [cast_eq_cast_form, itemForm, Form.cast]
  rw [cast_eq_cast_form, listForm, Form.cast_list, each]

/-- **Lists are cast item by item.** A list type casts a list to the list of its items, each cast
to the type of the items, null and lists among them. It casts null to the empty list and any other
value to the list of that value's cast. -/
theorem cast_items (paired : list.itemType? = some item) :
    (∀ items, list.cast (.array items) = .array (items.map item.cast)) ∧
    list.cast .null = .array [] ∧
    ∀ value, value ≠ .null → (∀ items, value ≠ .array items) →
      list.cast value = .array [item.cast value] := by
  refine ⟨fun items => ?_, ?_, fun value some single => ?_⟩
  · rw [cast_eq_map_listed paired, Value.listed]
  · rw [cast_eq_map_listed paired, Value.listed, List.map_nil]
  · have listed : value.listed = [value] := by
      cases value with
      | null => exact (some rfl).elim
      | array items => exact (single items rfl).elim
      | _ => rfl
    rw [cast_eq_map_listed paired, listed, List.map_singleton]

/-- A list of places keeps its missing item and its point, and what is no point becomes a list of
its own. -/
theorem cast_items_geopoints :
    geopointArray.itemType? = some .geopoint ∧
    geopointArray.cast (.array [.null, .array [.int 52, .null], .text "Oslo", .object []]) =
      .array [.null, .array [.int 52, .null], .array [.text "Oslo"], .object []] ∧
    geopointArray.cast .null = .array [] ∧
    geopointArray.cast (.text "Oslo") = .array [.array [.text "Oslo"]] := by
  have paired : geopointArray.itemType? = some .geopoint := rfl
  obtain ⟨listed, none, single⟩ := cast_items paired
  refine ⟨paired, listed _, none, ?_⟩
  apply single
  · exact Value.noConfusion
  · exact fun items => Value.noConfusion

end FieldType

end SearchCollection
