import SearchCollection.Proofs.Cast.Forms

/-! # What casting leaves alone

A value may be of the form that a type asks for already (`Form.holds`). Casting to
the form gives only such values (`Form.holds_cast`) and leaves them as they are
(`Form.cast_of_holds`), so a value that has been cast is not changed by casting it
again (`FieldType.cast_settles`).
-/

namespace SearchCollection

namespace Shape

/-- Whether a value is an item of the shape. Every shape but a text may be missing; a compound is a
list or an object of anything. -/
def holds : Shape → Value → Bool
  | .text, .text _ => true
  | .integer, .null => true
  | .integer, .int _ => true
  | .float, .null => true
  | .float, .float _ => true
  | .boolean, .null => true
  | .boolean, .bool _ => true
  | .compound, .null => true
  | .compound, .array _ => true
  | .compound, .object _ => true
  | _, _ => false

/-- A value cast to a shape is an item of that shape. -/
theorem holds_cast (shape : Shape) (value : Value) : shape.holds (shape.cast value) := by
  cases shape <;> cases value <;> rfl

/-- An item of a shape is left as it is when it is cast to it. -/
theorem cast_of_holds {shape : Shape} {value : Value} (held : shape.holds value) :
    shape.cast value = value := by
  cases shape with
  | text =>
      cases value with
      | text => rfl
      | _ => cases held
  | integer =>
      cases value with
      | null | int => rfl
      | _ => cases held
  | float =>
      cases value with
      | null | float => rfl
      | _ => cases held
  | boolean =>
      cases value with
      | null | bool => rfl
      | _ => cases held
  | compound =>
      cases value with
      | null | array | object => rfl
      | _ => cases held

end Shape

namespace Form

/-- Whether a value is of the form. A list is never null and holds items of its shape only. -/
def holds : Form → Value → Bool
  | .any, _ => true
  | .item shape, value => shape.holds value
  | .list shape, .array items => items.all shape.holds
  | .list _, _ => false

/-- A value cast to a form is of that form. -/
theorem holds_cast (form : Form) (value : Value) : form.holds (form.cast value) := by
  cases form with
  | any => rfl
  | item shape => exact shape.holds_cast value
  | list shape =>
      rw [cast_list, holds, List.all_eq_true]
      intro item member
      obtain ⟨given, -, rfl⟩ := List.mem_map.mp member
      exact shape.holds_cast given

/-- A value of a form is left as it is when it is cast to it. -/
theorem cast_of_holds {form : Form} {value : Value} (held : form.holds value) :
    form.cast value = value := by
  cases form with
  | any => rfl
  | item shape => exact Shape.cast_of_holds held
  | list shape =>
      cases value with
      | array items =>
          have each : ∀ item ∈ items, shape.cast item = item := by
            intro item member
            exact Shape.cast_of_holds (List.all_eq_true.mp held item member)
          rw [cast_list, Value.listed, List.map_congr_left each, List.map_id']
      | _ => cases held

end Form

/-- **Casting settles a value.** What has been cast to a type is not changed by casting it to the
type again. The values that a type leaves as they are are those of its form, doubles that are no
numbers among them. -/
theorem FieldType.cast_settles (type : FieldType) (value : Value) :
    type.cast (type.cast value) = type.cast value ∧
      (type.cast value = value ↔ type.form.holds value) := by
  simp only [cast_eq_cast_form]
  constructor
  · exact Form.cast_of_holds (type.form.holds_cast value)
  · constructor
    · intro settled
      rw [← settled]
      exact type.form.holds_cast value
    · intro held
      exact Form.cast_of_holds held

end SearchCollection
