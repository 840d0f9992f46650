import SearchCollection.Proofs.Cast.Settled

/-! # Coordinates

A point is a latitude and a longitude, a polygon the latitudes and longitudes of its corners in
turn. Points and lists of points are lists or lists of lists, and are cast to their types as they
are. A polygon is a list of numbers, but its type is cast item by item as if the items were lists:
each number becomes a list of its own (`Value.cast_polygon`), so a polygon is left as it is only if
it has no corners (`FieldType.coordinates_cast`).
-/

namespace SearchCollection

namespace Value

/-- Numbers one after the other. -/
def numbers (values : List Binary64) : Value :=
  .array (values.map .float)

/-- A point by its latitude and its longitude. -/
def point (place : Binary64 × Binary64) : Value :=
  numbers [place.1, place.2]

/-- Points one after the other. -/
def points (places : List (Binary64 × Binary64)) : Value :=
  .array (places.map point)

/-- A point is a list, which is a compound already. -/
theorem holds_point (place : Binary64 × Binary64) : Shape.compound.holds (point place) :=
  rfl

/-- A list of points is a list of compounds already. -/
theorem holds_points (places : List (Binary64 × Binary64)) :
    (Form.list .compound).holds (points places) := by
  rw [points, Form.holds, List.all_map, List.all_eq_true]
  intro place _
  exact holds_point place

/-- Every number of a polygon becomes a list of its own. -/
theorem cast_polygon (values : List Binary64) :
    FieldType.geopolygon.cast (numbers values) =
      .array (values.map fun value => numbers [value]) := by
  rw [FieldType.cast_eq_cast_form, FieldType.form, Form.cast_list, numbers, listed, List.map_map]
  rfl

end Value

namespace FieldType

open Value (numbers point points)

/-- **Points are cast as they are, polygons are not.** A point keeps its two numbers, and a list of
points its points, also as a polygon. In a polygon that is a list of numbers, each number becomes a
list of its own, so that the polygon is another value unless it has no corners. -/
theorem coordinates_cast (place : Binary64 × Binary64) (places : List (Binary64 × Binary64))
    (values : List Binary64) :
    geopoint.cast (point place) = point place ∧
    geopointArray.cast (points places) = points places ∧
    geopolygon.cast (points places) = points places ∧
    geopolygon.cast (numbers values) = .array (values.map fun value => numbers [value]) ∧
    (geopolygon.cast (numbers values) = numbers values ↔ values = []) := by
  refine ⟨?_, ?_, ?_, Value.cast_polygon values, ?_⟩
  · rw [cast_eq_cast_form]
    exact Shape.cast_of_holds (Value.holds_point place)
  · rw [cast_eq_cast_form]
    exact Form.cast_of_holds (Value.holds_points places)
  · rw [cast_eq_cast_form]
    exact Form.cast_of_holds (Value.holds_points places)
  · rw [Value.cast_polygon]
    constructor
    · intro same
      cases values with
      | nil => rfl
      | cons value rest => cases same
    · rintro rfl
      rfl

/-- The corners of the triangle of Berlin, Paris and Rome. -/
def triangle : List Binary64 :=
  [52, 13, 48, 2, 41, 12].map .ofInt

/-- The six coordinates of a triangle, told one after the other, do not stay as they are. -/
theorem triangle_split :
    triangle.length % 2 = 0 ∧ (∀ value ∈ triangle, value.isFinite) ∧
      geopolygon.cast (numbers triangle) ≠ numbers triangle := by
  refine ⟨rfl, ?_, ?_⟩
  · decide +kernel
  · rw [Value.cast_polygon]
    intro same
    cases same

end FieldType

end SearchCollection
