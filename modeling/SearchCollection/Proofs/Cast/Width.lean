import Mathlib.Algebra.Order.Ring.Int
import Mathlib.Data.List.Basic
import SearchCollection.Proofs.Cast.Forms

/-! # How large a cast integer can be

All integer types cast a value alike, to 64 bits: the whole number that the value counts
for (`Value.whole?`) is moved to the nearest bound if it lies beyond them. A type of 32
bits narrows it no further, so the integers in its JSON fit 32 bits exactly when the whole
numbers of the cast values do (`FieldType.integers_cast`, `fitsInt32_clampInt64_iff`).
-/

namespace SearchCollection

/-- The whole number fits a signed integer of 32 bits. -/
def FitsInt32 (n : Int) : Prop :=
  -2 ^ 31 ≤ n ∧ n < 2 ^ 31

instance : DecidablePred FitsInt32 :=
  fun n => inferInstanceAs (Decidable (-2 ^ 31 ≤ n ∧ n < 2 ^ 31))

/-- The whole number in signed 64 bits that is nearest. -/
def clampInt64 (n : Int) : Int :=
  max (-2 ^ 63) (min n (2 ^ 63 - 1))

/-- A clamped number lies in 64 bits. -/
theorem clampInt64_bounds (n : Int) : -2 ^ 63 ≤ clampInt64 n ∧ clampInt64 n < 2 ^ 63 := by
  unfold clampInt64
  omega

theorem clampInt64_of_mem {n : Int} (low : -2 ^ 63 ≤ n) (high : n < 2 ^ 63) : clampInt64 n = n := by
  unfold clampInt64
  omega

/-- Clamping to 64 bits neither brings a number into 32 bits nor takes one out of them. -/
theorem fitsInt32_clampInt64_iff {n : Int} : FitsInt32 (clampInt64 n) ↔ FitsInt32 n := by
  unfold FitsInt32 clampInt64
  omega

theorem toInt_minValue : Int64.minValue.toInt = -2 ^ 63 := by
  decide

theorem toInt_maxValue : Int64.maxValue.toInt = 2 ^ 63 - 1 := by
  decide

/-- The library saturates at the same bounds. -/
theorem toInt_ofIntClamp (n : Int) : (Int64.ofIntClamp n).toInt = clampInt64 n := by
  have least := toInt_minValue
  have greatest := toInt_maxValue
  unfold Int64.ofIntClamp clampInt64
  split
  · next low =>
      split
      · next high =>
          rw [Int64.toInt_ofIntLE]
          omega
      · omega
  · omega

theorem clampInt64_toInt (n : Int64) : clampInt64 n.toInt = n.toInt :=
  clampInt64_of_mem n.le_toInt n.toInt_lt

namespace Json

mutual

/-- The whole numbers in a tree, in order. -/
def integers : Json → List Int
  | .number (.integer value) => [value]
  | .number (.float _) | .null | .bool _ | .string _ => []
  | .array items => itemIntegers items
  | .object members => memberIntegers members

def itemIntegers : List Json → List Int
  | [] => []
  | item :: rest => integers item ++ itemIntegers rest

def memberIntegers : List (String × Json) → List Int
  | [] => []
  | (_, value) :: rest => integers value ++ memberIntegers rest

end

theorem itemIntegers_eq_flatMap (items : List Json) :
    itemIntegers items = items.flatMap integers := by
  induction items with
  | nil => rfl
  | cons item rest ih => rw [itemIntegers, ih, List.flatMap_cons]

end Json

/-- The whole part of a double, zero for what is no number. -/
def Binary64.whole (x : Binary64) : Int :=
  if x.isNaN then 0 else x.wholePart

/-- A double is cast to its whole part, clamped to 64 bits. -/
theorem Binary64.toInt_toInt64 (x : Binary64) : x.toInt64.toInt = clampInt64 x.whole := by
  unfold toInt64 whole
  split
  · rfl
  · exact toInt_ofIntClamp x.wholePart

namespace Value

/-- The whole number that a text stands for: one that fits 64 bits, else the whole part of a
double, else zero. -/
def wholeOfText (text : String) : Int :=
  let trimmed := Text.trimChars text.toList
  match readInt64 trimmed with
  | some n => n.toInt
  | none =>
      match readFloat trimmed with
      | some x => x.whole
      | none => 0

/-- A text is cast to the whole number it stands for, clamped to 64 bits. -/
theorem toInt_intOfText (text : String) :
    (intOfText text).toInt = clampInt64 (wholeOfText text) := by
  unfold intOfText wholeOfText
  dsimp only
  cases readInt64 (Text.trimChars text.toList) with
  | some n => exact (clampInt64_toInt n).symm
  | none =>
      cases readFloat (Text.trimChars text.toList) with
      | some x => exact x.toInt_toInt64
      | none => rfl

/-- The whole number that a value other than null counts for, however large it is. -/
def whole? : Value → Option Int
  | .null => none
  | .bool value => some (indicator value)
  | .int value => some value.toInt
  | .float value => some value.whole
  | .text value => some (wholeOfText value)
  | .instant value => some value.seconds
  | .array items => some (indicator !items.isEmpty)
  | .object members => some (indicator !members.isEmpty)

theorem toInt_ofInt_indicator (value : Bool) :
    (Int64.ofInt (indicator value)).toInt = clampInt64 (indicator value) := by
  cases value <;> rfl

/-- The seconds of an instant fit 64 bits. -/
theorem toInt_toInt64_eq_clampInt64 (instant : Instant) :
    instant.toInt64.toInt = clampInt64 instant.seconds := by
  rw [← clampInt64_toInt, instant.toInt_toInt64]

/-- Every value but null is cast to the whole number that it counts for, or the nearest bound. -/
theorem integers_castInt (value : Value) :
    value.castInt.toJson.integers = (value.whole?.map clampInt64).toList := by
  cases value with
  | null => rfl
  | bool value => exact congrArg (fun n => [n]) (toInt_ofInt_indicator value)
  | int value => exact congrArg (fun n => [n]) (clampInt64_toInt value).symm
  | float value => exact congrArg (fun n => [n]) value.toInt_toInt64
  | text value => exact congrArg (fun n => [n]) (toInt_intOfText value)
  | instant value => exact congrArg (fun n => [n]) (toInt_toInt64_eq_clampInt64 value)
  | array items => exact congrArg (fun n => [n]) (toInt_ofInt_indicator _)
  | object members => exact congrArg (fun n => [n]) (toInt_ofInt_indicator _)

end Value

namespace Form

/-- The values that are cast one by one. -/
def items : Form → Value → List Value
  | .list _, value => value.listed
  | .item _, value | .any, value => [value]

/-- The integers of a value that is cast to an integer or to a list of integers. -/
theorem integers_cast {form : Form} (integer : form = .item .integer ∨ form = .list .integer)
    (value : Value) :
    (form.cast value).toJson.integers =
      ((form.items value).filterMap Value.whole?).map clampInt64 := by
  have each (values : List Value) :
      values.flatMap (fun value => value.castInt.toJson.integers) =
        (values.filterMap Value.whole?).map clampInt64 := by
    rw [List.map_filterMap, List.filterMap_eq_flatMap_toList]
    simp only [Value.integers_castInt]
  rcases integer with rfl | rfl
  · rw [← each]
    exact (List.flatMap_singleton ..).symm
  · rw [cast_list, Value.toJson, Value.itemsToJson_eq_map, Json.integers,
      Json.itemIntegers_eq_flatMap, List.map_map, List.flatMap_map]
    exact each value.listed

end Form

end SearchCollection
