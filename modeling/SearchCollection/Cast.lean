import SearchCollection.Vocabulary
import SearchCollection.Value.Json
import SearchCollection.Number.Reading
import SearchCollection.Text.Blank

/-! # Casting values

`FieldType.cast` turns any value into one of a field's type. No value is
refused: a text that is no number counts as zero, and what is no text is written
as one. Null becomes the empty text or the empty list where the type is a text
or a list, and stays null elsewhere, so that an optional field stays empty. A
list type casts the items of a list one by one and takes any other value for a
list of one.
-/

namespace SearchCollection

namespace Value

/-- The text of a value: texts as they are, numbers and Booleans in words, and JSON for the rest. -/
def castText : Value → Value
  | .null => .text ""
  | .text value => .text value
  | .bool value => .text (if value then "true" else "false")
  | .int value => .text (toString value.toInt)
  | .float value => .text (FloatLayout.plain.write value)
  | .instant value => .text value.write
  | .array items => .text (toJson (.array items)).compact
  | .object members => .text (toJson (.object members)).compact

/-- The integer that a text stands for: a whole number that fits, else the whole part of a
number, else zero. -/
def intOfText (text : String) : Int64 :=
  let trimmed := Text.trimChars text.toList
  match readInt64 trimmed with
  | some n => n
  | none =>
      match readFloat trimmed with
      | some x => x.toInt64
      | none => 0

/-- The double that a text stands for, zero if it is no number. -/
def floatOfText (text : String) : Binary64 :=
  (readFloat (Text.trimChars text.toList)).getD .zero

/-- One or zero. -/
def indicator (value : Bool) : Int :=
  if value then 1 else 0

/-- The integer of a value; a list or an object counts as one unless it is empty. -/
def castInt : Value → Value
  | .null => .null
  | .bool value => .int (.ofInt (indicator value))
  | .int value => .int value
  | .float value => .int value.toInt64
  | .text value => .int (intOfText value)
  | .instant value => .int value.toInt64
  | .array items => .int (.ofInt (indicator !items.isEmpty))
  | .object members => .int (.ofInt (indicator !members.isEmpty))

/-- The double of a value. -/
def castFloat : Value → Value
  | .null => .null
  | .bool value => .float (.ofInt (indicator value))
  | .int value => .float (.ofInt value.toInt)
  | .float value => .float value
  | .text value => .float (floatOfText value)
  | .instant value => .float (.ofInt value.seconds)
  | .array items => .float (.ofInt (indicator !items.isEmpty))
  | .object members => .float (.ofInt (indicator !members.isEmpty))

/-- The Boolean of a value: zero, the empty text, the text `0` and what is empty are false. -/
def castBool : Value → Value
  | .null => .null
  | .bool value => .bool value
  | .int value => .bool (value != 0)
  | .float value => .bool !value.isZero
  | .text value => .bool !(value = "" || value = "0")
  | .instant _ => .bool true
  | .array items => .bool !items.isEmpty
  | .object members => .bool !members.isEmpty

/-- The value as a structure: a list or an object as it is, any other as a list of one. -/
def castStructure : Value → Value
  | .null => .null
  | .array items => .array items
  | .object members => .object members
  | .bool value => .array [.bool value]
  | .int value => .array [.int value]
  | .float value => .array [.float value]
  | .text value => .array [.text value]
  | .instant value => .array [.instant value]

/-- The list of the casts of the items; what is no list is cast as it is. -/
def castEach (cast : Value → Value) (value : Value) : Value :=
  match value with
  | .array items => .array (items.map cast)
  | other => cast other

end Value

namespace FieldType

/-- What null becomes. -/
def castNull : FieldType → Value
  | .string | .image => .text ""
  | .stringArray | .int32Array | .int64Array | .floatArray | .boolArray | .geopolygon
  | .geopointArray | .objectArray => .array []
  | .auto | .stringAuto | .int32 | .int64 | .float | .bool | .geopoint | .object => .null

/-- What a value other than null becomes. -/
def castValue (type : FieldType) (value : Value) : Value :=
  match type with
  | .auto | .stringAuto => value
  | .string | .image => value.castText
  | .stringArray => value.wrap.castEach Value.castText
  | .int32 | .int64 => value.castInt
  | .int32Array | .int64Array => value.wrap.castEach Value.castInt
  | .float => value.castFloat
  | .floatArray => value.wrap.castEach Value.castFloat
  | .bool => value.castBool
  | .boolArray => value.wrap.castEach Value.castBool
  | .object | .geopoint => value.castStructure
  | .geopolygon | .geopointArray | .objectArray => value.wrap.castEach Value.castStructure

/-- The value as one of the type. -/
def cast (type : FieldType) (value : Value) : Value :=
  if value.isNull then type.castNull else type.castValue value

end FieldType

end SearchCollection
