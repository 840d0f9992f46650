import SearchCollection.Value.Basic
import SearchCollection.Number.Layout
import SearchCollection.Text.Quoted
import SearchCollection.Time.Rfc3339

/-! # Outlines of values

Log messages show a value by its outline: the name of its kind and, in
parentheses, what it holds, with texts quoted.
-/

namespace SearchCollection.Value

mutual

/-- The outline of a value. -/
def outline : Value → String
  | .null => "Null"
  | .bool value => "Bool(" ++ (if value then "true" else "false") ++ ")"
  | .int value => "Int(" ++ toString value.toInt ++ ")"
  | .float value => "Float(" ++ FloatLayout.log.write value ++ ")"
  | .text value => "String(" ++ Text.quote .text value ++ ")"
  | .array items => "Array([" ++ ", ".intercalate (outlineItems items) ++ "])"
  | .object members => "Object(\x7b" ++ ", ".intercalate (outlineMembers members) ++ "\x7d)"
  | .instant value => "Timestamp(" ++ value.writeExact ++ ")"

def outlineItems : List Value → List String
  | [] => []
  | item :: rest => outline item :: outlineItems rest

def outlineMembers : List (String × Value) → List String
  | [] => []
  | (key, value) :: rest => (Text.quote .text key ++ ": " ++ outline value) :: outlineMembers rest

end

end SearchCollection.Value
