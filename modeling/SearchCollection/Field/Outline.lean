import SearchCollection.Field.Basic
import SearchCollection.Value.Outline

/-! # Outlines of fields

The outline of where the value of a field comes from and of what is done to it.
A function shows nothing of itself.
-/

namespace SearchCollection

def ValueSource.outline : ValueSource → String
  | .read name => "Attribute(" ++ Text.quote .text name ++ ")"
  | .constant value => "Constant(" ++ value.outline ++ ")"
  | .computed _ => "Computed(<callback>)"

def ValueTransform.outline : ValueTransform → String
  | .identity => "Identity"
  | .custom _ => "Custom(<callback>)"

end SearchCollection
