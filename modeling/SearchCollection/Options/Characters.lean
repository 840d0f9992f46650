import SearchCollection.Options.Value

/-! # Lists of single characters

Separators and symbols are declared as a text, or as lists of texts nested in
any way, and mean the characters of those texts from left to right. A Boolean
inside a list stands for its word; alone it means nothing, and a function means
nothing anywhere.
-/

namespace SearchCollection

/-- The characters of a text, each as a text of its own. -/
def splitCharacters (text : String) : List String :=
  text.toList.map String.singleton

namespace OptionValue

mutual

/-- The characters that a value means, if it means any. -/
def characters? : OptionValue → Option (List String)
  | .text value => some (splitCharacters value)
  | .list items => itemCharacters? items
  | .bool _ | .valueFrom _ | .transform _ => none

/-- The characters that the items of a list mean, one after the other. -/
def itemCharacters? : List OptionValue → Option (List String)
  | [] => some []
  | .bool value :: rest => (itemCharacters? rest).map (boolText value :: ·)
  | item :: rest => do return (← characters? item) ++ (← itemCharacters? rest)

end

end OptionValue

end SearchCollection
