import SearchCollection.Options.Value
import SearchCollection.Text.Blank

/-! # Booleans of options

A parameter is switched on or off by a Boolean or by one of eight words, in any
mix of letter cases and with blanks around it. No other value is a Boolean.
-/

namespace SearchCollection

/-- The Boolean that a word stands for. -/
def readBoolean? (word : String) : Option Bool :=
  match String.ofList ((Text.trimChars word.toList).map Char.toLower) with
  | "1" | "true" | "yes" | "on" => some true
  | "0" | "false" | "no" | "off" => some false
  | _ => none

/-- The Boolean that an option value stands for. -/
def OptionValue.boolean? : OptionValue → Option Bool
  | .bool value => some value
  | .text word => readBoolean? word
  | _ => none

end SearchCollection
