import SearchCollection.Options.Basic
import SearchCollection.Text.Quoted

/-! # Outlines of options

Log messages and listings show an option by its outline: the name of its kind
and, in parentheses, what it holds, with texts quoted. A function shows nothing
of itself.
-/

namespace SearchCollection

namespace OptionValue

mutual

/-- The outline of an option value. -/
def outline : OptionValue → String
  | .text value => "Str(" ++ Text.quote .text value ++ ")"
  | .bool value => "Bool(" ++ boolText value ++ ")"
  | .list items => "List([" ++ ", ".intercalate (outlineItems items) ++ "])"
  | .valueFrom _ => "ValueFrom(<callback>)"
  | .transform _ => "Transform(<callback>)"

def outlineItems : List OptionValue → List String
  | [] => []
  | item :: rest => outline item :: outlineItems rest

end

end OptionValue

def OptionEntry.outline : OptionEntry → String
  | .positional value => "Positional(" ++ value.outline ++ ")"
  | .keyed key value => "Keyed(" ++ Text.quote .text key ++ ", " ++ value.outline ++ ")"

def FieldOption.outline : FieldOption → String
  | .tokens text => "Tokens(" ++ Text.quote .text text ++ ")"
  | .list entries => "List([" ++ ", ".intercalate (entries.map OptionEntry.outline) ++ "])"
  | .flag value => "Flag(" ++ OptionValue.boolText value ++ ")"

def OptionKey.outline : OptionKey → String
  | .index position => "Index(" ++ toString position ++ ")"
  | .name text => "Name(" ++ Text.quote .text text ++ ")"

def Normalized.outline : Normalized → String
  | .flag value => "Flag(" ++ OptionValue.boolText value ++ ")"
  | .options map =>
      let entries := map.map fun entry => "(" ++ entry.1.outline ++ ", " ++ entry.2.outline ++ ")"
      "Options(OptionMap \x7b entries: [" ++ ", ".intercalate entries ++ "] \x7d)"

end SearchCollection
