import SearchCollection.Options.Basic
import SearchCollection.Proofs.Text.Pieces

/-! # Tokens and the entries they declare

A text is the tokens between its bars, with the bars put back
(`intercalate_tokensOf`), and tokens without bars are the tokens of their joined
text (`tokensOf_intercalate`). Each token declares one entry, which shows the
token it came from (`OptionMap.written_entryOf`). So the entries of a text say
all that the text says, and two texts with the same entries are the same
(`FieldOption.normalize_lossless`).
-/

namespace SearchCollection

section Tokens

variable {text token : String} {tokens : List String}

theorem toList_tokensOf (text : String) :
    (tokensOf text).map String.toList = Text.split '|' text.toList := by
  rw [tokensOf, List.map_map]
  exact List.map_id'' (fun _ => String.toList_ofList) _

/-- The tokens of a text with bars between them are the text again. -/
theorem intercalate_tokensOf (text : String) : "|".intercalate (tokensOf text) = text := by
  rw [← String.toList_inj, String.toList_intercalate, toList_tokensOf]
  exact (Text.join_eq_intercalate '|' _).symm.trans (Text.join_split '|' text.toList)

/-- Tokens without bars are found again in the text made of them. -/
theorem tokensOf_intercalate (some : tokens ≠ []) (plain : ∀ token ∈ tokens, '|' ∉ token.toList) :
    tokensOf ("|".intercalate tokens) = tokens := by
  have joined : ("|".intercalate tokens).toList = Text.join '|' (tokens.map String.toList) := by
    rw [String.toList_intercalate, Text.join_eq_intercalate]
    rfl
  have found : Text.split '|' ("|".intercalate tokens).toList = tokens.map String.toList := by
    rw [joined]
    refine Text.split_join (mt List.map_eq_nil_iff.mp some) fun piece member => ?_
    obtain ⟨token, tokenMember, rfl⟩ := List.mem_map.mp member
    exact plain token tokenMember
  rw [tokensOf, found, List.map_map]
  exact List.map_id'' (fun _ => String.ofList_toList) _

/-- A text has one token more than bars. -/
theorem length_tokensOf (text : String) :
    (tokensOf text).length = text.toList.count '|' + 1 := by
  rw [tokensOf, List.length_map, Text.length_split]

/-- No token has a bar. -/
theorem not_mem_of_mem_tokensOf (member : token ∈ tokensOf text) : '|' ∉ token.toList := by
  obtain ⟨piece, pieceMember, rfl⟩ := List.mem_map.mp member
  rw [String.toList_ofList]
  exact Text.not_mem_of_mem_split pieceMember

end Tokens

namespace OptionMap

variable {position : Nat} {key : OptionKey} {token name rest : String}

/-- The entries that tokens without keys declare. -/
def ofTokens (tokens : List String) : OptionMap :=
  tokens.mapIdx fun position token => entryOf (.index position) (.text token)

/-- The token that an entry is written as. -/
def written : OptionKey × OptionValue → String
  | (.index _, value) => value.describe
  | (.name name, value) => name ++ ":" ++ value.describe

theorem toList_colon (name rest : String) :
    (name ++ ":" ++ rest).toList = name.toList ++ ':' :: rest.toList := by
  rw [String.toList_append, String.toList_append, List.append_assoc]
  rfl

/-- A token without a colon keeps its key and its text. -/
theorem entryOf_of_plain (key : OptionKey) (plain : ':' ∉ token.toList) :
    entryOf key (.text token) = (key, .text token) := by
  rw [entryOf, Text.cut_eq_none_iff.mpr plain]

/-- A token with a colon is named by what stands before the first one. -/
theorem entryOf_colon (key : OptionKey) (plain : ':' ∉ name.toList) (rest : String) :
    entryOf key (.text (name ++ ":" ++ rest)) = (.name name, .text rest) := by
  rw [entryOf, toList_colon, Text.cut_append plain]
  simp only [String.ofList_toList]

/-- A token has no colon, or it is a name without one, a colon and the rest. -/
theorem plain_or_colon (token : String) :
    ':' ∉ token.toList ∨
      ∃ name rest : String, ':' ∉ name.toList ∧ token = name ++ ":" ++ rest := by
  cases parts : Text.cut ':' token.toList with
  | none => exact .inl (Text.cut_eq_none_iff.mp parts)
  | some both =>
      obtain ⟨before, after⟩ := both
      obtain ⟨whole, absent⟩ := Text.eq_of_cut parts
      refine .inr ⟨.ofList before, .ofList after, by rwa [String.toList_ofList], ?_⟩
      rw [← String.toList_inj, whole, toList_colon, String.toList_ofList, String.toList_ofList]

/-- An entry shows the token that it came from. -/
theorem written_entryOf (position : Nat) (token : String) :
    written (entryOf (.index position) (.text token)) = token := by
  rcases plain_or_colon token with plain | ⟨name, rest, plain, rfl⟩
  · rw [entryOf_of_plain _ plain, written, OptionValue.describe]
  · rw [entryOf_colon _ plain, written, OptionValue.describe]

/-- The entry of a token keeps its position unless the token has a colon. -/
theorem exists_entryOf (position : Nat) (token : String) :
    ∃ key value, entryOf (.index position) (.text token) = (key, .text value) ∧
      (key = .index position ↔ ':' ∉ token.toList) ∧
      (':' ∈ token.toList → ∃ name, key = .name name ∧ ':' ∉ name.toList) := by
  rcases plain_or_colon token with plain | ⟨name, rest, plain, rfl⟩
  · refine ⟨.index position, token, entryOf_of_plain _ plain, iff_of_true rfl plain, ?_⟩
    intro colon
    exact (plain colon).elim
  · have colon : ':' ∈ (name ++ ":" ++ rest).toList := by
      rw [toList_colon]
      exact List.mem_append_right _ List.mem_cons_self
    refine ⟨.name name, rest, entryOf_colon _ plain rest, ?_, fun _ => ⟨name, rfl, plain⟩⟩
    exact iff_of_false (fun same => by cases same) (not_not_intro colon)

/-- Each token makes one entry, at its own position. -/
theorem getElem?_ofTokens (tokens : List String) (position : Nat) :
    (ofTokens tokens)[position]? =
      tokens[position]?.map fun token => entryOf (.index position) (.text token) := by
  rw [ofTokens, List.getElem?_mapIdx]

/-- The entries of tokens are written as the tokens. -/
theorem map_written_ofTokens (tokens : List String) : (ofTokens tokens).map written = tokens := by
  refine List.ext_getElem? fun position => ?_
  rw [List.getElem?_map, getElem?_ofTokens, Option.map_map]
  cases tokens[position]? with
  | none => rfl
  | some token => exact congrArg some (written_entryOf position token)

end OptionMap

namespace FieldOption

/-- A text is brought into normal form token by token. -/
theorem normalize_tokens (text : String) :
    (FieldOption.tokens text).normalize = .options (OptionMap.ofTokens (tokensOf text)) := by
  refine congrArg Normalized.options (List.ext_getElem? fun position => ?_)
  rw [entries, OptionMap.getElem?_ofTokens, List.getElem?_mapIdx, List.getElem?_map,
    Option.map_map]
  rfl

/-- **Token parsing loses nothing.** A text has one entry for each of its tokens, the pieces
between its bars. The entry of a token without a colon is keyed by its position, and that of any
other by a name without a colon. Each entry shows its token, and the tokens with a bar between each
two are the text, so that no other text has these entries. -/
theorem normalize_lossless (text : String) :
    ∃ map : OptionMap, (FieldOption.tokens text).normalize = .options map ∧
      ("|".intercalate (tokensOf text) = text ∧ ∀ token ∈ tokensOf text, '|' ∉ token.toList) ∧
      (map.length = (tokensOf text).length ∧ map.length = text.toList.count '|' + 1) ∧
      (∀ (position : Nat) (token : String), (tokensOf text)[position]? = some token →
        ∃ key value, map[position]? = some (key, .text value) ∧
          (key = .index position ↔ ':' ∉ token.toList) ∧
          (':' ∈ token.toList → ∃ name, key = .name name ∧ ':' ∉ name.toList) ∧
          OptionMap.written (key, .text value) = token) ∧
      "|".intercalate (map.map OptionMap.written) = text ∧
      ∀ other : String, (FieldOption.tokens other).normalize = .options map → other = text := by
  have shown (source : String) :
      "|".intercalate ((OptionMap.ofTokens (tokensOf source)).map OptionMap.written) = source := by
    rw [OptionMap.map_written_ofTokens, intercalate_tokensOf]
  have length : (OptionMap.ofTokens (tokensOf text)).length = (tokensOf text).length :=
    List.length_mapIdx
  refine ⟨OptionMap.ofTokens (tokensOf text), normalize_tokens text,
    ⟨intercalate_tokensOf text, fun token => not_mem_of_mem_tokensOf⟩,
    ⟨length, length.trans (length_tokensOf text)⟩, ?_, shown text, ?_⟩
  · intro position token found
    obtain ⟨key, value, entry, keyed, named⟩ := OptionMap.exists_entryOf position token
    refine ⟨key, value, ?_, keyed, named, ?_⟩
    · rw [OptionMap.getElem?_ofTokens, found, Option.map_some, entry]
    · rw [← entry, OptionMap.written_entryOf]
  · intro other same
    rw [normalize_tokens, Normalized.options.injEq] at same
    rw [← shown other, same, shown text]

end FieldOption

end SearchCollection
