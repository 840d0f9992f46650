import SearchCollection.Options.Basic

/-! # Declarations

The declaration of a record type gives options to names, fields and settings
alike, in the order in which the names first came. Giving an option to a name
that has one already replaces the option and keeps the place. No name occurs
twice.
-/

namespace SearchCollection

/-- The names and options, in order, where an option replaces the earlier one of its name. -/
def putOption (name : String) (option : FieldOption) :
    List (String × FieldOption) → List (String × FieldOption)
  | [] => [(name, option)]
  | entry :: rest =>
      if entry.1 = name then (name, option) :: rest else entry :: putOption name option rest

/-- Putting an option under a name keeps the names, and adds the name behind them if it is new. -/
theorem names_putOption (name : String) (option : FieldOption)
    (entries : List (String × FieldOption)) :
    (putOption name option entries).map Prod.fst =
      if name ∈ entries.map Prod.fst then entries.map Prod.fst
      else entries.map Prod.fst ++ [name] := by
  induction entries with
  | nil => rfl
  | cons entry rest ih =>
      by_cases same : entry.1 = name
      · simp [putOption, same]
      · have other : ¬name = entry.1 := fun equal => same equal.symm
        simp only [putOption, same, ↓reduceIte, List.map_cons, ih, List.mem_cons, other, false_or]
        split <;> simp

/-- A declaration: names with options, no name twice. -/
structure Declaration where
  entries : List (String × FieldOption)
  nodup : (entries.map Prod.fst).Nodup

namespace Declaration

def empty : Declaration := ⟨[], List.nodup_nil⟩

instance : Inhabited Declaration := ⟨empty⟩

/-- The declaration with an option under a name. -/
def insert (declaration : Declaration) (name : String) (option : FieldOption) : Declaration where
  entries := putOption name option declaration.entries
  nodup := by
    rw [names_putOption]
    split
    · exact declaration.nodup
    · next absent =>
        refine List.nodup_append.2 ⟨declaration.nodup, by simp, ?_⟩
        intro first member second single equal
        exact absent (List.mem_singleton.1 single ▸ equal ▸ member)

/-- The declaration of a list of entries, the later ones over the earlier ones. -/
def ofList (entries : List (String × FieldOption)) : Declaration :=
  entries.foldl (fun sofar entry => sofar.insert entry.1 entry.2) empty

def names (declaration : Declaration) : List String :=
  declaration.entries.map Prod.fst

def contains (declaration : Declaration) (name : String) : Bool :=
  declaration.names.contains name

/-- The option of a name. -/
def get? (declaration : Declaration) (name : String) : Option FieldOption :=
  (declaration.entries.find? fun entry => entry.1 = name).map Prod.snd

def size (declaration : Declaration) : Nat :=
  declaration.entries.length

def isEmpty (declaration : Declaration) : Bool :=
  declaration.entries.isEmpty

/-- Whether two declarations have the same names with the same options in the same order. -/
def same (a b : Declaration) : Bool :=
  a.size == b.size && (a.entries.zip b.entries).all fun pair =>
    pair.1.1 == pair.2.1 && pair.1.2.same pair.2.2

theorem names_insert (declaration : Declaration) (name : String) (option : FieldOption) :
    (declaration.insert name option).names =
      if name ∈ declaration.names then declaration.names else declaration.names ++ [name] :=
  names_putOption name option declaration.entries

end Declaration

end SearchCollection
