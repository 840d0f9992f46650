import SearchCollection.Proofs.Toml.Lines

/-! # Settings files of tables of texts

A document of tables with different names, each of which gives texts to different keys, is read as
these tables (`TextTable.read?_writeAll`).
-/

namespace SearchCollection

open SearchCollection.Configuration (writeEntry)

/-- A table that gives texts to keys which need no quotes. -/
structure TextTable where
  name : String
  pairs : List (String × String)
  bare : Toml.IsBare name
  bare_keys : ∀ pair ∈ pairs, Toml.IsBare pair.1
  nodup_keys : (pairs.map Prod.fst).Nodup

namespace Toml

variable {name key : String} {entries content : DraftEntries}

/-! ## Drafts -/

namespace DraftEntries

theorem lookup_eq_none (fresh : key ∉ entries.map Prod.fst) : entries.lookup key = none := by
  rw [List.lookup_eq_none_iff]
  intro entry member
  rw [bne_iff_ne]
  rintro rfl
  exact fresh (List.mem_map_of_mem member)

theorem lookup_append_singleton (fresh : key ∉ entries.map Prod.fst) (draft : Draft) :
    (entries ++ [(key, draft)]).lookup key = some draft := by
  rw [List.lookup_append, lookup_eq_none fresh, List.lookup_cons_self, Option.none_or]

theorem replace_append_singleton (fresh : key ∉ entries.map Prod.fst) (draft other : Draft) :
    replace (entries ++ [(key, draft)]) key other = entries ++ [(key, other)] := by
  have kept : entries.map (fun entry => if entry.1 = key then (key, other) else entry) =
      entries := by
    rw [List.map_congr_left, List.map_id']
    intro entry member
    apply if_neg
    rintro rfl
    exact fresh (List.mem_map_of_mem member)
  rw [replace, List.map_append, kept, List.map_singleton, if_pos rfl]

/-- A header with a new name begins a table without entries. -/
theorem openTable?_of_fresh (fresh : name ∉ entries.map Prod.fst) :
    entries.openTable? [] name = some (entries ++ [(name, .table .header [])]) := by
  simp only [openTable?, alter?, lookup_eq_none fresh, add, Option.map_some]

/-- A new key is put at the end of the table that was begun last. -/
theorem insertAt?_of_fresh (fresh : name ∉ entries.map Prod.fst)
    (new : key ∉ content.map Prod.fst) (value : Toml) :
    insertAt? [name] [] key value (entries ++ [(name, .table .header content)]) =
      some (entries ++ [(name, .table .header (content ++ [(key, .value value)]))]) := by
  have change : insert? [] key value .header content =
      some (.header, content ++ [(key, .value value)]) := by
    simp [insert?, alter?, lookup_eq_none new, add]
  simp only [insertAt?, alter?, lookup_append_singleton fresh, change,
    replace_append_singleton fresh]
  rfl

end DraftEntries

theorem Draft.finishEntries_eq_map (entries : DraftEntries) :
    Draft.finishEntries entries = entries.map fun entry => (entry.1, entry.2.finish) := by
  induction entries with
  | nil => rfl
  | cons entry rest ih => rw [Draft.finishEntries, ih, List.map_cons]

end Toml

namespace TextTable

open Toml

variable {entries : DraftEntries}

/-! ## Tables -/

/-- The lines of a table. -/
def write (table : TextTable) : String :=
  header table.name ++ String.join (table.pairs.map fun pair => writeEntry pair.1 pair.2)

/-- The table as it is read. -/
def toToml (table : TextTable) : Toml :=
  .table (table.pairs.map fun pair => (pair.1, .text pair.2))

/-- The entries of a table while it is read. -/
def drafts (pairs : List (String × String)) : DraftEntries :=
  pairs.map fun pair => (pair.1, .value (.text pair.2))

def draft (table : TextTable) : String × Draft :=
  (table.name, .table .header (drafts table.pairs))

/-- The draft of a table is finished as the table. -/
theorem finish_draft (table : TextTable) : table.draft.2.finish = table.toToml := by
  rw [draft, Draft.finish, Draft.finishEntries_eq_map, toToml, drafts, List.map_map]
  rfl

/-- Entries under new keys are added one after the other. -/
theorem lines?_pairs {name : String} (fresh : name ∉ entries.map Prod.fst)
    (pairs : List (String × String)) (bare : ∀ pair ∈ pairs, IsBare pair.1)
    {content : DraftEntries} (nodup : (content.map Prod.fst ++ pairs.map Prod.fst).Nodup)
    (rest : List Char) :
    lines? ⟨entries ++ [(name, .table .header content)], [name]⟩
        ((String.join (pairs.map fun pair => writeEntry pair.1 pair.2)).toList ++ rest) =
      lines? ⟨entries ++ [(name, .table .header (content ++ drafts pairs))], [name]⟩ rest := by
  induction pairs generalizing content with
  | nil =>
      rw [drafts, List.map_nil, List.map_nil, List.append_nil]
      rfl
  | cons pair pairs ih =>
      obtain ⟨key, value⟩ := pair
      obtain ⟨bareKey, bare⟩ := List.forall_mem_cons.mp bare
      have new : key ∉ content.map Prod.fst := by
        intro member
        exact (List.nodup_append.mp nodup).2.2 _ member _ List.mem_cons_self rfl
      have moved : ((content ++ [(key, Draft.value (.text value))]).map Prod.fst ++
          pairs.map Prod.fst).Nodup := by
        simpa using nodup
      rw [List.map_cons, String.join_cons, String.toList_append, List.append_assoc,
        lines?_entry bareKey (DraftEntries.insertAt?_of_fresh fresh new _), ih bare moved,
        List.append_assoc]
      rfl

/-- A written table is read behind those before it. -/
theorem lines?_table (table : TextTable) (fresh : table.name ∉ entries.map Prod.fst)
    (current : List String) (rest : List Char) :
    lines? ⟨entries, current⟩ (table.write.toList ++ rest) =
      lines? ⟨entries ++ [table.draft], [table.name]⟩ rest := by
  have nodup : (([] : DraftEntries).map Prod.fst ++ table.pairs.map Prod.fst).Nodup :=
    table.nodup_keys
  rw [write, String.toList_append, List.append_assoc,
    lines?_header table.bare (DraftEntries.openTable?_of_fresh fresh)]
  exact lines?_pairs fresh table.pairs table.bare_keys nodup rest

/-- The lines of tables, with a blank line before each. -/
def writeRest (tables : List TextTable) : String :=
  String.join (tables.map fun table => "\n" ++ table.write)

theorem toList_writeRest_cons (table : TextTable) (tables : List TextTable) :
    (writeRest (table :: tables)).toList =
      '\n' :: (table.write.toList ++ (writeRest tables).toList) := by
  simp [writeRest, String.join_cons]

/-- Tables with different names are read back in their order. -/
theorem lines?_writeRest (tables : List TextTable) (current : List String)
    (nodup : (entries.map Prod.fst ++ tables.map name).Nodup) :
    (lines? ⟨entries, current⟩ (writeRest tables).toList).map Progress.entries =
      some (entries ++ tables.map draft) := by
  induction tables generalizing entries current with
  | nil =>
      rw [List.map_nil, List.append_nil]
      exact congrArg (Option.map Progress.entries) (lines?_end ⟨entries, current⟩)
  | cons table tables ih =>
      have fresh : table.name ∉ entries.map Prod.fst := by
        intro member
        exact (List.nodup_append.mp nodup).2.2 _ member _ List.mem_cons_self rfl
      have moved : ((entries ++ [table.draft]).map Prod.fst ++ tables.map name).Nodup := by
        simpa [draft] using nodup
      rw [toList_writeRest_cons, lines?_blank, lines?_table table fresh, ih _ moved,
        List.append_assoc, List.map_cons, List.singleton_append]

/-- The text of a document of tables, with a blank line between each two. -/
def writeAll : List TextTable → String
  | [] => ""
  | first :: others => first.write ++ writeRest others

/-- A blank line in front of a document makes no difference. -/
theorem lines?_writeAll (progress : Progress) (tables : List TextTable) :
    lines? progress (writeAll tables).toList = lines? progress (writeRest tables).toList := by
  cases tables with
  | nil => rfl
  | cons first others =>
      rw [toList_writeRest_cons, lines?_blank, writeAll, String.toList_append]

/-- **Documents of tables are read back.** -/
theorem read?_writeAll (tables : List TextTable) (nodup : (tables.map name).Nodup) :
    Toml.read? (writeAll tables) = some (tables.map fun table => (table.name, table.toToml)) := by
  have read := lines?_writeRest tables [] (show (([] : DraftEntries).map Prod.fst ++ _).Nodup
    from nodup)
  have marked (rest : List Char) : (writeAll tables).toList ≠ '\ufeff' :: rest := by
    cases tables with
    | nil => nofun
    | cons first others => simp [writeAll, write, header]
  rw [← lines?_writeAll, Option.map_eq_some_iff] at read
  obtain ⟨progress, read, entries⟩ := read
  unfold Toml.read?
  split
  · next rest same => exact (marked rest same).elim
  · dsimp only
    rw [read, Option.map_some, entries, List.nil_append, Draft.finishEntries_eq_map, List.map_map]
    exact congrArg some (List.map_congr_left fun table _ =>
      congrArg (Prod.mk table.name) table.finish_draft)

end TextTable

end SearchCollection
