import SearchCollection.Toml.Basic

/-! # Tables while they are read

A table of a TOML document is put together from several places: its own header,
the headers of tables inside it, and keys with points. `Draft` remembers how a
table came about, because that decides who may still add to it: a table has one
header at most, keys with points add only to tables that no header has named, and
a value that is complete is never added to.
-/

namespace SearchCollection.Toml

/-- How a table came about. -/
inductive Origin where
  /-- Its own header, or an entry of a list of tables. -/
  | header
  /-- The header of a table inside it. -/
  | implied
  /-- A key with points. -/
  | dotted
deriving DecidableEq

/-- A tree that is still being read. -/
inductive Draft where
  | value (value : Toml)
  | table (origin : Origin) (entries : List (String × Draft))
  /-- A list of tables, the last one first. -/
  | tables (last : List (String × Draft)) (before : List (List (String × Draft)))

/-- The entries of a table that is still being read. -/
abbrev DraftEntries := List (String × Draft)

namespace Draft

mutual

/-- The tree when nothing more is added. -/
def finish : Draft → Toml
  | .value complete => complete
  | .table _ entries => .table (finishEntries entries)
  | .tables last before => .array (.table (finishEntries last) :: finishTables before).reverse

def finishEntries : List (String × Draft) → List (String × Toml)
  | [] => []
  | (key, draft) :: rest => (key, finish draft) :: finishEntries rest

def finishTables : List (List (String × Draft)) → List Toml
  | [] => []
  | entries :: rest => .table (finishEntries entries) :: finishTables rest

end

end Draft

namespace DraftEntries

/-- The entries with another draft under a key that is there. -/
def replace (entries : DraftEntries) (key : String) (draft : Draft) : DraftEntries :=
  entries.map fun entry => if entry.1 = key then (key, draft) else entry

/-- The entries with a draft under a new key. -/
def add (entries : DraftEntries) (key : String) (draft : Draft) : DraftEntries :=
  entries ++ [(key, draft)]

/-- Changes the table at the end of a path; tables on the way that are missing are made. The keys of
a path with points (`dotted`) lead through no table that has a header. -/
def alter? (dotted : Bool)
    (change : Origin → DraftEntries → Option (Origin × DraftEntries)) :
    List String → Origin → DraftEntries → Option (Origin × DraftEntries)
  | [], origin, entries => change origin entries
  | key :: path, origin, entries =>
      match entries.lookup key with
      | none => do
          let fresh := if dotted then Origin.dotted else .implied
          let (inner, content) ← alter? dotted change path fresh []
          return (origin, entries.add key (.table inner content))
      | some (.value _) => none
      | some (.tables last before) => do
          let (_, content) ← alter? dotted change path .header last
          return (origin, entries.replace key (.tables content before))
      | some (.table inner content) =>
          if dotted && inner = .header then none
          else do
            let (inner, content) ← alter? dotted change path inner content
            return (origin, entries.replace key (.table inner content))

/-- Adds a value under a key with points: behind points the table must be made of such keys. -/
def insert? (path : List String) (key : String) (value : Toml) (origin : Origin)
    (entries : DraftEntries) : Option (Origin × DraftEntries) :=
  alter? true (fun inner content =>
    if path.isEmpty == (inner == .dotted) || (content.lookup key).isSome then none
    else some (inner, content.add key (.value value))) path origin entries

/-- Begins a table with a header. -/
def openTable? (path : List String) (key : String) (entries : DraftEntries) :
    Option DraftEntries :=
  (alter? false (fun origin content =>
    match content.lookup key with
    | none => some (origin, content.add key (.table .header []))
    | some (.table .implied inner) => some (origin, content.replace key (.table .header inner))
    | some _ => none) path .header entries).map Prod.snd

/-- Begins the next table of a list of tables. -/
def openNext? (path : List String) (key : String) (entries : DraftEntries) :
    Option DraftEntries :=
  (alter? false (fun origin content =>
    match content.lookup key with
    | none => some (origin, content.add key (.tables [] []))
    | some (.tables last before) =>
        some (origin, content.replace key (.tables [] (last :: before)))
    | some _ => none) path .header entries).map Prod.snd

/-- Adds a value under a key of the table that the last header has begun. -/
def insertAt? (current path : List String) (key : String) (value : Toml)
    (entries : DraftEntries) : Option DraftEntries :=
  (alter? false (insert? path key value) current .header entries).map Prod.snd

end DraftEntries

end SearchCollection.Toml
