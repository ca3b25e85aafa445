import ScopeCheck.Toml.Basic

/-!
# ScopeCheck.Toml.Document

The table that the statements of a document build. No key may be given twice. A header may name a
table that an earlier header implied, and every other table only once. A key with dots may add to
tables that such keys made, and not to others.
-/

namespace ScopeCheck.Toml

/-- A statement of a document. A path is given by its last key and the keys before it. -/
inductive Statement where
  | pair (path : List String) (key : String) (value : Toml)
  | header (path : List String) (key : String)
  /-- The header of a further table of a sequence. -/
  | rowHeader (path : List String) (key : String)

/-- The entries of a table, with how it came to be. -/
abbrev Entries := Origin × List (String × Toml)

/-- Whether a table of some origin may be entered on the way along a path: never one in braces, and
by a key with dots none that has a header. -/
def mayEnter (dotted : Bool) : Origin → Bool
  | .braces => false
  | .header => !dotted
  | .implied | .dotted => true

/-- Changes the table at the end of a path. Tables on the way that are not there are made; of a
sequence of tables the last one is entered. `dotted` tells whether the path is that of a key with
dots. -/
def updateAt (dotted : Bool) (change : Entries → Option Entries) :
    List String → Entries → Option Entries
  | [], place => change place
  | key :: path, (origin, entries) => do
    let value ←
      match find? key entries with
      | none =>
        let (inner, entries) ←
          updateAt dotted change path (if dotted then .dotted else .implied, [])
        pure (Toml.table inner entries)
      | some (.table inner entries) =>
        if mayEnter dotted inner then
          let (inner, entries) ← updateAt dotted change path (inner, entries)
          pure (Toml.table inner entries)
        else none
      | some (.rows (.table inner entries :: earlier)) =>
        let (inner, entries) ← updateAt dotted change path (inner, entries)
        pure (Toml.rows (.table inner entries :: earlier))
      | some _ => none
    return (origin, put key value entries)

/-- Adds a pair to a table. Where a path leads to the table, it must be one that keys with dots
made. -/
def addPair (path : List String) (key : String) (value : Toml) : Entries → Option Entries :=
  updateAt true
    (fun (origin, entries) =>
      -- Behind a path stands a table that keys with dots made; without one, any other table.
      if (origin == .dotted) == path.isEmpty || (find? key entries).isSome then none
      else some (origin, put key value entries))
    path

def addHeader (key : String) : Entries → Option Entries
  | (origin, entries) =>
    match find? key entries with
    | none => some (origin, put key (.table .header []) entries)
    | some (.table .implied inner) => some (origin, put key (.table .header inner) entries)
    | some _ => none

/-- Begins a further table of a sequence. -/
def addRow (key : String) : Entries → Option Entries
  | (origin, entries) =>
    match find? key entries with
    | none => some (origin, put key (.rows [.table .header []]) entries)
    | some (.rows tables) =>
      some (origin, put key (.rows (.table .header [] :: tables)) entries)
    | some _ => none

/-- Adds some statements to a document. `here` is the path of the table to which pairs belong. -/
def addStatements (here : List String) : List Statement → Entries → Option Entries
  | [], document => some document
  | .pair path key value :: rest, document => do
    addStatements here rest (← updateAt false (addPair path key value) here document)
  | .header path key :: rest, document => do
    addStatements (path ++ [key]) rest (← updateAt false (addHeader key) path document)
  | .rowHeader path key :: rest, document => do
    addStatements (path ++ [key]) rest (← updateAt false (addRow key) path document)

def ofStatements? (statements : List Statement) : Option Toml :=
  (addStatements [] statements (.header, [])).map fun (origin, entries) => .table origin entries

def addPairs : List (List String × String × Toml) → Entries → Option Entries
  | [], place => some place
  | (path, key, value) :: rest, place => do addPairs rest (← addPair path key value place)

def ofPairs? (pairs : List (List String × String × Toml)) : Option Toml :=
  (addPairs pairs (.header, [])).map fun (_, entries) => .table .braces entries

end ScopeCheck.Toml
