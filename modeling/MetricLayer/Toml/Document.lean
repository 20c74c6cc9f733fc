import MetricLayer.Toml.Value

/-!
# TOML documents

How the statements of a document make up its tables. A table is written once: by its header, or by
the dotted keys that lead into it. A header may name a table that so far only stood in the headers
of its inner tables, and a header in double brackets adds a table to an array of tables.
-/

namespace MetricLayer.Toml

/-- How a table came to be. -/
inductive TableOrigin where
  /-- By standing in the header of an inner table. -/
  | implied
  /-- By its own header. -/
  | header
  /-- By dotted keys. -/
  | dotted
  deriving DecidableEq, Repr

/-- A part of a document under construction. -/
inductive Node where
  /-- A value that is complete. -/
  | value (v : Toml)
  /-- A table that may get more entries. -/
  | table (origin : TableOrigin) (entries : List (String × Node))
  /-- An array of tables, the last one first. -/
  | tables (items : List (List (String × Node)))

/-- The entries of a table under construction. -/
abbrev Entries := List (String × Node)

/-- The entries with a node in place of the one under a key, or at the end. -/
def setNode (key : String) (x : Node) : Entries → Entries
  | [] => [(key, x)]
  | (k, y) :: es => if k = key then (k, x) :: es else (k, y) :: setNode key x es

/-- Sets a value under a dotted key. The tables on the way are new, or implied, or made by dotted
keys. -/
def insertValue (v : Toml) : List String → Entries → Option Entries
  | [], _ => none
  | [key], es => if (es.lookup key).isSome then none else some (setNode key (.value v) es)
  | key :: keys, es =>
    match es.lookup key with
    | none => (insertValue v keys []).map fun inner => setNode key (.table .dotted inner) es
    | some (.table origin inner) =>
      if origin = .header then none
      else (insertValue v keys inner).map fun inner => setNode key (.table origin inner) es
    | some (.value _) => none
    | some (.tables _) => none

/-- Applies `f` to the entries of the table under a path of headers; tables on the way are entered,
or made as implied. -/
def updateAt (f : Entries → Option Entries) : List String → Entries → Option Entries
  | [], es => f es
  | key :: keys, es =>
    match es.lookup key with
    | none => (updateAt f keys []).map fun inner => setNode key (.table .implied inner) es
    | some (.table origin inner) =>
      (updateAt f keys inner).map fun inner => setNode key (.table origin inner) es
    | some (.tables (last :: before)) =>
      (updateAt f keys last).map fun last => setNode key (.tables (last :: before)) es
    | some (.tables []) => none
    | some (.value _) => none

/-- Opens a table by its header: a new one, or one that was implied. -/
def openTable (key : String) (es : Entries) : Option Entries :=
  match es.lookup key with
  | none => some (setNode key (.table .header []) es)
  | some (.table .implied inner) => some (setNode key (.table .header inner) es)
  | some _ => none

/-- Adds a table to an array of tables, or begins the array. -/
def addTable (key : String) (es : Entries) : Option Entries :=
  match es.lookup key with
  | none => some (setNode key (.tables [[]]) es)
  | some (.tables items) => some (setNode key (.tables ([] :: items)) es)
  | some _ => none

mutual

/-- The value that a node stands for. -/
def Node.toToml : Node → Toml
  | .value v => v
  | .table _ entries => .table (entriesToToml entries)
  | .tables items => .array (tablesToToml items).reverse

/-- The entries with the values that their nodes stand for. -/
def entriesToToml : List (String × Node) → List (String × Toml)
  | [] => []
  | (k, x) :: es => (k, x.toToml) :: entriesToToml es

/-- The tables that entries stand for. -/
def tablesToToml : List (List (String × Node)) → List Toml
  | [] => []
  | es :: ess => .table (entriesToToml es) :: tablesToToml ess

end

/-- A statement of a document. -/
inductive Statement where
  /-- A value under a dotted key. -/
  | assign (key : List String) (v : Toml)
  /-- The header of a table: its path, and its own key. -/
  | tableHeader (path : List String) (key : String)
  /-- The header of a table of an array: its path, and the key of the array. -/
  | arrayHeader (path : List String) (key : String)

/-- A document under construction: its tables, and the path of the open one. -/
structure Progress where
  /-- The entries of the whole document. -/
  entries : Entries
  /-- The path of the table that is open. -/
  path : List String

/-- The document after a statement. -/
def Progress.apply (p : Progress) : Statement → Option Progress
  | .assign key v => (updateAt (insertValue v key) p.path p.entries).map fun es => ⟨es, p.path⟩
  | .tableHeader path key =>
    (updateAt (openTable key) path p.entries).map fun es => ⟨es, path ++ [key]⟩
  | .arrayHeader path key =>
    (updateAt (addTable key) path p.entries).map fun es => ⟨es, path ++ [key]⟩

/-- The table that the statements of a document make up. -/
def ofStatements? (statements : List Statement) : Option Toml :=
  (statements.foldlM Progress.apply ⟨[], []⟩).map fun p => .table (entriesToToml p.entries)

/-- The table that the assignments of an inline table make up. -/
def ofAssignments? (assignments : List (List String × Toml)) : Option Toml :=
  (assignments.foldlM (fun es (key, v) => insertValue v key es) []).map fun es =>
    .table (entriesToToml es)

end MetricLayer.Toml
