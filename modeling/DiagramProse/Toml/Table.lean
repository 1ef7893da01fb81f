import DiagramProse.Text.Keyed

/-!
The values of TOML, and how statements build tables up. A table is defined once: by a header, by dotted
keys, or inline. What a path only passes through may still be defined, and extended by headers.
-/

namespace DiagramProse

open Text

/-- How a table came about. -/
inductive TableOrigin where
  | header
  /-- A header named a table below it. -/
  | passed
  | dotted
  | inline
deriving DecidableEq, Repr

inductive TomlValue where
  | string (s : Text)
  | boolean (b : Bool)
  | number
  | moment (s : Text)
  | array (items : List TomlValue)
  | table (origin : TableOrigin) (entries : List (Text × TomlValue))
  /-- Tables that were added one after the other, the last of which is extended. -/
  | tables (before : List (List (Text × TomlValue))) (last : List (Text × TomlValue))

abbrev TomlTable := Keyed TomlValue

namespace TomlTable

/-- Adds a value at a dotted path. `isOpen` tells whether the table itself may get new keys; below it,
only tables that came about by dotted keys may. -/
def add? (value : TomlValue) : (isOpen : Bool) → (path : List Text) → TomlTable → Option TomlTable
  | _, [], _ => none
  | isOpen, [key], t =>
    if isOpen && (t.lookup key).isNone then some (t ++ [(key, value)]) else none
  | _, key :: path, t =>
    match t.lookup key with
    | none => (add? value true path []).map fun u => t ++ [(key, .table .dotted u)]
    | some (.table .dotted u) => (add? value true path u).map fun v => t.put key (.table .dotted v)
    | some (.table .passed u) => (add? value false path u).map fun v => t.put key (.table .passed v)
    | some (.tables before u) => (add? value false path u).map fun v => t.put key (.tables before v)
    | _ => none

/-- Changes the table that a header names. -/
def changeAt? (change : TomlTable → Option TomlTable) : (path : List Text) → TomlTable → Option TomlTable
  | [], t => change t
  | key :: path, t =>
    match t.lookup key with
    | none => (changeAt? change path []).map fun u => t ++ [(key, .table .passed u)]
    | some (.table .inline _) => none
    | some (.table origin u) => (changeAt? change path u).map fun v => t.put key (.table origin v)
    | some (.tables before u) => (changeAt? change path u).map fun v => t.put key (.tables before v)
    | _ => none

/-- Defines a table by its header. -/
def define? (key : Text) (t : TomlTable) : Option TomlTable :=
  match t.lookup key with
  | none => some (t ++ [(key, .table .header [])])
  | some (.table .passed u) => some (t.put key (.table .header u))
  | _ => none

/-- Adds one more table to those with the same header. -/
def append? (key : Text) (t : TomlTable) : Option TomlTable :=
  match t.lookup key with
  | none => some (t ++ [(key, .tables [] [])])
  | some (.tables before last) => some (t.put key (.tables (before ++ [last]) []))
  | _ => none

end TomlTable

/-- What is stated in a document: a header, a header for one more table, or a value. -/
inductive TomlStatement where
  | header (path : List Text) (key : Text)
  | appending (path : List Text) (key : Text)
  | entry (path : List Text) (value : TomlValue)

namespace TomlTable

/-- Applies a statement to a document, given the path of the table that the last header named. -/
def state? : TomlTable × List Text → TomlStatement → Option (TomlTable × List Text)
  | (t, _), .header path key => (changeAt? (define? key) path t).map fun u => (u, path ++ [key])
  | (t, _), .appending path key => (changeAt? (append? key) path t).map fun u => (u, path ++ [key])
  | (t, current), .entry path value =>
    (changeAt? (add? value true path) current t).map fun u => (u, current)

/-- The document that the statements define. -/
def ofStatements? (statements : List TomlStatement) : Option TomlTable :=
  (statements.foldlM state? ([], [])).map Prod.fst

/-- The table that inline entries define. -/
def ofEntries? (entries : List (List Text × TomlValue)) : Option TomlTable :=
  entries.foldlM (fun t (path, value) => add? value true path t) []

end TomlTable

end DiagramProse
