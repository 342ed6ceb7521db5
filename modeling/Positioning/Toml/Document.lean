import Positioning.Table

/-!
# Documents

A document is a tree of tables with values at the leaves, kept as a table of entries by path from
the root. A table comes about in one of three ways, which decide whether it may be opened or
extended later: by its own header, as a part of the path of another header, or as a part of a dotted
key.

## Main definitions

- `Document.define` writes a value under a dotted key of a table.
- `Document.openTable` opens the table of a header.

Both give nothing where the entry would contradict an earlier one.
-/

namespace Positioning.Toml

/-- The keys from the root of a document, or of a table within it, to an entry. -/
abbrev Path :=
  List String

/-- A value. Of arrays only the empty one is kept, and of booleans, dates and numbers only the
integers: a document that holds others is of no use to anyone here. -/
inductive Value where
  | string (s : String)
  | integer (n : Int)
  | emptyArray
  | table (entries : List (Path × Value))

/-- How a table came about. -/
inductive Origin where
  | header
  | implied
  | dotted
deriving DecidableEq

/-- What stands at a path. -/
inductive Entry where
  | value (v : Value)
  | table (origin : Origin)

/-- The entries of a document by path. -/
abbrev Document :=
  Table Path Entry

namespace Document

/-- The document without entries. -/
def empty : Document :=
  Table.empty

/-- The paths through a dotted key that starts at a table, from the shortest on. -/
def pathsFrom (table : Path) : List String → List Path
  | [] => []
  | key :: rest => (table ++ [key]) :: pathsFrom (table ++ [key]) rest

/-- Passes through a table on the way to a header. -/
def passHeader (d : Document) (path : Path) : Option Document :=
  match d.get? path with
  | none => some (d.put path (.table .implied))
  | some (.table _) => some d
  | some (.value _) => none

/-- Passes through a table on the way to a dotted key. A table that has a header is closed to dotted
keys. -/
def passKey (d : Document) (path : Path) : Option Document :=
  match d.get? path with
  | none => some (d.put path (.table .dotted))
  | some (.table .header) => none
  | some (.table _) => some d
  | some (.value _) => none

/-- The entry that holds a new key is the table at hand, or one that dotted keys made. -/
def takesKey (d : Document) (table : Path) (parents : List String) : Bool :=
  parents.isEmpty ||
    match d.get? (table ++ parents) with
    | some (.table .dotted) => true
    | _ => false

/-- Writes a value under a dotted key of a table, where nothing stands yet. -/
def define (d : Document) (table : Path) (key : List String) (v : Value) : Option Document := do
  let d ← (pathsFrom table key.dropLast).foldlM passKey d
  if d.takesKey table key.dropLast then
    match d.get? (table ++ key) with
    | none => return d.put (table ++ key) (.value v)
    | some _ => none
  else none

/-- Opens the table of a header. Each table is opened once. -/
def openTable (d : Document) (path : Path) : Option Document := do
  let d ← (pathsFrom [] path.dropLast).foldlM passHeader d
  match d.get? path with
  | none => return d.put path (.table .header)
  | some (.table .implied) => return d.put path (.table .header)
  | some _ => none

/-- The paths of the entries right below a path. -/
def children (d : Document) (path : Path) : List Path :=
  d.keys.filter fun p => p ≠ [] && p.dropLast = path

end Document

end Positioning.Toml
