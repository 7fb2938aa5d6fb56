import RowAccess.Data

/-!
# The tables of a TOML document

While a document is read, a table remembers how it came to be: by a header of its own, because a
longer header names it on its way, or because a key with points does. That decides what may still
be added to it. `setKey` adds a value under a key, `openTable` and `openRow` add what a header
announces. None of them changes a value that is already there.
-/

namespace RowAccess.Data.Toml

/-- How a table came to be. -/
inductive Origin
  | header
  | passedByHeader
  | passedByKey
deriving Repr, DecidableEq

/-- A part of the document. The rows of an array of tables have headers of their own. -/
inductive Tree
  | value (d : Data)
  | table (origin : Origin) (entries : List (String × Tree))
  | rows (rows : List (List (String × Tree)))

abbrev Entries := List (String × Tree)

namespace Entries

/-- Puts another part in the place of an entry. -/
def replace (name : String) (t : Tree) : Entries → Entries
  | [] => []
  | e :: rest => if e.1 = name then (name, t) :: rest else e :: replace name t rest

def erase (name : String) (es : Entries) : Entries := es.filter fun e => e.1 != name

/-- Changes the entries of the table that a path leads to. Tables missing on the way come to be as
`passing` says. On the way into an array of tables, its last row counts. A key with points must not
pass a table that has its own header. -/
def changeAt (passing : Origin) (change : Origin → Entries → Option Entries) :
    List String → Origin → Entries → Option Entries
  | [], here, es => change here es
  | name :: path, _, es =>
      match es.lookup name with
      | none =>
          (changeAt passing change path passing []).map fun inner =>
            es ++ [(name, .table passing inner)]
      | some (.table origin inner) =>
          if passing = .passedByKey ∧ origin = .header then none
          else
            (changeAt passing change path origin inner).map fun inner =>
              es.replace name (.table origin inner)
      | some (.rows rows) =>
          match rows.getLast? with
          | some row =>
              (changeAt passing change path .header row).map fun row =>
                es.replace name (.rows (rows.dropLast ++ [row]))
          | none => none
      | some (.value _) => none

/-- Adds an entry under a new name. -/
def add (name : String) (t : Tree) (es : Entries) : Option Entries :=
  match es.lookup name with
  | none => some (es ++ [(name, t)])
  | some _ => none

/-- Adds a value under a key. The table that it goes to must have come to be by keys with points too,
unless the key has none. -/
def setKey (path : List String) (name : String) (d : Data) (es : Entries) : Option Entries :=
  es.changeAt .passedByKey
    (fun here es =>
      if (here = .passedByKey) = (path = []) then none else es.add name (.value d))
    path .header

/-- What the header of a table announces. A table that longer headers passed gets its own header now
and moves to the end. -/
def openTable (path : List String) (name : String) (es : Entries) : Option Entries :=
  es.changeAt .passedByHeader
    (fun _ es =>
      match es.lookup name with
      | none => some (es ++ [(name, .table .header [])])
      | some (.table .passedByHeader inner) => some (es.erase name ++ [(name, .table .header inner)])
      | some _ => none)
    path .header

/-- What the header of a row announces. -/
def openRow (path : List String) (name : String) (es : Entries) : Option Entries :=
  es.changeAt .passedByHeader
    (fun _ es =>
      match es.lookup name with
      | none => some (es ++ [(name, .rows [[]])])
      | some (.rows rows) => some (es.replace name (.rows (rows ++ [[]])))
      | some _ => none)
    path .header

end Entries

mutual

/-- A part of the document as data. -/
def Tree.toData : Tree → Data
  | .value d => d
  | .table _ es => .table (entriesToData es)
  | .rows rows => .list (rowsToData rows)

def entriesToData : List (String × Tree) → List (String × Data)
  | [] => []
  | (name, t) :: rest => (name, t.toData) :: entriesToData rest

def rowsToData : List (List (String × Tree)) → List Data
  | [] => []
  | row :: rest => .table (entriesToData row) :: rowsToData rest

end

end RowAccess.Data.Toml
