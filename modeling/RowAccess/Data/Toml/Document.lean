import RowAccess.Data.Toml.Scalar
import RowAccess.Data.Toml.Tree

/-!
# TOML documents

A document is a sequence of lines: headers, which name the table that the following keys belong to,
keys with their values, comments and nothing. `read?` returns the whole document as one table, or
nothing when any line of it is wrong.
-/

namespace RowAccess.Data.Toml

/-! ### Values -/

/-- Blanks, line breaks and comments between the items of a list, in at most `fuel` lines. -/
def gap : Nat → List Char → Option (List Char)
  | 0, _ => none
  | fuel + 1, s =>
      match skipBlanks s with
      | '#' :: rest => (lineBreak (rest.dropWhile isPlain)).bind (gap fuel)
      | '\n' :: rest => gap fuel rest
      | '\r' :: rest => (mark '\n' rest).bind (gap fuel)
      | s => some s

/-- The items of a list up to its closing bracket. A comma may follow the last one. -/
def items (value : List Char → Option (Data × List Char)) :
    Nat → List Char → Option (List Data × List Char)
  | 0, _ => none
  | fuel + 1, s => do
      let s ← gap (s.length + 1) s
      match s with
      | ']' :: rest => some ([], rest)
      | _ =>
          let (d, s) ← value s
          let s ← gap (s.length + 1) s
          match s with
          | ',' :: rest =>
              let (ds, rest) ← items value fuel rest
              some (d :: ds, rest)
          | ']' :: rest => some ([d], rest)
          | _ => none

/-- A key, an equals sign and what `value` reads. -/
def keyValue (value : List Char → Option (Data × List Char)) (s : List Char) :
    Option (Key × Data × List Char) := do
  let (k, s) ← key s
  let s ← mark '=' s
  let (d, s) ← value (skipBlanks s)
  some (k, d, s)

/-- The entries of a table on one line, from a key on to the closing brace. -/
def inlineEntries (value : List Char → Option (Data × List Char)) :
    Nat → Entries → List Char → Option (Entries × List Char)
  | 0, _, _ => none
  | fuel + 1, es, s => do
      let (k, d, s) ← keyValue value s
      let es ← es.setKey k.path k.name d
      match skipBlanks s with
      | ',' :: rest => inlineEntries value fuel es rest
      | '\x7d' :: rest => some (es, rest)
      | _ => none

/-- A table on one line behind its opening brace. -/
def inlineTable (value : List Char → Option (Data × List Char)) (s : List Char) :
    Option (Data × List Char) :=
  match skipBlanks s with
  | '\x7d' :: rest => some (.table [], rest)
  | _ => (inlineEntries value (s.length + 1) [] s).map fun r => (.table (entriesToData r.1), r.2)

/-- A value with lists and tables nested up to `depth`. -/
def value : Nat → List Char → Option (Data × List Char)
  | depth, s =>
      match s, depth with
      | '[' :: _, 0 => none
      | '\x7b' :: _, 0 => none
      | '[' :: rest, depth + 1 =>
          (items (value depth) (rest.length + 1) rest).map fun r => (.list r.1, r.2)
      | '\x7b' :: rest, depth + 1 => inlineTable (value depth) rest
      | s, _ => scalar s

/-! ### Lines -/

/-- What is known after some lines: all tables, and the table that the next keys go to. -/
structure Progress where
  root : Entries
  path : List String

def Progress.start : Progress := ⟨[], []⟩

/-- Adds a key and its value to the current table. -/
def Progress.set (p : Progress) (k : Key) (d : Data) : Option Progress :=
  (p.root.changeAt .passedByHeader (fun _ es => es.setKey k.path k.name d) p.path .header).map
    fun root => { p with root }

def Progress.openTable (p : Progress) (k : Key) : Option Progress :=
  (p.root.openTable k.path k.name).map fun root => ⟨root, k.path ++ [k.name]⟩

def Progress.openRow (p : Progress) (k : Key) : Option Progress :=
  (p.root.openRow k.path k.name).map fun root => ⟨root, k.path ++ [k.name]⟩

/-- One line. -/
def line (p : Progress) (s : List Char) : Option (Progress × List Char) :=
  match skipBlanks s with
  | '[' :: '[' :: rest => do
      let (k, rest) ← key rest
      let rest ← mark ']' rest
      let rest ← mark ']' rest
      let rest ← lineEnd rest
      some (← p.openRow k, rest)
  | '[' :: rest => do
      let (k, rest) ← key rest
      let rest ← mark ']' rest
      let rest ← lineEnd rest
      some (← p.openTable k, rest)
  | s =>
      match lineEnd s with
      | some rest => some (p, rest)
      | none => do
          let (k, d, rest) ← keyValue (value depthLimit) s
          let rest ← lineEnd rest
          some (← p.set k d, rest)

/-- All lines, at most `fuel` of them. -/
def lines : Nat → Progress → List Char → Option Progress
  | _, p, [] => some p
  | 0, _, _ => none
  | fuel + 1, p, s =>
      match line p s with
      | some (p, rest) => lines fuel p rest
      | none => none

/-- The mark that may stand before a document. -/
def byteOrderMark : Char := '\ufeff'

/-- Reads a document. -/
def read? (text : String) : Option Data :=
  let s := text.toList
  let s := if s.head? = some byteOrderMark then s.drop 1 else s
  (lines (s.length + 1) .start s).map fun p => .table (entriesToData p.root)

end RowAccess.Data.Toml
