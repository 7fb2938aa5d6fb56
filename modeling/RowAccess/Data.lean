import RowAccess.Number.Binary64

/-!
# Data

What a document holds before anything is known about its shape. Tables keep their entries in the
order of the document. A moment is a date, a time of day or both, kept as text.
-/

namespace RowAccess

open RowAccess.Number (Binary64)

inductive Data
  | null
  | bool (b : Bool)
  | whole (n : Int)
  | real (x : Binary64)
  | text (s : String)
  | moment (s : String)
  | list (items : List Data)
  | table (entries : List (String × Data))

namespace Data

/-- The value of a table's entry. -/
def get? (d : Data) (key : String) : Option Data :=
  match d with
  | table entries => entries.lookup key
  | _ => none

/-- The items of a list; other data has none. -/
def items : Data → List Data
  | list ds => ds
  | _ => []

/-- The entries of a table; other data has none. -/
def entries : Data → List (String × Data)
  | table es => es
  | _ => []

end Data

end RowAccess
