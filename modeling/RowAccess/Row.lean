import RowAccess.Value

/-!
# Rows

What a predicate sees of a row: the values of its fields that are set, and the rows that it is
attached to, by the name of the edge that leads there.
-/

namespace RowAccess

inductive Row
  | mk (fields : List (String × Value)) (parents : List (String × Row))

namespace Row

/-- The row without fields and parents. -/
def empty : Row := mk [] []

def fields : Row → List (String × Value)
  | mk fs _ => fs

def parents : Row → List (String × Row)
  | mk _ ps => ps

/-- The value of a field, if it is set. -/
def field? (r : Row) (name : String) : Option Value := r.fields.lookup name

/-- The row at the end of an edge, if one is attached. -/
def parent? (r : Row) (edge : String) : Option Row := r.parents.lookup edge

/-- The row that a list of edges leads to. -/
def follow? (r : Row) : List String → Option Row
  | [] => some r
  | edge :: rest => (r.parent? edge).bind fun next => next.follow? rest

end Row

end RowAccess
