import RowAccess.Value

/-!
# Schemas

A schema describes a type: its fields in order, each with its kind and the type that declares it, and
the edges that lead to rows of other types. A catalog holds one schema for each type.
-/

namespace RowAccess

/-- A field of a type. -/
structure Field where
  name : String
  kind : Kind
  declaredBy : String
  /-- The dimension that the declaration classifies it under. -/
  dimension : Option String
deriving Repr, DecidableEq

/-- A way from the rows of a type to the rows of another. -/
structure Edge where
  name : String
  target : String
deriving Repr, DecidableEq

structure Schema where
  entity : String
  fields : List Field
  edges : List Edge
deriving Repr, DecidableEq

namespace Schema

/-- A schema of which only the type is known. -/
def new (entity : String) : Schema := ⟨entity, [], []⟩

/-- Puts a field in the place of the field with its name, or behind all others. -/
def putField (f : Field) : List Field → List Field
  | [] => [f]
  | g :: rest => if g.name = f.name then f :: rest else g :: putField f rest

def withField (s : Schema) (f : Field) : Schema := { s with fields := putField f s.fields }

/-- Adds a field that the type declares itself. -/
def declare (s : Schema) (name : String) (kind : Kind) (dimension : Option String) : Schema :=
  s.withField ⟨name, kind, s.entity, dimension⟩

/-- Adds a field that another type declares. -/
def inherit (s : Schema) (name : String) (kind : Kind) (declaredBy : String) : Schema :=
  s.withField ⟨name, kind, declaredBy, none⟩

def withEdge (s : Schema) (e : Edge) : Schema := { s with edges := s.edges ++ [e] }

def field? (s : Schema) (name : String) : Option Field := s.fields.find? fun f => f.name = name

end Schema

/-- Schemas of different types. -/
abbrev Catalog := List Schema

namespace Catalog

def describe? (c : Catalog) (entity : String) : Option Schema := c.find? fun s => s.entity = entity

/-- Adds a schema, in the place of the schema that its type had. -/
def register (c : Catalog) (s : Schema) : Catalog :=
  match c with
  | [] => [s]
  | t :: rest => if t.entity = s.entity then s :: rest else t :: register rest s

end Catalog

end RowAccess
