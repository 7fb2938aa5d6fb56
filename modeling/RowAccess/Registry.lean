import RowAccess.Registry.Builder

/-!
# The registry of builders

The registry holds a builder for each type that was asked for, made from the catalog's description at
that time. A request for an inclusive restriction goes through the graph of types: from a type along
its edges, but never to a type that is being visited already. The types being visited are all
different, so the way is never longer than the number of types there are.

A request changes the registry even when it fails: builders that it made and restrictions that it built
on the way are kept.
-/

namespace RowAccess

open RowAccess.Builder (Resolved)

/-- A source by its place: the stack of scopes, or a table by its number. -/
inductive SourceRef
  | stack
  | made (n : Nat)
deriving Repr, DecidableEq

structure Registry where
  catalog : Catalog
  builders : List Builder
  /-- The source of requests that name none. -/
  source : Option SourceRef
  /-- The next free serial number of predicates. -/
  serial : Nat

namespace Registry

def new (c : Catalog) : Registry := ⟨c, [], none, Restriction.openSerial + 1⟩

/-! ### Builders -/

def builder? (r : Registry) (entity : String) : Option Builder :=
  r.builders.find? fun b => b.entity = entity

/-- Puts a builder in the place of its type's builder. -/
def put (r : Registry) (b : Builder) : Registry :=
  { r with builders := r.builders.map fun c => if c.entity = b.entity then b else c }

/-- The builder of a type, made when there is none yet. -/
def get (r : Registry) (entity : String) : Registry × Except Fault Builder :=
  match r.builder? entity with
  | some b => (r, .ok b)
  | none =>
      match r.catalog.describe? entity with
      | none => (r, .error (.unknownEntityType entity))
      | some s =>
          match Builder.ofSchema? s with
          | .error f => (r, .error f)
          | .ok b => ({ r with builders := r.builders ++ [b] }, .ok b)

/-- Classifies a field of a type under a dimension. -/
def classify (r : Registry) (entity field dimension : String) : Registry × Except Fault Unit :=
  match r.get entity with
  | (r, .error f) => (r, .error f)
  | (r, .ok b) =>
      match b.classify field dimension with
      | .error f => (r, .error f)
      | .ok b => (r.put b, .ok ())

/-- The types with a builder, in order. -/
def entities (r : Registry) : List String :=
  (r.builders.map Builder.entity).mergeSort fun a b => decide (a ≤ b)

def registerSchema (r : Registry) (s : Schema) : Registry :=
  { r with catalog := r.catalog.register s }

/-- The source of requests that name none. -/
def standardSource (r : Registry) : Except Fault SourceRef :=
  match r.source with
  | some s => .ok s
  | none => .error .missingClearanceSource

/-! ### Restrictions of own fields -/

/-- The restriction of a builder's own fields, with its generation. -/
def resolveOwn (r : Registry) (view : SourceView) (b : Builder) :
    Registry × Except Fault (Restriction × Nat) :=
  let out := b.resolveOwn view r.serial
  ({ r with serial := out.serial }.put out.builder, out.result)

/-- The restriction of the fields of a type alone. -/
def ownRestriction (r : Registry) (view : SourceView) (entity : String) :
    Registry × Except Fault Restriction :=
  match r.get entity with
  | (r, .error f) => (r, .error f)
  | (r, .ok b) =>
      match r.resolveOwn view b with
      | (r, .error f) => (r, .error f)
      | (r, .ok (restriction, _)) => (r, .ok restriction)

/-! ### Inclusive restrictions -/

/-- A way through the graph of types: the registry, and the types being visited. -/
structure Traversal where
  registry : Registry
  visiting : List String

/-- The restrictions of the types that edges lead to, and whether all of them are complete. A type that
is being visited is left out. -/
def resolveParents (visit : Traversal → String → Traversal × Except Fault Resolved) :
    Traversal → List Edge → Traversal × Except Fault (List (Edge × Resolved) × Bool)
  | t, [] => (t, .ok ([], true))
  | t, e :: rest =>
      if t.visiting.contains e.target then
        match resolveParents visit t rest with
        | (t, .error f) => (t, .error f)
        | (t, .ok (parents, _)) => (t, .ok (parents, false))
      else
        match visit t e.target with
        | (t, .error f) => (t, .error f)
        | (t, .ok p) =>
            match resolveParents visit t rest with
            | (t, .error f) => (t, .error f)
            | (t, .ok (parents, complete)) =>
                (t, .ok ((e, p) :: parents, p.complete && complete))

/-- The inclusive restriction of a builder whose type is being visited. -/
def compose (visit : Traversal → String → Traversal × Except Fault Resolved) (view : SourceView)
    (t : Traversal) (b : Builder) : Traversal × Except Fault Resolved :=
  match t.registry.resolveOwn view b with
  | (r, .error f) => ({ t with registry := r }, .error f)
  | (r, .ok (own, ownGeneration)) =>
      match resolveParents visit { t with registry := r } b.schema.edges with
      | (t, .error f) => (t, .error f)
      | (t, .ok (parents, complete)) =>
          match t.registry.builder? b.entity with
          | none => (t, .error (.unknownEntityType b.entity))
          | some b =>
              let (b, serial, resolved) :=
                b.settle own ownGeneration parents complete t.registry.serial
              ({ t with registry := { t.registry with serial }.put b }, .ok resolved)

/-- The inclusive restriction of a type, visited while `fuel` more types may be. Where every type there
is is being visited, any other is unknown. -/
def resolve (view : SourceView) : Nat → Traversal → String → Traversal × Except Fault Resolved
  | 0, t, entity => (t, .error (.unknownEntityType entity))
  | fuel + 1, t, entity =>
      match t.registry.get entity with
      | (r, .error f) => ({ t with registry := r }, .error f)
      | (r, .ok b) =>
          let entered : Traversal := ⟨r, t.visiting ++ [entity]⟩
          let (t, result) := compose (resolve view fuel) view entered b
          ({ t with visiting := t.visiting.dropLast }, result)

/-- At least as many types as there are. -/
def typeBound (r : Registry) : Nat := r.catalog.length + r.builders.length

/-- The restriction of a type and of all types that its edges lead to. -/
def inclusiveRestriction (r : Registry) (view : SourceView) (entity : String) :
    Registry × Except Fault Restriction :=
  match resolve view (r.typeBound + 1) ⟨r, []⟩ entity with
  | (t, .error f) => (t.registry, .error f)
  | (t, .ok resolved) => (t.registry, .ok resolved.restriction)

end Registry

end RowAccess
