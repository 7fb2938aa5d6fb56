import RowAccess.Config
import RowAccess.Registry
import RowAccess.Scope.Stack

/-!
# Access control

The registry of builders and the stack of scopes of one application, together with the tables that can
be sources of clearances and the places of all lines of execution. A line of execution sees the
clearances of its own current scope; everything else is shared. Epochs, revisions, generations and serial
numbers are natural numbers, so none of these counters ever wraps.
-/

namespace RowAccess

structure Access where
  registry : Registry
  stack : ScopeStack
  /-- Tables by their numbers. -/
  sources : List Source
  /-- The place of each line of execution. -/
  places : List Place

namespace Access

/-- A registry and a stack side by side, at the root of the tree of scopes. -/
def separate (c : Catalog) (m : Matcher) : Access := ⟨.new c, .new m, [], [none]⟩

/-- A registry whose requests go to the stack where they name no source. -/
def new (c : Catalog) (m : Matcher) : Access :=
  let a := separate c m
  { a with registry := { a.registry with source := some .stack } }

/-! ### Configuration -/

/-- Classifies fields one after another, up to the first that cannot be. -/
def classifyAll : Registry → List Classification → Registry × Except Fault Unit
  | r, [] => (r, .ok ())
  | r, c :: rest =>
      match r.classify c.entity c.field c.dimension with
      | (r, .error f) => (r, .error f)
      | (r, .ok ()) => classifyAll r rest

/-- Applies a configuration to the root and the registry. What comes before a failure stays. -/
def configure (a : Access) (c : Config) : Access × Except Fault Unit :=
  match c.check with
  | .error f => (a, .error f)
  | .ok () =>
      let root := Scope.rootSerial
      let stack := match c.accessor with
        | some name => a.stack.setAccessor root name
        | none => a.stack
      let stack := stack.addClearanceLists root c.clearances.entries
      match stack.addPermissions root c.permissions with
      | .error f => ({ a with stack }, .error f)
      | .ok stack =>
          let (registry, result) := classifyAll a.registry c.classifications
          ({ a with stack, registry }, result)

/-- An access control as a configuration wants it. -/
def ofConfig? (catalog : Catalog) (c : Config) : Except Fault Access :=
  match (new catalog c.matcherOrStandard).configure c with
  | (_, .error f) => .error f
  | (a, .ok ()) => .ok a

/-! ### Lines of execution -/

def place (a : Access) (line : Nat) : Place := (a.places[line]?).getD none

def setPlace (a : Access) (line : Nat) (p : Place) : Access :=
  { a with places := a.places.set line p }

/-- The number of the current scope of a line. -/
def current (a : Access) (line : Nat) : Nat := a.stack.current (a.place line)

/-- A new line of execution: at the place of the line that it comes from, or at the root. -/
def branch (a : Access) (line : Nat) (inherits : Bool) : Access × Nat :=
  ({ a with places := a.places ++ [if inherits then a.place line else none] }, a.places.length)

/-! ### Sources -/

/-- What a line sees of a source. A number without a table is a source that holds nothing. -/
def view (a : Access) (line : Nat) : SourceRef → SourceView
  | .stack => a.stack.view (a.place line)
  | .made n =>
      match a.sources[n]? with
      | some s => s.view n
      | none => ⟨.fresh n, none, fun _ => []⟩

/-- The source of a request: the one it names, or that of the registry. -/
def sourceOr (a : Access) (named : Option SourceRef) : Except Fault SourceRef :=
  match named with
  | some s => .ok s
  | none => a.registry.standardSource

def addSource (a : Access) (s : Source) : Access × Nat :=
  ({ a with sources := a.sources ++ [s] }, a.sources.length)

def changeSource (a : Access) (n : Nat) (f : Source → Source) : Access :=
  { a with sources := a.sources.modify n f }

/-! ### Requests -/

/-- A request to a source, on a line of execution. -/
def request (a : Access) (line : Nat) (source : Option SourceRef)
    (ask : Registry → SourceView → Registry × Except Fault Restriction) :
    Access × Except Fault Restriction :=
  match a.sourceOr source with
  | .error f => (a, .error f)
  | .ok s =>
      let (registry, result) := ask a.registry (a.view line s)
      ({ a with registry }, result)

/-- The restriction of the fields of a type alone. -/
def ownRestriction (a : Access) (line : Nat) (source : Option SourceRef) (entity : String) :
    Access × Except Fault Restriction :=
  a.request line source fun r view => r.ownRestriction view entity

/-- The restriction of a type and of all types that its edges lead to. -/
def inclusiveRestriction (a : Access) (line : Nat) (source : Option SourceRef) (entity : String) :
    Access × Except Fault Restriction :=
  a.request line source fun r view => r.inclusiveRestriction view entity

/-- The rows that the predicate of a restriction lets through. -/
def filterRows {α : Type} (x : Restriction) (row : α → Row) (rows : List α) : List α :=
  (Admitted.mk x.predicate rows).toList row

/-! ### How it looks from outside -/

def registryDescription (a : Access) : String :=
  "PredicateRegistry \x7b builders: " ++ String.ofList (Number.digits a.registry.builders.length) ++
    ", has_clearance_source: " ++ (if a.registry.source.isSome then "true" else "false") ++ " \x7d"

def description (a : Access) : String :=
  "AccessControl \x7b registry: " ++ a.registryDescription ++ ", stack: " ++ a.stack.description ++
    " \x7d"

end Access

/-- How a builder looks from outside. -/
def Builder.description (b : Builder) : String :=
  "PredicateBuilder \x7b entity: EntityType(" ++ String.ofList (Text.quoted b.entity.toList) ++
    "), classified_fields: " ++ String.ofList (Number.digits b.classified.length) ++
    ", navigations: " ++ String.ofList (Number.digits b.schema.edges.length) ++ " \x7d"

end RowAccess
