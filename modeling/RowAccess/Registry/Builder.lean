import RowAccess.Predicate.Held
import RowAccess.Registry.Fingerprint
import RowAccess.Restriction
import RowAccess.Schema
import RowAccess.Source

/-!
# Builders

A builder makes the restrictions of one type. It holds the type's schema as it was when the builder was
made, the fields that are classified, and two restrictions that were built before: that of the type's
own fields, and the inclusive one, which also covers the rows that its rows are attached to.

The restriction of the own fields is kept for as long as the same source reports the same version or
the same tokens. The inclusive one is kept for as long as its parts are: every part has a generation,
which counts how often it was built.
-/

namespace RowAccess

/-- A classified field. -/
structure Classified where
  field : String
  dimension : String
  kind : Kind
deriving Repr, DecidableEq

/-- What is kept of the restriction of the own fields. -/
structure OwnSlot where
  source : Option SourceId
  version : Option Version
  fingerprint : Option Fingerprint
  restriction : Option Restriction
  generation : Nat

/-- What is kept of the inclusive restriction, with the generations of the parts it was made from. -/
structure InclusiveSlot where
  restriction : Option Restriction
  ownGeneration : Nat
  parentGenerations : List Nat
  generation : Nat

structure Builder where
  schema : Schema
  classified : List Classified
  own : OwnSlot
  inclusive : InclusiveSlot

namespace OwnSlot

def empty : OwnSlot := ⟨none, none, none, none, 0⟩

/-- Forgets what was built, but not for which source and how often. -/
def invalidate (s : OwnSlot) : OwnSlot :=
  { s with version := none, fingerprint := none, restriction := none }

/-- The slot as it is for requests to a source. -/
def forSource (s : OwnSlot) (id : SourceId) : OwnSlot :=
  if s.source = some id then s else { s.invalidate with source := some id }

end OwnSlot

def InclusiveSlot.empty : InclusiveSlot := ⟨none, 0, [], 0⟩

namespace Builder

/-- A builder without classified fields. -/
def new (s : Schema) : Builder := ⟨s, [], .empty, .empty⟩

def entity (b : Builder) : String := b.schema.entity

/-! ### Classified fields -/

/-- The field to classify, if it can be: one of a classifiable kind that the type declares itself. -/
def classifiableField? (b : Builder) (field : String) : Except Fault Field :=
  match b.schema.field? field with
  | none => .error (.unknownField b.entity field)
  | some f =>
      if f.declaredBy ≠ b.entity then .error (.foreignField b.entity field f.declaredBy)
      else if !f.kind.isClassifiable then
        .error (.unsupportedFieldKind b.entity field f.kind.name Kind.classifiableNames)
      else .ok f

/-- Classifies a field under a dimension. A field has one dimension for good; what was built of the own
fields is forgotten when a field is added. -/
def classify (b : Builder) (field dimension : String) : Except Fault Builder := do
  let f ← b.classifiableField? field
  match b.classified.find? fun c => c.field = field with
  | some c =>
      if c.dimension = dimension then return b
      else .error (.conflictingClassification b.entity field c.dimension dimension)
  | none =>
      return { b with
        classified := b.classified ++ [⟨field, dimension, f.kind⟩]
        own := b.own.invalidate }

/-- The fields that a schema classifies, with their dimensions. -/
def declared (s : Schema) : List (String × String) :=
  s.fields.filterMap fun f => f.dimension.map fun d => (f.name, d)

/-- The builder of a schema, with the fields classified that it declares so. -/
def ofSchema? (s : Schema) : Except Fault Builder :=
  (declared s).foldlM (fun b e => b.classify e.1 e.2) (new s)

/-- The dimensions of the classified fields, each of them once. -/
def dimensions (b : Builder) : List String :=
  b.classified.foldl (fun ds c => if ds.contains c.dimension then ds else ds ++ [c.dimension]) []

/-! ### The restriction of the own fields -/

/-- The tokens held in the dimensions of the classified fields. -/
def held (b : Builder) (view : SourceView) : List (String × List String) :=
  b.dimensions.map fun d => (d, view.tokens d)

/-- What the classified fields demand under held tokens, nothing when there are none. -/
def demand (classified : List Classified) (held : List (String × List String)) :
    Except Fault (Option Predicate) :=
  classified.foldlM
    (fun content c => do
      let p ← Predicate.ofTokens? (.own c.field) c.kind ((held.lookup c.dimension).getD [])
      return some (Restriction.narrow content p))
    none

/-- A restriction as a new object. `serial` is the next free serial number, which is returned too. -/
def object (serial : Nat) : Option Predicate → Restriction × Nat
  | none => (.unrestricted, serial)
  | some p => (.restricted serial p, serial + 1)

/-- What the slot of the own fields answers to a version alone. -/
def keptByVersion? (s : OwnSlot) (version : Option Version) : Option Restriction :=
  if version.isSome ∧ s.version = version then s.restriction else none

/-- What the slot of the own fields answers to a fingerprint. -/
def keptByFingerprint? (s : OwnSlot) (fingerprint : Fingerprint) : Option Restriction :=
  if s.fingerprint = some fingerprint then s.restriction else none

/-- The outcome of a request for the own fields: the builder and the next free serial number after it,
and the restriction with its generation. -/
structure OwnOutcome where
  builder : Builder
  serial : Nat
  result : Except Fault (Restriction × Nat)

/-- The restriction of the own fields for a source. A request that fails leaves nothing built. -/
def resolveOwn (b : Builder) (view : SourceView) (serial : Nat) : OwnOutcome :=
  let slot := b.own.forSource view.id
  match keptByVersion? slot view.version with
  | some kept => ⟨{ b with own := slot }, serial, .ok (kept, slot.generation)⟩
  | none =>
      let held := b.held view
      let fingerprint := Fingerprint.ofHeld held
      match keptByFingerprint? slot fingerprint with
      | some kept =>
          ⟨{ b with own := { slot with version := view.version } }, serial,
            .ok (kept, slot.generation)⟩
      | none =>
          match demand b.classified held with
          | .error f => ⟨{ b with own := slot.invalidate }, serial, .error f⟩
          | .ok content =>
              let (restriction, next) := object serial content
              let slot :=
                { slot with
                  version := view.version
                  fingerprint := some fingerprint
                  restriction := some restriction
                  generation := slot.generation + 1 }
              ⟨{ b with own := slot }, next, .ok (restriction, slot.generation)⟩

/-! ### The inclusive restriction -/

/-- The restriction of a type with its generation. It is incomplete where a cycle of edges was cut. -/
structure Resolved where
  restriction : Restriction
  generation : Nat
  complete : Bool

/-- The own restriction narrowed by those of the parents, each moved to the end of its edge. -/
def combine (own : Restriction) (parents : List (Edge × Resolved)) : Option Predicate :=
  parents.foldl
    (fun content p =>
      match p.2.restriction.content with
      | none => content
      | some q => some (Restriction.narrow content (q.rebase p.1.name)))
    own.content

/-- The combined restriction. It is the own one itself where no parent is restricted. -/
def combined (own : Restriction) (parents : List (Edge × Resolved)) (serial : Nat) :
    Restriction × Nat :=
  if parents.all fun p => p.2.restriction.isUnrestricted then (own, serial)
  else object serial (combine own parents)

/-- What the slot of the inclusive restriction answers to the generations of its parts. -/
def keptInclusive? (s : InclusiveSlot) (ownGeneration : Nat) (parentGenerations : List Nat) :
    Option Restriction :=
  if s.ownGeneration = ownGeneration ∧ s.parentGenerations = parentGenerations then s.restriction
  else none

/-- The inclusive restriction from its parts. An incomplete one is never kept, since it depends on
where the cycle was entered. -/
def settle (b : Builder) (own : Restriction) (ownGeneration : Nat) (parents : List (Edge × Resolved))
    (complete : Bool) (serial : Nat) : Builder × Nat × Resolved :=
  let parentGenerations := parents.map fun p => p.2.generation
  if complete then
    match keptInclusive? b.inclusive ownGeneration parentGenerations with
    | some kept => (b, serial, ⟨kept, b.inclusive.generation, true⟩)
    | none =>
        let (restriction, next) := combined own parents serial
        let generation := b.inclusive.generation + 1
        ({ b with inclusive := ⟨some restriction, ownGeneration, parentGenerations, generation⟩ },
          next, ⟨restriction, generation, true⟩)
  else
    let (restriction, next) := combined own parents serial
    (b, next, ⟨restriction, 0, false⟩)

end Builder

end RowAccess
