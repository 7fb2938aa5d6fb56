import RowAccess.Row

/-!
# Predicates on rows

A predicate combines comparisons of a field with a value. A comparison is unknown where the field is
not set or a row on the way to it is not attached, and what depends on it may be unknown too: `evaluate`
is the strong three-valued logic of Kleene. A row is admitted where the predicate is definitely true.
-/

namespace RowAccess

/-! ### Three truth values -/

/-- True, false or unknown. -/
abbrev Truth := Option Bool

namespace Truth

def not (a : Truth) : Truth := a.map (!·)

def and : Truth → Truth → Truth
  | some false, _ => some false
  | _, some false => some false
  | some true, some true => some true
  | _, _ => none

def or : Truth → Truth → Truth
  | some true, _ => some true
  | _, some true => some true
  | some false, some false => some false
  | _, _ => none

end Truth

/-! ### Paths -/

/-- A field, and the edges that lead from a row to the row that has it. -/
structure FieldPath where
  edges : List String
  field : String
deriving Repr, DecidableEq

namespace FieldPath

/-- A field of the row itself. -/
def own (field : String) : FieldPath := ⟨[], field⟩

/-- The same field for a row whose edge leads here. -/
def rebase (edge : String) (p : FieldPath) : FieldPath := { p with edges := edge :: p.edges }

/-- The value that a path leads to. -/
def resolve (p : FieldPath) (r : Row) : Option Value :=
  (r.follow? p.edges).bind fun r => r.field? p.field

/-- Edges and field with points between them. -/
def textChars (p : FieldPath) : List Char :=
  p.edges.flatMap (fun edge => edge.toList ++ ['.']) ++ p.field.toList

def display (p : FieldPath) : String := String.ofList p.textChars

end FieldPath

/-! ### Predicates -/

inductive Predicate
  | always
  | never
  | equals (path : FieldPath) (value : Value)
  | not (inner : Predicate)
  | and (left right : Predicate)
  | or (left right : Predicate)
deriving DecidableEq

namespace Predicate

/-- The predicate for rows whose edge leads to the rows that this one is about. -/
def rebase (edge : String) : Predicate → Predicate
  | always => always
  | never => never
  | equals path value => equals (path.rebase edge) value
  | not p => not (p.rebase edge)
  | and p q => and (p.rebase edge) (q.rebase edge)
  | or p q => or (p.rebase edge) (q.rebase edge)

/-- The truth of a predicate for a row. -/
def evaluate : Predicate → Row → Truth
  | always, _ => some true
  | never, _ => some false
  | equals path value, r => (path.resolve r).map fun found => found.equals value
  | not p, r => (p.evaluate r).not
  | and p q, r => (p.evaluate r).and (q.evaluate r)
  | or p q, r => (p.evaluate r).or (q.evaluate r)

/-- True of the rows that the predicate definitely holds for. -/
def admits (p : Predicate) (r : Row) : Bool := p.evaluate r == some true

/-- The truth value that a predicate is by itself, if it is one. -/
def constant? : Predicate → Option Bool
  | always => some true
  | never => some false
  | _ => none

/-- How many comparisons a predicate holds. -/
def comparisons : Predicate → Nat
  | always => 0
  | never => 0
  | equals _ _ => 1
  | not p => p.comparisons
  | and p q => p.comparisons + q.comparisons
  | or p q => p.comparisons + q.comparisons

/-- True of predicates that stand in parentheses where they are part of another. -/
def isCompound : Predicate → Bool
  | and _ _ => true
  | or _ _ => true
  | _ => false

/-- A part of a predicate as it is written. -/
def operand (p : Predicate) (text : List Char) : List Char :=
  if p.isCompound then '(' :: text ++ [')'] else text

def textChars : Predicate → List Char
  | always => "TRUE".toList
  | never => "FALSE".toList
  | equals path value => path.textChars ++ " == ".toList ++ value.textChars
  | not p => "NOT ".toList ++ p.operand p.textChars
  | and p q => p.operand p.textChars ++ " AND ".toList ++ q.operand q.textChars
  | or p q => p.operand p.textChars ++ " OR ".toList ++ q.operand q.textChars

def display (p : Predicate) : String := String.ofList p.textChars

end Predicate

end RowAccess
