import RowAccess.Predicate
import RowAccess.Token

/-!
# Predicates from held tokens

The tokens held in a dimension decide which values of a field are admitted. Nothing is admitted
without tokens or with a denial of all values, and everything with an allowance of all values.
Otherwise a value must be one of those allowed, if any is, and none of those denied.
-/

namespace RowAccess.Predicate

/-- A chain of alternatives, the first of them innermost. -/
def anyOf : List Predicate → Option Predicate
  | [] => none
  | p :: ps => some (ps.foldl or p)

/-- What is allowed but not denied. -/
def allowedNotDenied : Option Predicate → Option Predicate → Predicate
  | some allowed, some denied => and allowed (not denied)
  | some allowed, none => allowed
  | none, some denied => not denied
  | none, none => never

/-- The values that tokens name, and whether they are denied. -/
def namedValues (tokens : List Token) : List (Bool × String) :=
  tokens.filterMap fun t => t.value?.map fun v => (t.isNegated, v)

/-- Comparisons with the values that tokens name. The first that is no value of the kind is a fault. -/
def comparisonsOf (path : FieldPath) (kind : Kind) (tokens : List Token) :
    Except Fault (List (Bool × Predicate)) :=
  (namedValues tokens).mapM fun (negated, text) => do
    return (negated, equals path (← kind.coerce path.display text))

/-- The predicate of a field under the tokens held in its dimension. -/
def ofTokens? (path : FieldPath) (kind : Kind) (held : List String) : Except Fault Predicate := do
  let tokens := held.map Token.parse
  if tokens = [] ∨ .denyAll ∈ tokens then return never
  else if .allowAll ∈ tokens then return always
  else
    let found ← comparisonsOf path kind tokens
    let side (negated : Bool) := anyOf ((found.filter (·.1 == negated)).map (·.2))
    return allowedNotDenied (side false) (side true)

end RowAccess.Predicate
