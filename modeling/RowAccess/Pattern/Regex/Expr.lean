import RowAccess.Unicode.CodeSet

/-!
# Regular expressions without flags

`Expr` is an expression whose classes are sets of code points. The functions `ofSet`, `ofConcat`,
`ofAlternation` and `ofRepeat` build it in a normal form: what can be written as plain text is, no
sequence stands directly in a sequence and no choice in a choice, and a choice between sequences that
begin alike begins with what they share.
-/

namespace RowAccess.Pattern.Regex

open RowAccess.Unicode (CodeSet)

/-- Conditions on a position, by the characters before and after it. -/
inductive Look
  | textStart
  | textEnd
  | lineStart
  | lineEnd
  | lineStartReturn
  | lineEndReturn
  | boundary (unicode : Bool)
  | notBoundary (unicode : Bool)
  | wordStart (unicode : Bool)
  | wordEnd (unicode : Bool)
  | wordStartHalf (unicode : Bool)
  | wordEndHalf (unicode : Bool)
deriving Repr, DecidableEq

/-- An expression with its flags applied. A set is one of bytes where it was written without
Unicode; it then holds ASCII alone. -/
inductive Expr
  | empty
  | literal (cs : List Char)
  | chars (ofBytes : Bool) (s : CodeSet)
  | look (l : Look)
  | rep (least : Nat) (most : Option Nat) (isLazy : Bool) (e : Expr)
  | group (e : Expr)
  | concat (es : List Expr)
  | alternation (es : List Expr)

namespace Expr

/-- The expression that matches nothing. -/
def nothing : Expr := .chars true .empty

/-! ### Measures -/

mutual

/-- False when an expression can match nothing but the empty text. -/
def consumes : Expr → Bool
  | .empty => false
  | .literal _ => true
  | .chars _ _ => true
  | .look _ => false
  | .rep _ most _ e => e.consumes && most != some 0
  | .group e => e.consumes
  | .concat es => consumesAny es
  | .alternation es => consumesAny es

def consumesAny : List Expr → Bool
  | [] => false
  | e :: rest => e.consumes || consumesAny rest

end

mutual

/-- The fewest characters of a match; `none` where an empty set stands in the way. -/
def minLength : Expr → Option Nat
  | .empty => some 0
  | .literal cs => some cs.length
  | .chars _ s => if s.ranges.isEmpty then none else some 1
  | .look _ => some 0
  | .rep least _ _ e => e.minLength.map (· * least)
  | .group e => e.minLength
  | .concat es => minLengthOfAll es
  | .alternation es => minLengthOfOne es

def minLengthOfAll : List Expr → Option Nat
  | [] => some 0
  | e :: rest =>
      match e.minLength, minLengthOfAll rest with
      | some m, some n => some (m + n)
      | _, _ => none

def minLengthOfOne : List Expr → Option Nat
  | [] => none
  | [e] => e.minLength
  | e :: rest =>
      match e.minLength, minLengthOfOne rest with
      | some m, some n => some (min m n)
      | _, _ => none

end

mutual

/-- True when every match begins with a condition. -/
def begins (l : Look) : Expr → Bool
  | .empty => false
  | .literal _ => false
  | .chars _ _ => false
  | .look k => k == l
  | .rep least _ _ e => 0 < least && e.begins l
  | .group e => e.begins l
  | .concat es => beginsFirst l es
  | .alternation es => !es.isEmpty && beginsEach l es

/-- The condition stands before the first expression that takes a character. -/
def beginsFirst (l : Look) : List Expr → Bool
  | [] => false
  | e :: rest => e.begins l || (!e.consumes && beginsFirst l rest)

def beginsEach (l : Look) : List Expr → Bool
  | [] => true
  | e :: rest => e.begins l && beginsEach l rest

end

mutual

/-- True when every match ends with a condition. -/
def ends (l : Look) : Expr → Bool
  | .empty => false
  | .literal _ => false
  | .chars _ _ => false
  | .look k => k == l
  | .rep least _ _ e => 0 < least && e.ends l
  | .group e => e.ends l
  | .concat es => endsLast l es
  | .alternation es => !es.isEmpty && endsEach l es

/-- The condition stands behind the last expression that takes a character. -/
def endsLast (l : Look) : List Expr → Bool
  | [] => false
  | e :: rest => endsLast l rest || (!consumesAny rest && e.ends l)

def endsEach (l : Look) : List Expr → Bool
  | [] => true
  | e :: rest => e.ends l && endsEach l rest

end

mutual

/-- True when two expressions are written alike. A group is a group of its own, so nothing else is
like it. -/
def same : Expr → Expr → Bool
  | .empty, .empty => true
  | .literal a, .literal b => a == b
  | .chars x a, .chars y b => x == y && a == b
  | .look a, .look b => a == b
  | .rep least most isLazy a, .rep least' most' isLazy' b =>
      least == least' && most == most' && isLazy == isLazy' && a.same b
  | .concat a, .concat b => sameAll a b
  | .alternation a, .alternation b => sameAll a b
  | _, _ => false

def sameAll : List Expr → List Expr → Bool
  | [], [] => true
  | a :: as, b :: bs => a.same b && sameAll as bs
  | _, _ => false

end

/-! ### Building -/

/-- Code points that are no characters. -/
def surrogates : CodeSet := .interval 0xD800 0xDFFF

/-- One character of a set; a set of one is plain text. -/
def ofSet (ofBytes : Bool) (s : CodeSet) : Expr :=
  let s := s.diff surrogates
  match s.ranges with
  | [] => nothing
  | [(lo, hi)] => if lo = hi then .literal [Char.ofNat lo] else .chars ofBytes s
  | _ => .chars ofBytes s

/-- What an expression adds to a sequence. -/
def parts : Expr → List Expr
  | .empty => []
  | .concat es => es
  | e => [e]

/-- Joins plain texts that stand side by side. -/
def joinLiterals : List Expr → List Expr
  | [] => []
  | .literal a :: rest =>
      match joinLiterals rest with
      | .literal b :: rest => .literal (a ++ b) :: rest
      | rest => .literal a :: rest
  | e :: rest => e :: joinLiterals rest

/-- One expression after the other. -/
def ofConcat (es : List Expr) : Expr :=
  match joinLiterals (es.flatMap parts) with
  | [] => .empty
  | [e] => e
  | es => .concat es

/-- What an expression adds to a choice. -/
def branches : Expr → List Expr
  | .alternation es => es
  | e => [e]

/-- The character of a plain text of one character. -/
def single? : Expr → Option Char
  | .literal [c] => some c
  | _ => none

def set? : Expr → Option CodeSet
  | .chars _ s => some s
  | _ => none

/-- The expressions as one set, if all are single characters or all are sets. -/
def merged? (es : List Expr) : Option Expr :=
  match es.mapM single? with
  | some cs => some (ofSet false (.ofRanges (cs.map fun c => (c.toNat, c.toNat))))
  | none =>
      (es.mapM set?).map fun sets => ofSet false (.ofRanges (sets.flatMap CodeSet.ranges))

/-- A choice between expressions that share no beginning. -/
def ofBranches (es : List Expr) : Expr :=
  match es.flatMap branches with
  | [] => nothing
  | [e] => e
  | es => (merged? es).getD (.alternation es)

def concatParts? : Expr → Option (List Expr)
  | .concat es => some es
  | _ => none

/-- How many expressions at the beginning of two sequences are alike. -/
def sharedCount : List Expr → List Expr → Nat
  | a :: as, b :: bs => if a.same b then sharedCount as bs + 1 else 0
  | _, _ => 0

/-- A choice between expressions. Sequences that begin alike share their beginning. -/
def ofAlternation (es : List Expr) : Expr :=
  let es := es.flatMap branches
  match es.mapM concatParts? with
  | some (first :: second :: rest) =>
      let shared := (second :: rest).foldl (fun n es => min n (sharedCount first es)) first.length
      if shared = 0 then .alternation es
      else
        let tails := (first :: second :: rest).map fun es => ofConcat (es.drop shared)
        ofConcat (first.take shared ++ [ofBranches tails])
  | _ => ofBranches es

/-- An expression repeated. One that takes no character is matched once at most. -/
def ofRepeat (least : Nat) (most : Option Nat) (isLazy : Bool) (e : Expr) : Expr :=
  let (least, most) :=
    if e.consumes then (least, most) else (min least 1, some (min (most.getD 1) 1))
  if most = some 0 then .empty
  else if least = 1 ∧ most = some 1 then e
  else .rep least most isLazy e

end Expr

end RowAccess.Pattern.Regex
