import RowAccess.Pattern.Regex.Automaton.Built
import RowAccess.Pattern.Regex.ByteRange
import Std.Data.HashMap

/-!
# The states of a set of characters

An ASCII set is one table. Any other set becomes the sequences of byte ranges of its characters.
Forwards they form a tree in which a finished state is taken from the states made before it, if it is
like one of them; backwards each sequence is a chain, and chains share their steps nearest to the end.

Of the states made before, one is remembered at each place of a ring, and a newer one takes the place
of an older one. The place is found by hashing what makes the state up, numbers of states included.
-/

namespace RowAccess.Pattern.Regex.Automaton

open RowAccess.Unicode (CodeSet)

/-- The place of a list of numbers in a ring of `places`: its bytes hashed one after the other by
exclusive or and multiplication by a prime, in 64 bits. -/
def ringPlace (places : UInt64) (ns : List Nat) : UInt64 :=
  ns.foldl (fun h n => (h ^^^ n.toUInt64) * 1099511628211) 14695981039346656037 % places

/-- States that were made before, by their place: what makes them up, and their number. -/
abbrev Ring (α : Type) := Std.HashMap UInt64 (α × Nat)

/-- A step of building that may look at the states made before. -/
abbrev BuildWith (α : Type) := StateT (Ring α) Build

/-- The state that is made up like `key`: one made before, or a new one. -/
def reuse {α : Type} [DecidableEq α] (key : α) (place : UInt64) (ways : Nat) : BuildWith α Nat :=
  fun ring => do
    match ring.get? place with
    | some (known, n) =>
        if known = key then return (n, ring)
        else
          let n ← addState ways
          return (n, ring.insert place (key, n))
    | none =>
        let n ← addState ways
        return (n, ring.insert place (key, n))

/-! ### Forwards -/

/-- A way out of a table: a range of bytes and the state behind it. -/
structure Way where
  first : Nat
  last : Nat
  target : Nat
deriving Repr, DecidableEq

/-- A state that is not finished: its ways out so far, in reverse, and the range that leads to the
next unfinished state. -/
structure Unfinished where
  ways : List Way
  leads? : Option (Nat × Nat)
deriving Repr

/-- The state with the state that its open range leads to. -/
def Unfinished.lead (u : Unfinished) (target : Nat) : List Way :=
  match u.leads? with
  | some (first, last) => ⟨first, last, target⟩ :: u.ways
  | none => u.ways

def forwardRing : UInt64 := 10000

/-- Finishes a table. -/
def finishTable (ways : List Way) : BuildWith (List Way) Nat :=
  reuse ways (ringPlace forwardRing (ways.flatMap fun w => [w.first, w.last, w.target]))
    (byteWay * ways.length)

/-- Finishes a line of states, the last of them first. -/
def finishLine (target : Nat) : List Unfinished → BuildWith (List Way) Nat
  | [] => pure target
  | u :: rest => do
      let next ← finishLine target rest
      finishTable (u.lead next).reverse

/-- Adds a sequence to the line of unfinished states. Where it leaves the line, the states behind are
finished. -/
def addSequence (target : Nat) :
    List Unfinished → List (Nat × Nat) → BuildWith (List Way) (List Unfinished)
  | u :: rest, r :: rs =>
      if u.leads? = some r then do
        let rest ← addSequence target rest rs
        return u :: rest
      else do
        let next ← finishLine target rest
        return ⟨u.lead next, some r⟩ :: rs.map fun r => ⟨[], some r⟩
  | line, _ => pure line

def forwardSet (s : CodeSet) : Build Tail := do
  let target ← addState 0
  let build : BuildWith (List Way) Nat := do
    let line ← (sequences s).foldlM (addSequence target) [⟨[], none⟩]
    finishLine target line
  let _ ← build.run {}
  return .plain

/-! ### Backwards -/

/-- A step of a chain: the state behind it, and a range of bytes. -/
structure Step where
  behind : Nat
  first : Nat
  last : Nat
deriving Repr, DecidableEq

def backwardRing : UInt64 := 1000

/-- Adds a chain before the end `stop`. -/
def addChain (stop : Nat) (ranges : List (Nat × Nat)) : BuildWith Step Unit := do
  let _ ← ranges.foldlM
    (fun behind r => reuse ⟨behind, r.1, r.2⟩ (ringPlace backwardRing [behind, r.1, r.2]) 0) stop
  addFreeWays 1

def backwardSet (s : CodeSet) : Build Tail := do
  let _ ← addState 0
  let stop ← addState 0
  let build : BuildWith Step Unit := (sequences s).forM (addChain stop)
  let _ ← build.run {}
  return .plain

/-! ### Sets -/

/-- The states of a set. -/
def setStates (forward : Bool) (s : CodeSet) : Build Tail :=
  if s.isAscii then do
    let _ ← addState 0
    let _ ← addState (byteWay * s.ranges.length)
    return .plain
  else if forward then forwardSet s
  else backwardSet s

end RowAccess.Pattern.Regex.Automaton
