/-!
# Building an automaton

The automaton of a regular expression reads bytes. Only its size is kept: how many states it has and
what their ways out take. A state takes `stateBytes`. A way out that reads a byte takes `byteWay` more
where a state has a table of them, and a way out that reads nothing takes `freeWay` more where a state
is a fork. Building stops where the size passes `sizeLimit`.
-/

namespace RowAccess.Pattern.Regex.Automaton

def stateBytes : Nat := 32

/-- The cost of a way out in a table. -/
def byteWay : Nat := 8

/-- The cost of a way out of a fork. -/
def freeWay : Nat := 4

/-- The largest automaton that is accepted. -/
def sizeLimit : Nat := 10 * 1024 * 1024

/-- What has been built: the number of states, and the bytes of their ways out. -/
structure Built where
  states : Nat
  ways : Nat
deriving Repr, DecidableEq

namespace Built

def nothing : Built := ⟨0, 0⟩

def size (b : Built) : Nat := stateBytes * b.states + b.ways

def add (a b : Built) : Built := ⟨a.states + b.states, a.ways + b.ways⟩

end Built

/-- A step of building, which fails where the automaton gets too large. -/
abbrev Build := StateT Built Option

/-- Adds states and ways out. -/
def grow (more : Built) : Build Unit := fun b =>
  let b := b.add more
  if b.size ≤ sizeLimit then some ((), b) else none

/-- Adds a state whose ways out take `ways` bytes; the result is its number. -/
def addState (ways : Nat) : Build Nat := do
  let b ← get
  grow ⟨1, ways⟩
  return b.states

/-- Adds `n` ways out to forks. -/
def addFreeWays (n : Nat) : Build Unit := grow ⟨0, n * freeWay⟩

/-- The end of a part. What follows is one more way out of a fork; for any other state its place was
counted with the state. -/
inductive Tail
  | plain
  | fork
deriving Repr, DecidableEq

/-- Puts something behind the end of a part. -/
def Tail.connect : Tail → Build Unit
  | plain => pure ()
  | fork => addFreeWays 1

end RowAccess.Pattern.Regex.Automaton
