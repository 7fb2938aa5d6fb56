import RowAccess.Pattern.Regex.Automaton.Letters
import RowAccess.Pattern.Regex.Automaton.Words
import RowAccess.Pattern.Regex.Meaning
import RowAccess.Pattern.Regex.Reader

/-!
# The size of a regular expression

An expression is refused when its automaton is too large. There is one automaton for each direction of
reading, and both have to fit. The forward one marks where groups begin and end.
-/

namespace RowAccess.Pattern.Regex

open Automaton

/-- A single state. -/
def singleState : Build Tail := do
  let _ ← addState 0
  return .plain

/-- `n` more copies of a part behind an end. -/
def copiesBehind (part : Build Tail) : Nat → Tail → Built → Option (Tail × Built)
  | 0, tail, b => some (tail, b)
  | n + 1, tail, b =>
      match part b with
      | none => none
      | some (next, b) =>
          match tail.connect b with
          | none => none
          | some (_, b) => copiesBehind part n next b

/-- `n` copies of a part. -/
def copies (part : Build Tail) : Nat → Build Tail
  | 0 => singleState
  | n + 1 => do
      let tail ← part
      copiesBehind part n tail

/-- `n` more copies of a part, each of which can be left out with those behind it. -/
def optionalCopies (part : Build Tail) : Nat → Tail → Built → Option (Tail × Built)
  | 0, tail, b => some (tail, b)
  | n + 1, tail, b =>
      match (addState 0).run b with
      | none => none
      | some (_, b) =>
          match part b with
          | none => none
          | some (next, b) =>
              match (do tail.connect; addFreeWays 2 : Build Unit) b with
              | none => none
              | some (_, b) => optionalCopies part n next b

/-- Parts one after the other. -/
def sequenceStates : List (Build Tail) → Build Tail
  | [] => singleState
  | part :: rest => do
      let first ← part
      rest.foldlM (fun tail part => do
        let next ← part
        tail.connect
        return next) first

/-- A fork between parts, which meet in one state. -/
def forkStates : List (Build Tail) → Build Tail
  | [] => singleState
  | [part] => part
  | one :: two :: rest => do
      let a ← one
      let b ← two
      let _ ← addState 0
      let _ ← addState 0
      addFreeWays 2
      a.connect
      b.connect
      rest.forM fun part => do
        let tail ← part
        addFreeWays 1
        tail.connect
      return .plain

/-- A part that can be left out. -/
def optionalStates (part : Build Tail) : Build Tail := do
  let _ ← addState 0
  let tail ← part
  let _ ← addState 0
  addFreeWays 2
  tail.connect
  return .plain

/-- A part any number of times. One that can be empty is entered by a fork of its own. -/
def loopStates (advances : Bool) (part : Build Tail) : Build Tail :=
  if advances then do
    let _ ← addState 0
    let tail ← part
    addFreeWays 1
    tail.connect
    return .fork
  else do
    let tail ← part
    let _ ← addState 0
    tail.connect
    let _ ← addState 0
    let _ ← addState 0
    addFreeWays 4
    return .plain

/-- A part at least `n + 1` times. -/
def moreStates (part : Build Tail) (n : Nat) : Build Tail := do
  let before ← if n = 0 then pure .plain else copies part n
  let tail ← part
  let _ ← addState 0
  before.connect
  tail.connect
  addFreeWays 1
  return .fork

/-- A part at least `least` times, and at most `more` times more. -/
def boundedStates (part : Build Tail) (least more : Nat) : Build Tail := do
  let before ← copies part least
  let _ ← addState 0
  let tail ← optionalCopies part more before
  tail.connect
  return .plain

def repeatStates (advances : Bool) (part : Build Tail) : Nat → Option Nat → Build Tail
  | 0, none => loopStates advances part
  | n + 1, none => moreStates part n
  | least, some most =>
      if least = 0 ∧ most = 1 then optionalStates part
      else if least = most then copies part least
      else boundedStates part least (most - least)

/-- The bytes of a text in the order of reading. -/
def literalBytes (forward : Bool) (cs : List Char) : List Nat :=
  let bytes := cs.flatMap fun c => utf8 c.toNat
  if forward then bytes else bytes.reverse

/-- The words of a choice, if it is one between words. -/
def words? (forward : Bool) (es : List Expr) : Option (List (List Nat)) :=
  es.mapM fun e =>
    match e with
    | .literal cs => some (literalBytes forward cs)
    | _ => none

mutual

/-- The states of an expression. -/
def Expr.states (forward : Bool) : Expr → Build Tail
  | .empty => singleState
  | .literal cs => do
      grow ⟨(literalBytes forward cs).length, 0⟩
      return .plain
  | .chars _ s => setStates forward s
  | .look _ => singleState
  | .rep least most _ e =>
      repeatStates (e.minLength.any (0 < ·)) (e.states forward) least most
  | .group e =>
      if forward then do
        let _ ← addState 0
        let tail ← e.states forward
        let _ ← addState 0
        tail.connect
        return .plain
      else e.states forward
  | .concat es =>
      let parts := Expr.statesOfEach forward es
      sequenceStates (if forward then parts else parts.reverse)
  | .alternation es =>
      match words? forward es with
      | some words => wordStates words
      | none => forkStates (Expr.statesOfEach forward es)

def Expr.statesOfEach (forward : Bool) : List Expr → List (Build Tail)
  | [] => []
  | e :: rest => e.states forward :: Expr.statesOfEach forward rest

end

/-- The states before an expression: unless it is bound to where reading starts, they skip bytes. -/
def leadStates (bound : Bool) : Build Unit := do
  let _ ← addState 0
  if !bound then
    let _ ← addState 0
    let _ ← addState byteWay
    addFreeWays 2

/-- The automaton of an expression. -/
def Expr.automaton (forward : Bool) (e : Expr) : Build Unit := do
  leadStates (if forward then e.begins .textStart else e.ends .textEnd)
  let tail ← (Expr.group e).states forward
  let _ ← addState 0
  tail.connect

def Expr.fits (e : Expr) : Bool :=
  [true, false].all fun forward => ((e.automaton forward).run .nothing).isSome

/-- Reads an expression and finds its meaning, if it is not too large. -/
def Expr.read? (pattern : List Char) : Except Fault Expr := do
  let n ← Node.read? pattern
  let (e, _) ← n.meaning Mode.initial
  if e.fits then return e else .error (.tooLarge sizeLimit)

end RowAccess.Pattern.Regex
