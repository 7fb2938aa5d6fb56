import RowAccess.Pattern.Regex.Meaning

/-!
# Searching a text

A text of `n` characters has `n + 1` positions. A set of positions is a list of marks, one for each
position in order. `Expr.reach` takes the positions where a match may begin to those where it may
end, so a text contains a match when some position can be reached from all of them.
-/

namespace RowAccess.Pattern.Regex

open RowAccess.Unicode (CodeSet)

/-- A position by the characters before and after it. -/
abbrev Position := Option Char × Option Char

/-- All positions of a text, given the character before it. -/
def positionsFrom : Option Char → List Char → List Position
  | before, [] => [(before, none)]
  | before, c :: rest => (before, some c) :: positionsFrom (some c) rest

def isWord (unicode : Bool) : Option Char → Bool
  | none => false
  | some c => ((LetterClass.word).set unicode).has c

/-- Whether a condition holds at a position. -/
def Look.holds (p : Position) : Look → Bool
  | .textStart => p.1.isNone
  | .textEnd => p.2.isNone
  | .lineStart => p.1.isNone || p.1 == some '\n'
  | .lineEnd => p.2.isNone || p.2 == some '\n'
  | .lineStartReturn =>
      p.1.isNone || p.1 == some '\n' || (p.1 == some '\r' && p.2 != some '\n')
  | .lineEndReturn =>
      p.2.isNone || p.2 == some '\r' || (p.2 == some '\n' && p.1 != some '\r')
  | .boundary u => isWord u p.1 != isWord u p.2
  | .notBoundary u => isWord u p.1 == isWord u p.2
  | .wordStart u => !isWord u p.1 && isWord u p.2
  | .wordEnd u => isWord u p.1 && !isWord u p.2
  | .wordStartHalf u => !isWord u p.1
  | .wordEndHalf u => !isWord u p.2

/-- The positions after one more character that passes. -/
def step (passes : Char → Bool) (text : List Char) (marks : List Bool) : List Bool :=
  false :: List.zipWith (fun mark c => mark && passes c) marks text

def either (a b : List Bool) : List Bool := List.zipWith (· || ·) a b

/-- `f` applied `n` times, or fewer when nothing changes any more. -/
def times (f : List Bool → List Bool) : Nat → List Bool → List Bool
  | 0, marks => marks
  | n + 1, marks =>
      let next := f marks
      if next = marks then marks else times f n next

/-- `f` applied up to `n` times. -/
def upTo (f : List Bool → List Bool) (n : Nat) (marks : List Bool) : List Bool :=
  times (fun marks => either marks (f marks)) n marks

mutual

/-- The positions reached by matching from the marked ones. -/
def Expr.reach (text : List Char) : Expr → List Bool → List Bool
  | .empty, marks => marks
  | .literal cs, marks => cs.foldl (fun marks c => step (· == c) text marks) marks
  | .chars _ s, marks => step s.has text marks
  | .look l, marks =>
      List.zipWith (fun mark p => mark && l.holds p) marks (positionsFrom none text)
  | .rep least most _ e, marks =>
      let first := times (e.reach text) least marks
      match most with
      | some n => upTo (e.reach text) (n - least) first
      | none => upTo (e.reach text) (text.length + 1) first
  | .group e, marks => e.reach text marks
  | .concat es, marks => Expr.reachThrough text es marks
  | .alternation es, marks => Expr.reachByOne text es marks

/-- The positions reached by matching all expressions, one after the other. -/
def Expr.reachThrough (text : List Char) : List Expr → List Bool → List Bool
  | [], marks => marks
  | e :: rest, marks => Expr.reachThrough text rest (e.reach text marks)

/-- The positions reached by matching one of the expressions. -/
def Expr.reachByOne (text : List Char) : List Expr → List Bool → List Bool
  | [], marks => marks.map fun _ => false
  | e :: rest, marks => either (e.reach text marks) (Expr.reachByOne text rest marks)

end

/-- True when some part of the text matches. -/
def Expr.matchesIn (e : Expr) (text : List Char) : Bool :=
  (e.reach text (List.replicate (text.length + 1) true)).any id

end RowAccess.Pattern.Regex
