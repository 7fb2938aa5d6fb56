import RowAccess.Number.Hexadecimal
import RowAccess.Text.Split

/-!
# Sets of code points

A set of code points is a list of closed intervals. `ofRanges` brings any list of intervals into
the normal form: ascending, with a gap between neighbours. The set operations go through that form,
so two sets with the same members built by them have the same intervals.

Tables of a standard are written as text, one interval after the other in hexadecimal, and read by
`ofText`: `41-5A` is an interval, `AA` a single code point, `100-12E/2` every second code point.
-/

namespace RowAccess.Unicode

open RowAccess.Number (ofHexDigits)
open RowAccess.Text (splitAtEvery)

/-- A set of code points as closed intervals. -/
structure CodeSet where
  ranges : List (Nat × Nat)
deriving Repr, DecidableEq

namespace CodeSet

/-- The last code point. -/
def last : Nat := 0x10FFFF

def empty : CodeSet := ⟨[]⟩

def contains (s : CodeSet) (c : Nat) : Bool :=
  s.ranges.any fun r => r.1 ≤ c && c ≤ r.2

def has (s : CodeSet) (c : Char) : Bool := s.contains c.toNat

/-- Joins intervals that overlap or touch; the list is ascending in its lower ends. -/
def coalesce : Nat × Nat → List (Nat × Nat) → List (Nat × Nat)
  | r, [] => [r]
  | r, q :: rest =>
      if q.1 ≤ r.2 + 1 then coalesce (r.1, max r.2 q.2) rest else r :: coalesce q rest

/-- The normal form of a list of intervals; an interval whose ends are swapped is empty. -/
def ofRanges (rs : List (Nat × Nat)) : CodeSet :=
  match (rs.filter fun r => r.1 ≤ r.2).mergeSort fun a b => a.1 ≤ b.1 with
  | [] => empty
  | r :: rest => ⟨coalesce r rest⟩

def interval (lo hi : Nat) : CodeSet := ofRanges [(lo, hi)]

def single (c : Nat) : CodeSet := ⟨[(c, c)]⟩

def union (a b : CodeSet) : CodeSet := ofRanges (a.ranges ++ b.ranges)

/-- The gaps between ascending intervals, from `start` on. -/
def gaps : Nat → List (Nat × Nat) → List (Nat × Nat)
  | start, [] => if start ≤ last then [(start, last)] else []
  | start, r :: rest =>
      if start < r.1 then (start, r.1 - 1) :: gaps (r.2 + 1) rest else gaps (r.2 + 1) rest

/-- All code points but those of `s`, which is in normal form. -/
def complement (s : CodeSet) : CodeSet := ⟨gaps 0 s.ranges⟩

def inter (a b : CodeSet) : CodeSet :=
  ofRanges (a.ranges.flatMap fun r => b.ranges.map fun q => (max r.1 q.1, min r.2 q.2))

def diff (a b : CodeSet) : CodeSet := a.inter b.complement

def symmDiff (a b : CodeSet) : CodeSet := (a.diff b).union (b.diff a)

/-- True when no member lies beyond ASCII. -/
def isAscii (s : CodeSet) : Bool := s.ranges.all fun r => r.2 ≤ 0x7F

/-! ### Reading tables -/

/-- The entries of a table, apart by blanks and line breaks. -/
def words (s : String) : List (List Char) := splitAtEvery Char.isWhitespace s.toList

/-- Every `step`-th code point from `lo` on, `n` of them. -/
def strided (lo step : Nat) : Nat → List (Nat × Nat)
  | 0 => []
  | n + 1 => (lo, lo) :: strided (lo + step) step n

/-- One entry of a table. -/
def entry (w : List Char) : List (Nat × Nat) :=
  match splitAtEvery (· == '/') w with
  | [body] =>
      match splitAtEvery (· == '-') body with
      | [lo, hi] => [(ofHexDigits lo, ofHexDigits hi)]
      | [one] => if one.isEmpty then [] else [(ofHexDigits one, ofHexDigits one)]
      | _ => []
  | [body, step] =>
      match splitAtEvery (· == '-') body with
      | [lo, hi] =>
          strided (ofHexDigits lo) (ofHexDigits step)
            ((ofHexDigits hi - ofHexDigits lo) / ofHexDigits step + 1)
      | _ => []
  | _ => []

/-- Reads a table. -/
def ofText (s : String) : CodeSet :=
  ofRanges ((words s).flatMap entry)

end CodeSet

end RowAccess.Unicode
