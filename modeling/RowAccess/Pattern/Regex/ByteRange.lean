import RowAccess.Unicode.CodeSet

/-!
# Sets of characters as bytes

A set of characters is written in UTF-8 as sequences of ranges of bytes: a text of one character is in
the set when its bytes are, one by one, in the ranges of a sequence. The sequences ascend, and none is
the beginning of another.
-/

namespace RowAccess.Pattern.Regex

open RowAccess.Unicode (CodeSet)

/-- The bytes of a character in UTF-8. -/
def utf8 (c : Nat) : List Nat :=
  if c < 0x80 then [c]
  else if c < 0x800 then [0xC0 + c / 64, 0x80 + c % 64]
  else if c < 0x10000 then [0xE0 + c / 4096, 0x80 + c / 64 % 64, 0x80 + c % 64]
  else [0xF0 + c / 262144, 0x80 + c / 4096 % 64, 0x80 + c / 64 % 64, 0x80 + c % 64]

/-- Cuts an interval where the length of the encoding changes, and takes out the surrogates. -/
def sameLength (lo hi : Nat) : List (Nat × Nat) :=
  ([(0, 0x7F), (0x80, 0x7FF), (0x800, 0xD7FF), (0xE000, 0xFFFF), (0x10000, 0x10FFFF)].map
    fun r => (max lo r.1, min hi r.2)).filter fun r => r.1 ≤ r.2

/-- Cuts an interval so that each of the last `k` bytes runs through all its values whenever a byte
before it varies. -/
def aligned : Nat → Nat × Nat → List (Nat × Nat)
  | 0, r => [r]
  | k + 1, (lo, hi) =>
      let block := Nat.pow 64 (k + 1)
      if lo / block = hi / block then aligned k (lo, hi)
      else
        let head := if lo % block = 0 then [] else aligned k (lo, lo / block * block + block - 1)
        let start := if lo % block = 0 then lo else lo / block * block + block
        let tail :=
          if hi % block = block - 1 then [] else aligned k (hi / block * block, hi)
        let stop := if hi % block = block - 1 then hi else hi / block * block - 1
        head ++ (if start ≤ stop then [(start, stop)] else []) ++ tail

/-- The sequences of byte ranges of an interval. -/
def byteRanges (r : Nat × Nat) : List (List (Nat × Nat)) :=
  (sameLength r.1 r.2).flatMap fun r =>
    (aligned ((utf8 r.1).length - 1) r).map fun r => (utf8 r.1).zip (utf8 r.2)

/-- The sequences of byte ranges of a set. -/
def sequences (s : CodeSet) : List (List (Nat × Nat)) := s.ranges.flatMap byteRanges

end RowAccess.Pattern.Regex
