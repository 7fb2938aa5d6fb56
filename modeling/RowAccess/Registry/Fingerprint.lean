/-!
# Fingerprints of held tokens

The tokens held in some dimensions, as bytes. Counts and lengths stand before what they count, in
eight bytes with the lowest first; tokens are divided by a plus sign and dimensions by a bar. The names
of the dimensions are not part of it.

A slot keeps the fingerprint that its restriction was built under, and asks only whether that of the next
request is equal. A hash of the bytes, the thirty-two bytes of BLAKE3, can be kept in their place. That
step is left out: what is kept and compared here are the bytes themselves. It is assumed of the hash that
it has no collision, which is to say that no two different fingerprints that one slot compares have the
same hash. Then a slot of hashes answers as a slot of bytes does. Nothing is said of a slot that meets a
collision: it would answer what was built under other tokens.
-/

namespace RowAccess

/-- The bytes that are compared, before any hash of them. -/
abbrev Fingerprint := List UInt8

namespace Fingerprint

/-- The lowest `width` bytes of a number, the lowest first. -/
def littleEndian : Nat → Nat → List UInt8
  | 0, _ => []
  | width + 1, n => UInt8.ofNat (n % 256) :: littleEndian width (n / 256)

/-- A count or a length. -/
def count (n : Nat) : List UInt8 := littleEndian 8 n

/-- Pieces with a byte between them. -/
def divided (divider : UInt8) (pieces : List (List UInt8)) : List UInt8 :=
  [divider].intercalate pieces

def dimensionDivider : UInt8 := 0x7C

def tokenDivider : UInt8 := 0x2B

/-- A token behind its length in bytes. -/
def ofToken (token : String) : List UInt8 :=
  count token.utf8ByteSize ++ token.toUTF8.data.toList

/-- The tokens of a dimension behind their number. -/
def ofTokens (tokens : List String) : List UInt8 :=
  count tokens.length ++ divided tokenDivider (tokens.map ofToken)

/-- The fingerprint of what is held in some dimensions. -/
def ofHeld (held : List (String × List String)) : Fingerprint :=
  count held.length ++ divided dimensionDivider (held.map fun h => ofTokens h.2)

end Fingerprint

end RowAccess
