/-!
# Decimal digits

`digits` writes a number without leading zeros, `padded` writes its last digits in a fixed number of
places, and `ofDigits` reads either back.
-/

namespace RowAccess.Number

def digitChar (d : Nat) : Char := Char.ofNat (48 + d % 10)

/-- The value of a digit character. -/
def digitValue (c : Char) : Nat := c.toNat - 48

/-- The digits of a number, the first of them not zero unless the number is. -/
def digits (n : Nat) : List Char :=
  if n < 10 then [digitChar n] else digits (n / 10) ++ [digitChar (n % 10)]
termination_by n
decreasing_by omega

/-- The last `width` digits of a number, with zeros in front. -/
def padded : Nat → Nat → List Char
  | 0, _ => []
  | width + 1, n => padded width (n / 10) ++ [digitChar (n % 10)]

/-- The number that a list of digit characters writes. -/
def ofDigits (s : List Char) : Nat := s.foldl (fun n c => n * 10 + digitValue c) 0

/-- The number written as a one and `n` zeros. -/
def tenPower (n : Nat) : Nat := Nat.pow 10 n

/-- A number with its sign, the form without a sign for all but negative numbers. -/
def signed (n : Int) : List Char :=
  if n < 0 then '-' :: digits n.natAbs else digits n.natAbs

end RowAccess.Number
