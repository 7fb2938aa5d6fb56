import RowAccess.Number.Digits

/-!
# Whole numbers of a width

A width fixes the least and the greatest number it can hold. `Whole.read?` reads an optional sign and
then ASCII digits, and stops at the first character that cannot be read or the first digit that
leaves the width.
-/

namespace RowAccess.Number

inductive Width
  | u8
  | i16
  | i32
  | i64
deriving Repr, DecidableEq

namespace Width

def least : Width → Int
  | u8 => 0
  | i16 => -32768
  | i32 => -2147483648
  | i64 => -9223372036854775808

def greatest : Width → Int
  | u8 => 255
  | i16 => 32767
  | i32 => 2147483647
  | i64 => 9223372036854775807

/-- Only a width with negative numbers reads a minus sign. -/
def isSigned : Width → Bool
  | u8 => false
  | _ => true

end Width

/-- A whole number within a width. -/
structure Whole (w : Width) where
  value : Int
  least_le : w.least ≤ value
  le_greatest : value ≤ w.greatest
deriving DecidableEq

/-- Why a text is no whole number of a width. -/
inductive Whole.Fault
  | empty
  | invalidDigit
  | tooLarge
  | tooSmall
deriving Repr, DecidableEq

def Whole.Fault.reason : Whole.Fault → String
  | empty => "cannot parse integer from empty string"
  | invalidDigit => "invalid digit found in string"
  | tooLarge => "number too large to fit in target type"
  | tooSmall => "number too small to fit in target type"

namespace Whole

/-- The number as one of width `w`, if it fits. -/
def ofInt? (w : Width) (n : Int) : Option (Whole w) :=
  if h : w.least ≤ n ∧ n ≤ w.greatest then some ⟨n, h.1, h.2⟩ else none

/-- Reads digits behind the number `acc`, which they move away from zero. -/
def readDigits (w : Width) (negative : Bool) (acc : Whole w) :
    List Char → Except Fault (Whole w)
  | [] => .ok acc
  | c :: rest =>
      if c.isDigit then
        let d : Int := digitValue c
        match ofInt? w (acc.value * 10 + if negative then -d else d) with
        | some next => readDigits w negative next rest
        | none => .error (if negative then .tooSmall else .tooLarge)
      else .error .invalidDigit

def zero (w : Width) : Whole w := ⟨0, by cases w <;> decide, by cases w <;> decide⟩

/-- Reads a whole number. -/
def read? (w : Width) : List Char → Except Fault (Whole w)
  | [] => .error .empty
  | c :: rest =>
      if c = '+' ∧ rest ≠ [] then readDigits w false (zero w) rest
      else if c = '-' ∧ rest ≠ [] ∧ w.isSigned then readDigits w true (zero w) rest
      else readDigits w false (zero w) (c :: rest)

/-- The number without leading zeros, with a minus sign when it is negative. -/
def text {w : Width} (n : Whole w) : List Char := signed n.value

end Whole

end RowAccess.Number
