import RowAccess.Number.Digits

/-!
# Decimal numbers with up to 28 places

A decimal is a sign and a mantissa below `2 ^ 96` over a power of ten. Its number of places is part of
it and is written out, as is the sign of a zero, though two decimals are equal when they stand for the
same number.

Reading goes from left to right. Where a digit no longer fits, the digits so far are rounded by it,
half up, and the later digits only have to be digits. A mark `e` or `E` is followed by an exponent of
32 bits.
-/

namespace RowAccess.Number

def Decimal.mantissaLimit : Nat := Nat.pow 2 96

def Decimal.mostPlaces : Nat := 28

/-- The number `mantissa / 10 ^ places` with a sign. -/
structure Decimal where
  negative : Bool
  mantissa : Nat
  places : Nat
  mantissa_lt : mantissa < Decimal.mantissaLimit
  places_le : places ≤ Decimal.mostPlaces
deriving DecidableEq

namespace Decimal

/-- The mantissa with its sign. -/
def coefficient (d : Decimal) : Int := if d.negative then -(d.mantissa : Int) else d.mantissa

/-- Equality of the numbers, whatever their places. -/
def equals (a b : Decimal) : Bool :=
  a.coefficient * (tenPower b.places : Nat) == b.coefficient * (tenPower a.places : Nat)

/-- Why a text is no decimal. -/
inductive Fault
  | empty
  | noDigits
  | leadingSeparator
  | twoPoints
  | unknownCharacter
  | tooManyDigits
  | overflowAfterRounding
  | exponentTooLarge (exponent : Nat)
  | exponentOverflow
  | exponentInvalid
deriving Repr, DecidableEq

def Fault.reason : Fault → String
  | empty => "Invalid decimal: empty"
  | noDigits => "Invalid decimal: no digits found"
  | leadingSeparator => "Invalid decimal: must start lead with a number"
  | twoPoints => "Invalid decimal: two decimal points"
  | unknownCharacter => "Invalid decimal: unknown character"
  | tooManyDigits => "Invalid decimal: overflow from too many digits"
  | overflowAfterRounding => "Invalid decimal: overflow from mantissa after rounding"
  | exponentTooLarge e =>
      "Scale exceeds the maximum precision allowed: " ++ toString e ++ " > " ++ toString mostPlaces
  | exponentOverflow => "Number exceeds maximum value that can be represented."
  | exponentInvalid => "Failed to parse"

/-- What has been read: the digits as a number, how many stand behind the point, whether there was a
point, whether there was a digit, and whether the next digit is taken even if the places are full. -/
structure Progress where
  mantissa : Nat
  places : Nat
  point : Bool
  digit : Bool
  admits : Bool
deriving Repr, DecidableEq

def Progress.start : Progress := ⟨0, 0, false, false, false⟩

/-- All places are taken, and the next digit rounds. -/
def Progress.full (p : Progress) : Bool := p.point && mostPlaces ≤ p.places && !p.admits

/-- The mantissa is past what fits in 64 bits with some room to spare, not counting its last digit. -/
def Progress.wide (p : Progress) : Bool := 1844674407370954906 ≤ p.mantissa / 10

/-- The number with this sign, mantissa and number of places. -/
def make? (negative : Bool) (mantissa places : Nat) : Option Decimal :=
  if h : mantissa < mantissaLimit ∧ places ≤ mostPlaces then
    some ⟨negative, mantissa, places, h.1, h.2⟩
  else none

/-- The fault of a character that cannot stand where it does. -/
def faultAt (c : Char) : Fault :=
  if c = '.' then .twoPoints else if c = '_' then .leadingSeparator else .unknownCharacter

/-- Splits off an exponent. -/
def splitExponent (s : List Char) : List Char × Option (List Char) :=
  let isMark (c : Char) : Bool := c == 'e' || c == 'E'
  match s.dropWhile (!isMark ·) with
  | [] => (s, none)
  | _ :: e => (s.takeWhile (!isMark ·), some e)

/-- Rounds the digits so far by the next character. -/
def roundBy (p : Progress) (c : Char) : Except Fault Progress :=
  if c.isDigit ∨ c = '_' then
    if c.isDigit ∧ 5 ≤ digitValue c then
      let m := p.mantissa + 1
      if m < mantissaLimit then .ok { p with mantissa := m }
      else if p.places = 0 then .error .overflowAfterRounding
      else .ok { p with mantissa := (m + 4) / 10, places := p.places - 1 }
    else .ok p
  else .error (faultAt c)

/-- Rounds by the next character and passes the characters after it. -/
def roundOff (p : Progress) (c : Char) (rest : List Char) : Except Fault Progress :=
  match roundBy p c with
  | .error e => .error e
  | .ok p =>
      match rest.find? fun c => !(c.isDigit || c == '_') with
      | some c => .error (faultAt c)
      | none => .ok p

/-- Reads the digits, the point and the separators behind a sign. A separator behind full places
stands for a digit 0 if the mantissa is narrow; if it is wide, the digit behind it is taken as one
more place while it fits. -/
def scan (p : Progress) : List Char → Except Fault Progress
  | [] => .ok p
  | c :: rest =>
      if p.full then
        if c = '_' ∧ p.wide then scan { p with admits := true } rest else roundOff p c rest
      else if c.isDigit then
        let m := p.mantissa * 10 + digitValue c
        if m < mantissaLimit then
          scan ⟨m, if p.point then p.places + 1 else 0, p.point, true, false⟩ rest
        else if p.point then roundOff p c rest
        else .error .tooManyDigits
      else if c = '.' ∧ !p.point then scan { p with point := true } rest
      else if c = '_' ∧ p.digit then scan p rest
      else .error (faultAt c)

/-- Reads a decimal without an exponent. A zero has no sign, and places beyond the most count from 0
again. -/
def readPlain? (s : List Char) : Except Fault Decimal :=
  let finish (negative : Bool) (rest : List Char) : Except Fault Decimal :=
    match scan .start rest with
    | .error e => .error e
    | .ok p =>
        if !p.digit then .error .noDigits
        else
          match make? (negative && p.mantissa != 0) p.mantissa (p.places % (mostPlaces + 1)) with
          | some d => .ok d
          | none => .error .tooManyDigits
  match s with
  | [] => .error .empty
  | '-' :: rest => finish true rest
  | '+' :: rest => finish false rest
  | s => finish false s

/-- A mantissa and its places without zeros at the end of the places. -/
def stripZeros (mantissa : Nat) : Nat → Nat × Nat
  | 0 => (mantissa, 0)
  | places + 1 =>
      if mantissa % 10 = 0 then stripZeros (mantissa / 10) places else (mantissa, places + 1)

/-- Divides by a power of ten: places are added, and digits are rounded away when there are too many
of them. The sign stays, even if all digits are rounded away. -/
def shiftDown (d : Decimal) (e : Nat) : Except Fault Decimal :=
  if mostPlaces < e then .error (.exponentTooLarge e)
  else
    let drop := d.places + e - mostPlaces
    let m := if drop = 0 then d.mantissa else (d.mantissa + tenPower drop / 2) / tenPower drop
    match make? d.negative m (d.places + e - drop) with
    | some d => .ok d
    | none => .error .exponentOverflow

/-- Multiplies by a power of ten: places are taken away first, then zeros are added. -/
def shiftUp (d : Decimal) (e : Nat) : Except Fault Decimal :=
  if e ≤ d.places then
    match make? d.negative d.mantissa (d.places - e) with
    | some d => .ok d
    | none => .error .exponentOverflow
  else if mostPlaces < e then .error (.exponentTooLarge e)
  else
    let (m, places) := stripZeros (d.mantissa * tenPower e) d.places
    match make? d.negative m places with
    | some d => .ok d
    | none => .error .exponentOverflow

/-- An exponent: a number of 32 bits, with an optional `-` and then an optional `+`. -/
def readExponent? (s : List Char) : Option (Bool × Nat) :=
  let (negative, s) :=
    match s with
    | '-' :: s => (true, s)
    | s => (false, s)
  let ds :=
    match s with
    | '+' :: ds => ds
    | ds => ds
  if ds.isEmpty ∨ !ds.all Char.isDigit ∨ Nat.pow 2 32 ≤ ofDigits ds then none
  else some (negative, ofDigits ds)

/-- Reads a decimal. A fault of the digits stands before a fault of the exponent. -/
def read? (s : List Char) : Except Fault Decimal :=
  match splitExponent s with
  | (s, none) => readPlain? s
  | (s, some e) =>
      match readPlain? s with
      | .error f => .error f
      | .ok d =>
          match readExponent? e with
          | none => .error .exponentInvalid
          | some (true, e) => d.shiftDown e
          | some (false, e) => d.shiftUp e

/-- The decimal nearest to a whole number of at most 64 bits is the number itself. -/
def ofInt? (n : Int) : Option Decimal := make? (n < 0) n.natAbs 0

/-- The number with all its places. -/
def text (d : Decimal) : List Char :=
  let n := d.mantissa
  let body :=
    if d.places = 0 then digits n
    else digits (n / tenPower d.places) ++ '.' :: padded d.places (n % tenPower d.places)
  if d.negative then '-' :: body else body

end Decimal

end RowAccess.Number
