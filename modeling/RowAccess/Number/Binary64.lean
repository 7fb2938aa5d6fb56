import RowAccess.Number.Digits

/-!
# Binary floating-point numbers

A finite number is `mantissa * 2 ^ exponent` with a sign. In normal form the mantissa has 53 bits, or
fewer when the exponent is the least one. `ofRatio` rounds a quotient of naturals to the nearest
finite number, to the even mantissa when two are equally near.

`shortest` finds the decimal number with the fewest digits that rounds back to the same number, and
of these the nearest; `text` writes it positionally, without an exponent.
-/

namespace RowAccess.Number

/-- A number of the binary64 format. -/
inductive Binary64
  | finite (negative : Bool) (mantissa : Nat) (exponent : Int)
  | infinite (negative : Bool)
  | notANumber
deriving Repr, DecidableEq

namespace Binary64

def leastExponent : Int := -1074

def greatestExponent : Int := 971

def mantissaLimit : Nat := Nat.pow 2 53

def zero (negative : Bool) : Binary64 := .finite negative 0 leastExponent

/-- `n * base ^ e` as a quotient of naturals. -/
def scaled (base n : Nat) (e : Int) : Nat × Nat :=
  if 0 ≤ e then (n * Nat.pow base e.toNat, 1) else (n, Nat.pow base (-e).toNat)

/-- The quotient rounded to the nearest natural, a half to the even one. -/
def roundHalfEven (num den : Nat) : Nat :=
  let q := num / den
  let r := num % den
  if 2 * r < den then q
  else if den < 2 * r then q + 1
  else if q % 2 = 0 then q else q + 1

/-- The exponent in base `base` of the leading digit of `num / den`, both positive. -/
def leading (base num den : Nat) : Int :=
  let guess : Int := (Nat.log2 num : Int) - Nat.log2 den
  if base = 2 then
    let (n, d) := scaled 2 num (-guess)
    if n < d * den then guess - 1 else guess
  else
    let start := guess * 30103 / 100000
    let fits (e : Int) : Bool :=
      let (n, d) := scaled base num (-e)
      d * den ≤ n
    if fits (start + 2) then start + 2
    else if fits (start + 1) then start + 1
    else if fits start then start
    else start - 1

/-- The number of the format nearest to `num / den`. -/
def ofRatio (negative : Bool) (num den : Nat) : Binary64 :=
  if num = 0 then zero negative
  else
    let e := max leastExponent (leading 2 num den - 52)
    let (n, d) := scaled 2 num (-e)
    let m := roundHalfEven n (d * den)
    let (m, e) := if m = mantissaLimit then (m / 2, e + 1) else (m, e)
    if greatestExponent < e then .infinite negative else .finite negative m e

/-- The number of the format nearest to `n * 10 ^ e`. Exponents far outside the format are cut
short, since they cannot change the result. -/
def ofDecimal (negative : Bool) (n : Nat) (e : Int) : Binary64 :=
  let size : Int := (digits n).length
  if n = 0 then zero negative
  else if 400 < size + e then .infinite negative
  else if size + e < -400 then zero negative
  else
    let (num, den) := scaled 10 n e
    ofRatio negative num den

/-- The number of the format nearest to a whole number. -/
def ofInt (n : Int) : Binary64 := ofRatio (n < 0) n.natAbs 1

/-- A power of ten, rounded. -/
def powerOfTen (k : Nat) : Binary64 := ofDecimal false 1 k

/-- The rounded product of two finite numbers. -/
def product : Binary64 → Binary64 → Binary64
  | .finite n₁ m₁ e₁, .finite n₂ m₂ e₂ =>
      let (num, den) := scaled 2 (m₁ * m₂) (e₁ + e₂)
      ofRatio (n₁ != n₂) num den
  | _, _ => .notANumber

/-- The rounded quotient of two finite numbers, the second not zero. -/
def quotient : Binary64 → Binary64 → Binary64
  | .finite n₁ m₁ e₁, .finite n₂ m₂ e₂ =>
      let (num, den) := scaled 2 m₁ (e₁ - e₂)
      ofRatio (n₁ != n₂) num (den * m₂)
  | _, _ => .notANumber

/-- The number with the other sign. -/
def negate : Binary64 → Binary64
  | .finite negative m e => .finite (!negative) m e
  | .infinite negative => .infinite (!negative)
  | .notANumber => .notANumber

/-- Equality of numbers: both zeros are equal, and what is not a number equals nothing. -/
def equals : Binary64 → Binary64 → Bool
  | .notANumber, _ => false
  | _, .notANumber => false
  | .finite n₁ m₁ e₁, .finite n₂ m₂ e₂ =>
      if m₁ = 0 ∧ m₂ = 0 then true else n₁ == n₂ && m₁ == m₂ && e₁ == e₂
  | .infinite n₁, .infinite n₂ => n₁ == n₂
  | _, _ => false

/-! ### Reading -/

/-- Why a text is no number. -/
inductive Fault
  | empty
  | invalid
deriving Repr, DecidableEq

def Fault.reason : Fault → String
  | empty => "cannot parse float from empty string"
  | invalid => "invalid float literal"

/-- A leading sign, true for minus. -/
def takeSign : List Char → Bool × List Char
  | '-' :: rest => (true, rest)
  | '+' :: rest => (false, rest)
  | s => (false, s)

/-- The exponent that is written at the end of a number, zero when there is none. -/
def exponent? : List Char → Option Int
  | [] => some 0
  | c :: rest =>
      if c = 'e' ∨ c = 'E' then
        let (negative, ds) := takeSign rest
        if ds ≠ [] ∧ ds.all Char.isDigit then
          let n : Int := ofDigits ds
          some (if negative then -n else n)
        else none
      else none

/-- Digits with at most one point among or around them, then perhaps an exponent. -/
def readDecimal? (negative : Bool) (s : List Char) : Option Binary64 :=
  let whole := s.takeWhile Char.isDigit
  let rest := s.dropWhile Char.isDigit
  let (part, rest) :=
    match rest with
    | '.' :: rest => (rest.takeWhile Char.isDigit, rest.dropWhile Char.isDigit)
    | _ => ([], rest)
  if whole.isEmpty && part.isEmpty then none
  else (exponent? rest).map fun e => ofDecimal negative (ofDigits (whole ++ part)) (e - part.length)

/-- Reads a number: in decimal, or one of the words for infinity and for what is no number, in any
case. -/
def read? (s : List Char) : Except Fault Binary64 :=
  if s.isEmpty then .error .empty
  else
    let (negative, rest) := takeSign s
    let word := rest.map Char.toLower
    if word = "inf".toList ∨ word = "infinity".toList then .ok (.infinite negative)
    else if word = "nan".toList then .ok .notANumber
    else
      match readDecimal? negative rest with
      | some x => .ok x
      | none => .error .invalid

/-! ### Writing -/

/-- A point `n * 10 ^ k` lies in the interval of reals that round to `m * 2 ^ e`. All is measured
in quarters of a unit of the last place. -/
def roundsTo (m : Nat) (e : Int) (n : Nat) (k : Int) : Bool :=
  let (pn, pd) := scaled 10 (4 * n) k
  let (un, ud) := scaled 2 1 e
  let below := if m = mantissaLimit / 2 ∧ leastExponent < e then 1 else 2
  let point := pn * ud
  let low := (4 * m - below) * un * pd
  let high := (4 * m + 2) * un * pd
  if m % 2 = 0 then low ≤ point && point ≤ high else low < point && point < high

/-- The distance of `n * 10 ^ k` from `m * 2 ^ e`, in a unit that depends on `e` and `k` only. -/
def distance (m : Nat) (e : Int) (n : Nat) (k : Int) : Nat :=
  let (pn, pd) := scaled 10 n k
  let (vn, vd) := scaled 2 m e
  let point := pn * vd
  let value := vn * pd
  if point ≤ value then value - point else point - value

/-- The neighbour of `m * 2 ^ e` on the grid of multiples of `10 ^ k` that rounds back to it. When both
do it is the nearer, and the larger of two that are as near. -/
def onGrid? (m : Nat) (e : Int) (k : Int) : Option Nat :=
  let (vn, vd) := scaled 2 m e
  let (un, ud) := scaled 10 vn (-k)
  let n := un / (ud * vd)
  match roundsTo m e n k, roundsTo m e (n + 1) k with
  | true, true => some (if distance m e n k < distance m e (n + 1) k then n else n + 1)
  | true, false => some n
  | false, true => some (n + 1)
  | false, false => none

/-- The first hit on grids that become finer, `fuel` of them. -/
def search (m : Nat) (e : Int) : Nat → Int → Nat × Int
  | 0, k => (((onGrid? m e k).getD 0), k)
  | fuel + 1, k =>
      match onGrid? m e k with
      | some n => (n, k)
      | none => search m e fuel (k - 1)

/-- The shortest decimal `n * 10 ^ k` that rounds to the positive number `m * 2 ^ e`. Seventeen
digits are always enough. -/
def shortest (m : Nat) (e : Int) : Nat × Int :=
  let (num, den) := scaled 2 m e
  search m e 18 (leading 10 num den)

/-- `n * 10 ^ k` without an exponent and without trailing zeros behind the point. -/
def positional (n : Nat) (k : Int) : List Char :=
  if 0 ≤ k then digits n ++ List.replicate k.toNat '0'
  else
    let places := (-k).toNat
    let whole := n / tenPower places
    let part := ((padded places (n % tenPower places)).reverse.dropWhile (· == '0')).reverse
    digits whole ++ (if part.isEmpty then [] else '.' :: part)

/-- The shortest text that reads back as the number. -/
def text : Binary64 → List Char
  | .notANumber => "NaN".toList
  | .infinite negative => if negative then "-inf".toList else "inf".toList
  | .finite negative m e =>
      let body :=
        if m = 0 then ['0']
        else
          let (n, k) := shortest m e
          positional n k
      if negative then '-' :: body else body

end Binary64

end RowAccess.Number
