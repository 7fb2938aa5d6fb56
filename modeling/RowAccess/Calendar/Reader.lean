import RowAccess.Calendar.Instant
import RowAccess.Text.Blank

/-!
# Reading instants

Four forms are tried in turn: a full time stamp with its offset, a date and a time apart by blanks or
by the letter `T`, which are read as universal time, and a date alone, which is its midnight. In all
but the first, blanks may stand before each number, numbers may have fewer digits, and a year may
have a sign and then any number of digits.

`readStored?` reads the form in which instants are stored: a time stamp with its offset that allows
the same liberties.
-/

namespace RowAccess.Calendar

open RowAccess.Number (ofDigits tenPower)
open RowAccess.Text (trimLeft isBlank)

/-- What a step reads, with the text after it. -/
abbrev Step (α : Type) := Option (α × List Char)

/-- Between `least` and `most` digits as a number. -/
def number (least most : Nat) (s : List Char) : Step Nat :=
  let ds := (s.takeWhile Char.isDigit).take most
  if ds.length < least then none else some (ofDigits ds, s.drop ds.length)

/-- One given character. -/
def mark (c : Char) : List Char → Option (List Char)
  | [] => none
  | d :: rest => if d = c then some rest else none

/-- All digits at the start as a number, at least one. -/
def longNumber (s : List Char) : Step Nat := number 1 s.length s

/-- A number of one or two digits after any blanks. -/
def looseNumber (s : List Char) : Step Nat := number 1 2 (trimLeft s)

/-- A year: up to four digits, or a sign and any number of digits. -/
def looseYear (s : List Char) : Step Int :=
  match trimLeft s with
  | '-' :: rest => (longNumber rest).map fun r => (-(r.1 : Int), r.2)
  | '+' :: rest => (longNumber rest).map fun r => ((r.1 : Int), r.2)
  | s => (number 1 4 s).map fun r => ((r.1 : Int), r.2)

/-- A fraction of a second in nanoseconds, after its point. Digits beyond the ninth do not count. -/
def fraction (s : List Char) : Option (Nat × List Char) := do
  let (_, _) ← number 1 9 s
  let ds := s.takeWhile Char.isDigit
  let kept := ds.take 9
  some (ofDigits kept * tenPower (9 - kept.length), s.drop ds.length)

/-- A fraction, if a point begins one. -/
def optionalFraction : List Char → Step Nat
  | '.' :: rest => fraction rest
  | s => some (0, s)

/-- The sign of an offset: a plus, a hyphen or the minus sign. -/
def offsetSign : List Char → Step Bool
  | '+' :: rest => some (false, rest)
  | '-' :: rest => some (true, rest)
  | '−' :: rest => some (true, rest)
  | _ => none

/-- Hours and minutes of an offset in seconds. `colon` reads what stands between them. -/
def offset (colon : List Char → Option (List Char)) (s : List Char) :
    Option (Int × List Char) :=
  match s with
  | 'Z' :: rest => some (0, rest)
  | 'z' :: rest => some (0, rest)
  | _ => do
      let (negative, s) ← offsetSign s
      let (hours, s) ← number 2 2 s
      let s ← colon s
      let (minutes, s) ← number 2 2 s
      if minutes < 60 then
        let seconds : Int := hours * 3600 + minutes * 60
        some (if negative then -seconds else seconds, s)
      else none

/-- An instant from what a text says, with an offset of less than a day. -/
def assemble (year : Int) (month day hour minute second nanosecond : Nat) (offset : Int) :
    Option Instant := do
  let date ← Date.ofFields? year month day
  let i ← Instant.ofClock? date hour minute second nanosecond
  if offset.natAbs < secondsPerDay then i.earlier? offset else none

/-- A full time stamp: fixed numbers of digits, one of `T`, `t` and a space between date and time,
perhaps a fraction, and an offset. -/
def readStamp? (s : List Char) : Option Instant := do
  let (year, s) ← number 4 4 s
  let s ← mark '-' s
  let (month, s) ← number 2 2 s
  let s ← mark '-' s
  let (day, s) ← number 2 2 s
  let s ← (mark 'T' s).or ((mark 't' s).or (mark ' ' s))
  let (hour, s) ← number 2 2 s
  let s ← mark ':' s
  let (minute, s) ← number 2 2 s
  let s ← mark ':' s
  let (second, s) ← number 2 2 s
  let (nanosecond, s) ← optionalFraction s
  let (off, s) ← offset (mark ':') s
  if s.isEmpty then assemble year month day hour minute second nanosecond off else none

/-- Year, month and day with hyphens. -/
def looseDate (s : List Char) : Option ((Int × Nat × Nat) × List Char) := do
  let (year, s) ← looseYear s
  let s ← mark '-' s
  let (month, s) ← looseNumber s
  let s ← mark '-' s
  let (day, s) ← looseNumber s
  some ((year, month, day), s)

/-- A date and a time in universal time; `between` reads what stands between them. -/
def readPlain? (between : List Char → Option (List Char)) (s : List Char) : Option Instant := do
  let ((year, month, day), s) ← looseDate s
  let s ← between s
  let (hour, s) ← looseNumber s
  let s ← mark ':' s
  let (minute, s) ← looseNumber s
  let s ← mark ':' s
  let (second, s) ← looseNumber s
  if s.isEmpty then assemble year month day hour minute second 0 0 else none

/-- A date alone. -/
def readDate? (s : List Char) : Option Instant := do
  let ((year, month, day), s) ← looseDate s
  if s.isEmpty then (Date.ofFields? year month day).map Instant.midnight else none

/-- Reads an instant in any of the four forms. -/
def Instant.read? (s : List Char) : Option Instant :=
  (readStamp? s).or
    ((readPlain? (fun s => some (trimLeft s)) s).or ((readPlain? (mark 'T') s).or (readDate? s)))

/-- The offset of a stored time stamp: the word for universal time in any case, or hours and minutes
with any colons and blanks between them. -/
def storedOffset (s : List Char) : Step Int :=
  if (s.take 3).map Char.toLower = "utc".toList then some (0, s.drop 3)
  else offset (fun s => some (s.dropWhile fun c => c == ':' || isBlank c)) s

/-- Reads an instant in its stored form. -/
def Instant.readStored? (s : List Char) : Option Instant := do
  let (year, s) ← looseYear s
  let s ← mark '-' (trimLeft s)
  let (month, s) ← looseNumber s
  let s ← mark '-' (trimLeft s)
  let (day, s) ← looseNumber s
  let s ← (mark 'T' s).or ((mark 't' s).or (mark ' ' s))
  let (hour, s) ← looseNumber s
  let s ← mark ':' (trimLeft s)
  let (minute, s) ← looseNumber s
  let s ← mark ':' (trimLeft s)
  let (second, s) ← looseNumber s
  let (nanosecond, s) ← optionalFraction s
  let (off, s) ← storedOffset (trimLeft s)
  if (trimLeft s).isEmpty then assemble year month day hour minute second nanosecond off else none

end RowAccess.Calendar
