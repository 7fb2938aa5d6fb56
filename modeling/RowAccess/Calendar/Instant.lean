import RowAccess.Calendar.Date
import RowAccess.Number.Digits

/-!
# Instants

An instant is a day in universal time, a second of that day and a number of nanoseconds. A leap
second belongs to the second before it and counts its nanoseconds from 1,000,000,000 on.
-/

namespace RowAccess.Calendar

open RowAccess.Number (digits padded)

def secondsPerDay : Nat := 86400

/-- A moment in universal time. -/
structure Instant where
  date : Date
  second : Nat
  nanosecond : Nat
  second_lt : second < secondsPerDay
  nanosecond_lt : nanosecond < 2000000000
deriving DecidableEq

namespace Instant

def ofDay? (date : Date) (second nanosecond : Nat) : Option Instant :=
  if h : second < secondsPerDay ∧ nanosecond < 2000000000 then
    some ⟨date, second, nanosecond, h.1, h.2⟩
  else none

/-- The first moment of a day. -/
def midnight (date : Date) : Instant := ⟨date, 0, 0, by decide, by decide⟩

/-- The moment on a day at a time. Second 60 is a leap second in any minute. -/
def ofClock? (date : Date) (hour minute second nanosecond : Nat) : Option Instant :=
  if hour < 24 ∧ minute < 60 ∧ nanosecond < 1000000000 then
    let start := hour * 3600 + minute * 60
    if second < 60 then ofDay? date (start + second) nanosecond
    else if second = 60 then ofDay? date (start + 59) (nanosecond + 1000000000)
    else none
  else none

/-- The moment `seconds` earlier, or later when they are negative; less than a day either way. -/
def earlier? (i : Instant) (seconds : Int) : Option Instant :=
  let s := (i.second : Int) - seconds
  if s < 0 then
    i.date.previous?.bind fun d => ofDay? d (s + secondsPerDay).toNat i.nanosecond
  else if (secondsPerDay : Int) ≤ s then
    i.date.next?.bind fun d => ofDay? d (s - secondsPerDay).toNat i.nanosecond
  else ofDay? i.date s.toNat i.nanosecond

/-! ### Writing -/

/-- A year in four digits; one outside 0 to 9999 has its sign and may be longer. -/
def yearText (year : Int) : List Char :=
  if 0 ≤ year ∧ year ≤ 9999 then padded 4 year.toNat
  else
    let n := year.natAbs
    (if year < 0 then '-' else '+') :: (if n < 10000 then padded 4 n else digits n)

/-- A fraction of a second in three, six or nine places, and none when it is zero. -/
def fractionText (nanosecond : Nat) : List Char :=
  if nanosecond = 0 then []
  else if nanosecond % 1000000 = 0 then '.' :: padded 3 (nanosecond / 1000000)
  else if nanosecond % 1000 = 0 then '.' :: padded 6 (nanosecond / 1000)
  else '.' :: padded 9 nanosecond

def dateText (d : Date) : List Char :=
  yearText d.year ++ '-' :: padded 2 d.month ++ '-' :: padded 2 d.day

def clockText (second nanosecond : Nat) : List Char :=
  let leap := 1000000000 ≤ nanosecond
  let shown := if leap then second % 60 + 1 else second % 60
  let fraction := if leap then nanosecond - 1000000000 else nanosecond
  padded 2 (second / 3600) ++ ':' :: padded 2 (second / 60 % 60) ++ ':' :: padded 2 shown ++
    fractionText fraction

/-- The moment without its offset. -/
def localText (i : Instant) : List Char :=
  dateText i.date ++ 'T' :: clockText i.second i.nanosecond

/-- The moment with the offset of universal time in full. -/
def text (i : Instant) : List Char := i.localText ++ "+00:00".toList

/-- The moment as it is stored, with the letter of universal time. -/
def storedText (i : Instant) : List Char := i.localText ++ ['Z']

end Instant

end RowAccess.Calendar
