import Mathlib.Data.List.Basic
import Mathlib.Tactic.Common
import RowAccess.Calendar.Reader
import RowAccess.Proofs.Calendar.Instant
import RowAccess.Proofs.Number.Digits

/-!
# Reading days and times in digits

A `Stamp` is a day and a time of day in their digits: four for the year, two for each other number. Each of the four
forms of an instant that starts with such a day is read as the numbers of the stamp, or not at all.
-/

namespace RowAccess.Calendar

open RowAccess.Number (padded ofDigits isDigit_of_mem_padded length_padded ofDigits_padded ne_of_isDigit
  isBlank_of_isDigit)
open RowAccess.Text (trimLeft)

/-! ### Single steps -/

@[simp]
theorem mark_self (c : Char) (rest : List Char) : mark c (c :: rest) = some rest := if_pos rfl

/-- All digits that a number is written in are read. -/
theorem number_padded {least width n : Nat} (hleast : least ≤ width) (hn : n < 10 ^ width) (rest : List Char) :
    number least width (padded width n ++ rest) = some (n, rest) := by
  have hdigits : ((padded width n ++ rest).takeWhile Char.isDigit).take width = padded width n := by
    rw [List.takeWhile_append_of_pos fun c => isDigit_of_mem_padded, List.take_left' (length_padded width n)]
  unfold number
  simp only [hdigits, length_padded, ofDigits_padded, Nat.mod_eq_of_lt hn]
  rw [if_neg (Nat.not_lt.mpr hleast), List.drop_left' (length_padded width n)]

theorem number_four {n : Nat} (hn : n < 10000) (rest : List Char) : number 4 4 (padded 4 n ++ rest) = some (n, rest) :=
  number_padded (Nat.le_refl 4) hn rest

theorem number_two {n : Nat} (hn : n < 100) (rest : List Char) : number 2 2 (padded 2 n ++ rest) = some (n, rest) :=
  number_padded (Nat.le_refl 2) hn rest

theorem padded_eq_cons (width n : Nat) : ∃ c rest, padded (width + 1) n = c :: rest ∧ c.isDigit = true := by
  obtain ⟨c, rest, hcons⟩ := List.exists_cons_of_length_pos (l := padded (width + 1) n) (by rw [length_padded]; omega)
  exact ⟨c, rest, hcons, isDigit_of_mem_padded (hcons ▸ List.mem_cons_self)⟩

theorem trimLeft_padded (width n : Nat) (rest : List Char) :
    trimLeft (padded (width + 1) n ++ rest) = padded (width + 1) n ++ rest := by
  obtain ⟨c, more, hcons, hc⟩ := padded_eq_cons width n
  rw [hcons, List.cons_append, trimLeft, List.dropWhile_cons_of_neg]
  rw [isBlank_of_isDigit hc]
  exact Bool.false_ne_true

theorem looseNumber_padded {n : Nat} (hn : n < 100) (rest : List Char) :
    looseNumber (padded 2 n ++ rest) = some (n, rest) := by
  rw [looseNumber, trimLeft_padded]
  exact number_padded (by decide) hn rest

/-- A number does not begin with a letter. -/
theorem looseNumber_none {c : Char} (hblank : Text.isBlank c = false) (hdigit : c.isDigit = false) (rest : List Char) :
    looseNumber (c :: rest) = none := by
  simp [looseNumber, trimLeft, hblank, number, hdigit]

theorem looseYear_padded {n : Nat} (hn : n < 10000) (rest : List Char) :
    looseYear (padded 4 n ++ rest) = some ((n : Int), rest) := by
  have hnumber : number 1 4 (padded 4 n ++ rest) = some (n, rest) := number_padded (by decide) hn rest
  obtain ⟨c, more, hcons, hc⟩ := padded_eq_cons 3 n
  have hplus : c ≠ '+' := ne_of_isDigit hc (by decide)
  have hminus : c ≠ '-' := ne_of_isDigit hc (by decide)
  rw [looseYear, trimLeft_padded]
  rw [hcons, List.cons_append] at hnumber ⊢
  split
  next h => exact absurd (List.cons.inj h).1 hminus
  next h => exact absurd (List.cons.inj h).1 hplus
  next => rw [hnumber, Option.map_some]

/-! ### Stamps -/

/-- A day and a time of day, whether or not there is such a day and such a time. -/
@[ext]
structure Stamp where
  year : Nat
  month : Nat
  day : Nat
  hour : Nat
  minute : Nat
  second : Nat
  year_lt : year < 10000
  month_lt : month < 100
  day_lt : day < 100
  hour_lt : hour < 100
  minute_lt : minute < 100
  second_lt : second < 100
deriving DecidableEq

namespace Stamp

/-- The day in digits. -/
def dayText (t : Stamp) : List Char := padded 4 t.year ++ '-' :: padded 2 t.month ++ '-' :: padded 2 t.day

/-- The time of day in digits. -/
def timeText (t : Stamp) : List Char := padded 2 t.hour ++ ':' :: padded 2 t.minute ++ ':' :: padded 2 t.second

/-- The instant that the numbers name, a part of the second and an offset. -/
def assembled (t : Stamp) (nanosecond : Nat) (offset : Int) : Option Instant :=
  assemble t.year t.month t.day t.hour t.minute t.second nanosecond offset

variable (t : Stamp)

theorem looseDate_dayText (rest : List Char) :
    looseDate (t.dayText ++ rest) = some (((t.year : Int), t.month, t.day), rest) := by
  unfold looseDate dayText
  simp only [List.append_assoc, List.cons_append, looseYear_padded t.year_lt, looseNumber_padded t.month_lt,
    looseNumber_padded t.day_lt, mark_self, bind, Option.bind_some]

/-- What a full time stamp is read as whose day and time are those of the stamp. -/
theorem readStamp?_eq {sep : Char} (hsep : sep = 'T' ∨ sep = ' ') (tail : List Char) :
    readStamp? (t.dayText ++ sep :: (t.timeText ++ tail)) =
      (optionalFraction tail).bind fun part => (offset (mark ':') part.2).bind fun off =>
        if off.2.isEmpty then t.assembled part.1 off.1 else none := by
  have hmark : ∀ rest,
      (mark 'T' (sep :: rest)).or ((mark 't' (sep :: rest)).or (mark ' ' (sep :: rest))) = some rest := by
    intro rest
    rcases hsep with rfl | rfl <;> rfl
  unfold readStamp? dayText timeText
  simp only [List.append_assoc, List.cons_append, number_four t.year_lt, number_two t.month_lt, number_two t.day_lt,
    hmark, number_two t.hour_lt, number_two t.minute_lt, number_two t.second_lt, mark_self, bind, Option.bind_some]
  rfl

/-- A full time stamp has a time of day behind the day. -/
theorem readStamp?_dayText : readStamp? t.dayText = none := by
  have hmark : ∀ c, mark c [] = none := fun c => rfl
  unfold readStamp? dayText
  rw [← List.append_nil (padded 2 t.day)]
  simp only [List.append_assoc, List.cons_append, number_four t.year_lt, number_two t.month_lt, number_two t.day_lt,
    hmark, mark_self, bind, Option.bind_some, Option.or_none, Option.bind_none]

theorem readPlain?_eq {between : List Char → Option (List Char)} {rest tail : List Char}
    (h : between rest = some (t.timeText ++ tail)) :
    readPlain? between (t.dayText ++ rest) = if tail.isEmpty then t.assembled 0 0 else none := by
  unfold readPlain?
  rw [looseDate_dayText]
  simp only [timeText, List.append_assoc, List.cons_append, h, looseNumber_padded t.hour_lt,
    looseNumber_padded t.minute_lt, looseNumber_padded t.second_lt, mark_self, bind, Option.bind_some]
  rfl

theorem readPlain?_none {between : List Char → Option (List Char)} {rest : List Char}
    (h : (between rest).bind looseNumber = none) : readPlain? between (t.dayText ++ rest) = none := by
  unfold readPlain?
  rw [looseDate_dayText]
  cases hrest : between rest with
  | none => simp only [hrest, bind, Option.bind_some, Option.bind_none]
  | some next =>
    rw [hrest, Option.bind_some] at h
    simp only [hrest, h, bind, Option.bind_some, Option.bind_none]

theorem readDate?_eq (rest : List Char) : readDate? (t.dayText ++ rest) =
    if rest.isEmpty then (Date.ofFields? t.year t.month t.day).map Instant.midnight else none := by
  unfold readDate?
  rw [looseDate_dayText]
  rfl

/-! ### The four forms -/

/-- Day and time with the letter between them. Without an offset the time is in universal time. -/
theorem read?_letter (tail : List Char) : Instant.read? (t.dayText ++ 'T' :: (t.timeText ++ tail)) =
    ((optionalFraction tail).bind fun part => (offset (mark ':') part.2).bind fun off =>
      if off.2.isEmpty then t.assembled part.1 off.1 else none).or
    (if tail.isEmpty then t.assembled 0 0 else none) := by
  have hblank : readPlain? (fun s => some (trimLeft s)) (t.dayText ++ 'T' :: (t.timeText ++ tail)) = none :=
    t.readPlain?_none (looseNumber_none rfl rfl _)
  unfold Instant.read?
  rw [t.readStamp?_eq (.inl rfl), hblank, t.readPlain?_eq (mark_self _ _), readDate?_eq]
  simp

/-- Day and time with an offset behind them, and perhaps a part of the second. -/
theorem read?_offset {tail rest : List Char} {nanosecond : Nat} {seconds : Int} (hne : tail ≠ [])
    (hpart : optionalFraction tail = some (nanosecond, rest)) (hoffset : offset (mark ':') rest = some (seconds, [])) :
    Instant.read? (t.dayText ++ 'T' :: (t.timeText ++ tail)) = t.assembled nanosecond seconds := by
  rw [read?_letter, hpart, Option.bind_some, hoffset, Option.bind_some, if_neg (mt List.isEmpty_iff.mp hne),
    Option.or_none]
  rfl

/-- Day and time with a blank between them are in universal time. -/
theorem read?_blank : Instant.read? (t.dayText ++ ' ' :: t.timeText) = t.assembled 0 0 := by
  have hstamp : readStamp? (t.dayText ++ ' ' :: (t.timeText ++ [])) = none := t.readStamp?_eq (.inr rfl) []
  have hletter : readPlain? (mark 'T') (t.dayText ++ ' ' :: t.timeText) = none := t.readPlain?_none rfl
  have htime : trimLeft t.timeText = t.timeText := by
    unfold timeText
    rw [List.append_assoc]
    exact trimLeft_padded 1 t.hour _
  have hplain : readPlain? (fun s => some (trimLeft s)) (t.dayText ++ ' ' :: t.timeText) =
      if ([] : List Char).isEmpty then t.assembled 0 0 else none := by
    refine t.readPlain?_eq ?_
    rw [List.append_nil]
    exact congrArg some htime
  rw [List.append_nil] at hstamp
  unfold Instant.read?
  rw [hstamp, hletter, hplain, readDate?_eq]
  simp

/-- A day alone is its first moment. -/
theorem read?_day : Instant.read? t.dayText = (Date.ofFields? t.year t.month t.day).map Instant.midnight := by
  have hdate := t.readDate?_eq []
  have hblank : readPlain? (fun s => some (trimLeft s)) (t.dayText ++ []) = none := t.readPlain?_none rfl
  have hletter : readPlain? (mark 'T') (t.dayText ++ []) = none := t.readPlain?_none rfl
  rw [List.append_nil] at hdate hblank hletter
  unfold Instant.read?
  rw [readStamp?_dayText, hblank, hletter, hdate]
  rfl

end Stamp

end RowAccess.Calendar
