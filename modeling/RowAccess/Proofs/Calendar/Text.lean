import Mathlib.Data.List.Basic
import Mathlib.Tactic.Common
import RowAccess.Proofs.Calendar.Reader
import RowAccess.Proofs.Text.Word

/-!
# Instants that are read back

An instant is written in universal time with as many digits of the part of the second as it needs, a leap second as
second 60 of its minute. That is a full time stamp, and it is read as the same instant. It takes that leap seconds stand
at the end of a minute, which is so for all instants that are read.
-/

namespace RowAccess.Calendar

open RowAccess.Number (padded ofDigits tenPower isDigit_of_mem_padded length_padded ofDigits_padded)

/-! ### Leap seconds that are read -/

theorem exists_of_bind {α β : Type} {x : Option α} {f : α → Option β} {b : β} (h : x.bind f = some b) :
    ∃ a, f a = some b := by
  obtain ⟨a, -, ha⟩ := Option.bind_eq_some_iff.mp h
  exact ⟨a, ha⟩

/-- Offsets are whole minutes. -/
theorem offset_minutes {colon : List Char → Option (List Char)} {s rest : List Char} {seconds : Int}
    (h : offset colon s = some (seconds, rest)) : seconds % 60 = 0 := by
  unfold offset at h
  split at h
  next => cases h; rfl
  next => cases h; rfl
  next =>
    obtain ⟨⟨negative, s⟩, h⟩ := exists_of_bind h
    obtain ⟨⟨hours, s⟩, h⟩ := exists_of_bind h
    obtain ⟨s, h⟩ := exists_of_bind h
    obtain ⟨⟨minutes, s⟩, h⟩ := exists_of_bind h
    dsimp only at h
    split at h
    next =>
      obtain ⟨rfl, -⟩ := Prod.mk.inj (Option.some.inj h)
      split <;> omega
    next => cases h

theorem proper_assemble {year seconds : Int} {month day hour minute second nanosecond : Nat} {i : Instant}
    (hminutes : seconds % 60 = 0) (h : assemble year month day hour minute second nanosecond seconds = some i) :
    i.Proper := by
  obtain ⟨date, h⟩ := exists_of_bind h
  obtain ⟨j, hj, h⟩ := Option.bind_eq_some_iff.mp h
  split at h
  next hless => exact (Instant.proper_ofClock hj).earlier hless hminutes h
  next => cases h

theorem proper_readStamp {s : List Char} {i : Instant} (h : readStamp? s = some i) : i.Proper := by
  unfold readStamp? at h
  -- Nothing but the offset matters of what is read before the instant is made.
  iterate 12 obtain ⟨_, h⟩ := exists_of_bind h
  obtain ⟨⟨seconds, rest⟩, hoffset, h⟩ := Option.bind_eq_some_iff.mp h
  dsimp only at h
  split at h
  next => exact proper_assemble (offset_minutes hoffset) h
  next => cases h

theorem proper_readPlain {between : List Char → Option (List Char)} {s : List Char} {i : Instant}
    (h : readPlain? between s = some i) : i.Proper := by
  unfold readPlain? at h
  iterate 7 obtain ⟨_, h⟩ := exists_of_bind h
  dsimp only at h
  split at h
  next => exact proper_assemble rfl h
  next => cases h

theorem proper_readDate {s : List Char} {i : Instant} (h : readDate? s = some i) : i.Proper := by
  obtain ⟨_, h⟩ := exists_of_bind h
  dsimp only at h
  split at h
  next =>
    obtain ⟨date, -, rfl⟩ := Option.map_eq_some_iff.mp h
    intro hleap
    have hzero : 1000000000 ≤ 0 := hleap
    omega
  next => cases h

/-- A leap second that is read stands at the end of a minute. -/
theorem Instant.proper_of_read {s : List Char} {i : Instant} (h : Instant.read? s = some i) : i.Proper := by
  unfold Instant.read? at h
  simp only [Option.or_eq_some_iff] at h
  rcases h with h | ⟨-, h | ⟨-, h | ⟨-, h⟩⟩⟩
  · exact proper_readStamp h
  · exact proper_readPlain h
  · exact proper_readPlain h
  · exact proper_readDate h

/-! ### Writing and reading -/

/-- At most nine digits are read as places of a second, however many they are. -/
theorem optionalFraction_padded {width n : Nat} {rest : List Char} (hone : 1 ≤ width) (hnine : width ≤ 9)
    (hn : n < 10 ^ width) (hrest : ∀ c, rest.head? = some c → c.isDigit = false) :
    optionalFraction ('.' :: padded width n ++ rest) = some (n * tenPower (9 - width), rest) := by
  have htaken : (padded width n ++ rest).takeWhile Char.isDigit = padded width n :=
    Text.takeWhile_word (fun c => isDigit_of_mem_padded) hrest
  have hkept : (padded width n).take 9 = padded width n := List.take_of_length_le (by rwa [length_padded])
  have hnumber : number 1 9 (padded width n ++ rest) = some (n, rest) := by
    unfold number
    simp only [htaken, hkept, length_padded, ofDigits_padded, Nat.mod_eq_of_lt hn]
    rw [if_neg (Nat.not_lt.mpr hone), List.drop_left' (length_padded width n)]
  rw [List.cons_append, optionalFraction]
  unfold fraction
  simp only [hnumber, htaken, hkept, length_padded, ofDigits_padded, Nat.mod_eq_of_lt hn, bind, Option.bind_some]
  rw [List.drop_left' (length_padded width n)]

/-- The part of a second is read with as many digits as it is written with. -/
theorem optionalFraction_text {part : Nat} (hpart : part < 1000000000) :
    optionalFraction (Instant.fractionText part ++ "+00:00".toList) = some (part, "+00:00".toList) := by
  have hread : ∀ {width n : Nat}, 1 ≤ width → width ≤ 9 → n < 10 ^ width → n * tenPower (9 - width) = part →
      optionalFraction ('.' :: padded width n ++ "+00:00".toList) = some (part, "+00:00".toList) := by
    rintro width n hone hnine hn rfl
    exact optionalFraction_padded hone hnine hn (by rintro c ⟨⟩; rfl)
  unfold Instant.fractionText
  split
  next hzero =>
    subst hzero
    rfl
  next =>
    split
    next hmilli =>
      exact hread (by decide) (by decide) (by omega) (Nat.div_mul_cancel (Nat.dvd_of_mod_eq_zero hmilli))
    next =>
      split
      next hmicro =>
        exact hread (by decide) (by decide) (by omega) (Nat.div_mul_cancel (Nat.dvd_of_mod_eq_zero hmicro))
      next => exact hread (by decide) (by decide) hpart (Nat.mul_one part)

theorem daysIn_le (year : Int) (month : Nat) : daysIn year month ≤ 31 := by
  unfold daysIn
  split <;> grind

namespace Instant

variable {i : Instant}

/-- The second of the minute as it is shown, 60 for a leap second. -/
def shownSecond (i : Instant) : Nat := if 1000000000 ≤ i.nanosecond then i.second % 60 + 1 else i.second % 60

/-- The part of the second as it is shown. -/
def shownPart (i : Instant) : Nat := if 1000000000 ≤ i.nanosecond then i.nanosecond - 1000000000 else i.nanosecond

/-- What is shown of an instant, but for the part of the second. -/
def stamp (i : Instant) (hgreatest : i.date.year ≤ 9999) : Stamp where
  year := i.date.year.toNat
  month := i.date.month
  day := i.date.day
  hour := i.second / 3600
  minute := i.second / 60 % 60
  second := i.shownSecond
  year_lt := by omega
  month_lt := by have := i.date.month_range; omega
  day_lt := by have := i.date.day_le; have := daysIn_le i.date.year i.date.month; omega
  hour_lt := by have := i.second_lt; unfold secondsPerDay at this; omega
  minute_lt := by omega
  second_lt := by unfold shownSecond; split <;> omega

theorem text_eq (hleast : 0 ≤ i.date.year) (hgreatest : i.date.year ≤ 9999) : i.text =
    (i.stamp hgreatest).dayText ++
      'T' :: ((i.stamp hgreatest).timeText ++ (fractionText i.shownPart ++ "+00:00".toList)) := by
  have hyear : yearText i.date.year = padded 4 i.date.year.toNat := if_pos ⟨hleast, hgreatest⟩
  simp only [text, localText, dateText, hyear, clockText, stamp, Stamp.dayText, Stamp.timeText, shownSecond, shownPart,
    List.append_assoc, List.cons_append]

/-- The instant is what its stamp and its part of the second name. -/
theorem assembled_stamp (hleast : 0 ≤ i.date.year) (hgreatest : i.date.year ≤ 9999) (hproper : i.Proper) :
    (i.stamp hgreatest).assembled i.shownPart 0 = some i := by
  have hdate : Date.ofFields? (i.date.year.toNat : Int) i.date.month i.date.day = some i.date :=
    Date.ofFields?_eq_some.mpr ⟨by omega, rfl, rfl⟩
  have hclock : ofClock? i.date (i.second / 3600) (i.second / 60 % 60) i.shownSecond i.shownPart = some i := by
    have hsecond := i.second_lt
    have hnanosecond := i.nanosecond_lt
    unfold secondsPerDay at hsecond
    by_cases hleap : 1000000000 ≤ i.nanosecond
    · have hlast := hproper hleap
      have hshown : i.shownSecond = 60 := by rw [shownSecond, if_pos hleap, hlast]
      have hpart : i.shownPart = i.nanosecond - 1000000000 := if_pos hleap
      rw [ofClock?, if_pos ⟨by omega, by omega, by omega⟩, hshown]
      exact ofDay?_eq_some.mpr ⟨rfl, by omega, by omega⟩
    · have hshown : i.shownSecond = i.second % 60 := if_neg hleap
      have hpart : i.shownPart = i.nanosecond := if_neg hleap
      rw [ofClock?_eq _ (by omega) (by omega) (by omega) (by omega)]
      exact ofDay?_eq_some.mpr ⟨rfl, by omega, hpart.symm⟩
  unfold Stamp.assembled assemble
  simp only [stamp, hdate, hclock, bind, Option.bind_some]
  rw [if_pos (by decide), earlier?_zero]

/-- An instant is read back from what is written for it, if its year has four digits. -/
theorem read_text (hleast : 0 ≤ i.date.year) (hgreatest : i.date.year ≤ 9999) (hproper : i.Proper) :
    Instant.read? i.text = some i := by
  have hpart : i.shownPart < 1000000000 := by
    have := i.nanosecond_lt
    unfold shownPart
    split <;> omega
  rw [text_eq hleast hgreatest, Stamp.read?_offset _ (by simp) (optionalFraction_text hpart) rfl]
  exact assembled_stamp hleast hgreatest hproper

end Instant

end RowAccess.Calendar
