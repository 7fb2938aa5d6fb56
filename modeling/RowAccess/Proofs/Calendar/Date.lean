import Mathlib.Algebra.Ring.Nat
import Mathlib.Order.Basic
import Mathlib.Order.Monotone.Basic
import Mathlib.Tactic.Common
import RowAccess.Calendar.Date

/-!
# Days in a row

`Date.number` counts the days of the calendar one after the other: the day after has the next number, the day before
the previous one, and no two days have the same.
-/

namespace RowAccess.Calendar

/-! ### Years and months -/

/-- The days from the first day of year 0 to that of a year, negative for years before it. -/
def daysBefore (year : Int) : Int :=
  365 * year + (year + 3) / 4 - (year + 99) / 100 + (year + 399) / 400

/-- The days of a year before a month. -/
def daysBeforeMonth (year : Int) (month : Nat) : Nat := ((List.range month).map (daysIn year)).sum

def daysOfYear (year : Int) : Nat := if isLeap year then 366 else 365

theorem daysBefore_succ (year : Int) : daysBefore (year + 1) = daysBefore year + daysOfYear year := by
  unfold daysBefore daysOfYear isLeap
  grind

theorem daysBefore_mono {y y' : Int} (h : y ≤ y') : daysBefore y ≤ daysBefore y' := by
  unfold daysBefore
  omega

theorem daysBeforeMonth_succ (year : Int) (month : Nat) :
    daysBeforeMonth year (month + 1) = daysBeforeMonth year month + daysIn year month := by
  simp [daysBeforeMonth, List.range_succ]

theorem daysBeforeMonth_mono (year : Int) : Monotone (daysBeforeMonth year) :=
  monotone_nat_of_le_succ fun month => by
    rw [daysBeforeMonth_succ]
    exact Nat.le_add_right _ _

/-- The months of a year have all its days. -/
theorem daysBeforeMonth_end (year : Int) : daysBeforeMonth year 13 = daysOfYear year := by
  simp only [daysBeforeMonth_succ, daysOfYear, daysIn]
  cases isLeap year <;> rfl

theorem month_of_daysIn {year : Int} {month : Nat} (h : 0 < daysIn year month) : 1 ≤ month ∧ month ≤ 12 := by
  unfold daysIn at h
  split at h <;> grind

theorem daysIn_pos (year : Int) {month : Nat} (hfirst : 1 ≤ month) (hlast : month ≤ 12) : 1 ≤ daysIn year month := by
  unfold daysIn
  split <;> grind

/-! ### Days -/

namespace Date

variable {d e : Date}

theorem ofFields?_eq_some {year : Int} {month day : Nat} :
    ofFields? year month day = some d ↔ d.year = year ∧ d.month = month ∧ d.day = day := by
  unfold ofFields?
  constructor
  · intro h
    split at h
    next =>
      obtain rfl := Option.some.inj h
      exact ⟨rfl, rfl, rfl⟩
    next => cases h
  · rintro ⟨rfl, rfl, rfl⟩
    rw [dif_pos ⟨d.leastYear_le, d.le_greatestYear, d.day_pos, d.day_le⟩]

theorem ofFields?_isSome {year : Int} {month day : Nat} (hleast : leastYear ≤ year) (hgreatest : year ≤ greatestYear)
    (hpos : 1 ≤ day) (hday : day ≤ daysIn year month) : ∃ d, ofFields? year month day = some d :=
  ⟨_, dif_pos ⟨hleast, hgreatest, hpos, hday⟩⟩

theorem month_range (d : Date) : 1 ≤ d.month ∧ d.month ≤ 12 :=
  month_of_daysIn (Nat.lt_of_lt_of_le d.day_pos d.day_le)

/-- The number of a day. The first day of year 0 has number 1. -/
def number (d : Date) : Int := daysBefore d.year + daysBeforeMonth d.year d.month + d.day

theorem number_next (h : d.next? = some e) : e.number = d.number + 1 := by
  have hday := d.day_le
  have hmonth := d.month_range
  unfold next? at h
  split at h
  next =>
    obtain ⟨hy, hm, hd⟩ := ofFields?_eq_some.mp h
    simp only [number, hy, hm, hd]
    omega
  next hlast =>
    split at h
    next =>
      obtain ⟨hy, hm, hd⟩ := ofFields?_eq_some.mp h
      simp only [number, hy, hm, hd, daysBeforeMonth_succ]
      omega
    next hyear =>
      obtain ⟨hy, hm, hd⟩ := ofFields?_eq_some.mp h
      have hdecember : d.month = 12 := by omega
      have hfull := daysBeforeMonth_end d.year
      rw [daysBeforeMonth_succ] at hfull
      have hfirst : daysBeforeMonth (d.year + 1) 1 = 0 := rfl
      simp only [number, hy, hm, hd, hfirst, daysBefore_succ, ← hfull, hdecember] at hlast hday ⊢
      omega

theorem number_previous (h : d.previous? = some e) : e.number = d.number - 1 := by
  have hday := d.day_pos
  have hmonth := d.month_range
  unfold previous? at h
  split at h
  next =>
    obtain ⟨hy, hm, hd⟩ := ofFields?_eq_some.mp h
    simp only [number, hy, hm, hd]
    omega
  next hfirst =>
    split at h
    next =>
      obtain ⟨hy, hm, hd⟩ := ofFields?_eq_some.mp h
      obtain ⟨before, hbefore⟩ : ∃ before, d.month = before + 1 := ⟨d.month - 1, by omega⟩
      simp only [number, hy, hm, hd, hbefore, daysBeforeMonth_succ, Nat.add_sub_cancel]
      omega
    next hyear =>
      obtain ⟨hy, hm, hd⟩ := ofFields?_eq_some.mp h
      have hjanuary : d.month = 1 := by omega
      have hfull := daysBeforeMonth_end (d.year - 1)
      rw [daysBeforeMonth_succ] at hfull
      have hstart : daysBeforeMonth d.year 1 = 0 := rfl
      have hyears := daysBefore_succ (d.year - 1)
      rw [Int.sub_add_cancel, ← hfull] at hyears
      have hdecember : daysIn (d.year - 1) 12 = 31 := rfl
      simp only [number, hy, hm, hd, hjanuary, hstart, hyears, hdecember]
      omega

theorem exists_next (h : d.year < greatestYear) : ∃ e, d.next? = some e := by
  have hleast := d.leastYear_le
  have hgreatest := d.le_greatestYear
  have hmonth := d.month_range
  unfold next?
  split
  next hday => exact ofFields?_isSome hleast hgreatest (by omega) hday
  next =>
    split
    next hm => exact ofFields?_isSome hleast hgreatest (by omega) (daysIn_pos _ (by omega) (by omega))
    next => exact ofFields?_isSome (by omega) (by omega) (by omega) (daysIn_pos _ (by omega) (by omega))

theorem exists_previous (h : leastYear < d.year) : ∃ e, d.previous? = some e := by
  have hleast := d.leastYear_le
  have hgreatest := d.le_greatestYear
  have hmonth := d.month_range
  have hday := d.day_le
  unfold previous?
  split
  next => exact ofFields?_isSome hleast hgreatest (by omega) (by omega)
  next =>
    split
    next hm => exact ofFields?_isSome hleast hgreatest (daysIn_pos _ (by omega) (by omega)) (Nat.le_refl _)
    next => exact ofFields?_isSome (by omega) (by omega) (by omega) (Nat.le_refl 31)

theorem number_lt_of_year (h : d.year < e.year) : d.number < e.number := by
  have hyears : daysBefore (d.year + 1) ≤ daysBefore e.year := daysBefore_mono (by omega)
  have hmonths : daysBeforeMonth d.year (d.month + 1) ≤ daysBeforeMonth d.year 13 :=
    daysBeforeMonth_mono d.year (by have := d.month_range; omega)
  have hday := d.day_le
  have hpos := e.day_pos
  rw [daysBefore_succ] at hyears
  rw [daysBeforeMonth_end, daysBeforeMonth_succ] at hmonths
  unfold number
  omega

theorem number_lt_of_month (hyear : d.year = e.year) (h : d.month < e.month) : d.number < e.number := by
  have hmonths : daysBeforeMonth e.year (d.month + 1) ≤ daysBeforeMonth e.year e.month := daysBeforeMonth_mono e.year h
  have hday := d.day_le
  have hpos := e.day_pos
  rw [daysBeforeMonth_succ] at hmonths
  rw [hyear] at hday
  rw [number, number, hyear]
  omega

/-- Days of one number are the same. -/
theorem eq_of_number (h : d.number = e.number) : d = e := by
  have hyear : d.year = e.year := by
    rcases Int.lt_trichotomy d.year e.year with hlt | heq | hlt
    · exact absurd h (Int.ne_of_lt (number_lt_of_year hlt))
    · exact heq
    · exact absurd h (Int.ne_of_gt (number_lt_of_year hlt))
  have hmonth : d.month = e.month := by
    rcases Nat.lt_trichotomy d.month e.month with hlt | heq | hlt
    · exact absurd h (Int.ne_of_lt (number_lt_of_month hyear hlt))
    · exact heq
    · exact absurd h (Int.ne_of_gt (number_lt_of_month hyear.symm hlt))
  have hday : d.day = e.day := by
    rw [number, number, hyear, hmonth] at h
    omega
  cases d
  cases e
  cases hyear
  cases hmonth
  cases hday
  rfl

end Date

end RowAccess.Calendar
