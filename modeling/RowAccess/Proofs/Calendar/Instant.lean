import Mathlib.Tactic.Common
import RowAccess.Calendar.Instant
import RowAccess.Proofs.Calendar.Date

/-!
# Instants on a line

`Instant.moment` counts the seconds of instants one after the other, over the ends of days, months and years. What is
a number of seconds earlier than an instant has a moment less by that number.
-/

namespace RowAccess.Calendar.Instant

variable {i j : Instant}

/-- The second of an instant, counted through all days. A leap second is part of the second before it. -/
def moment (i : Instant) : Int := i.date.number * secondsPerDay + i.second

/-- A moment and a part of the second are one instant. -/
theorem eq_iff_moment : i = j ↔ i.moment = j.moment ∧ i.nanosecond = j.nanosecond := by
  refine ⟨fun h => h ▸ ⟨rfl, rfl⟩, ?_⟩
  rintro ⟨h, hpart⟩
  have hi := i.second_lt
  have hj := j.second_lt
  unfold moment secondsPerDay at h
  unfold secondsPerDay at hi hj
  have hdate : i.date = j.date := Date.eq_of_number (by omega)
  have hsecond : i.second = j.second := by omega
  cases i
  cases j
  cases hdate
  cases hsecond
  cases hpart
  rfl

theorem ofDay?_eq_some {date : Date} {second nanosecond : Nat} :
    ofDay? date second nanosecond = some i ↔ i.date = date ∧ i.second = second ∧ i.nanosecond = nanosecond := by
  unfold ofDay?
  constructor
  · intro h
    split at h
    next =>
      obtain rfl := Option.some.inj h
      exact ⟨rfl, rfl, rfl⟩
    next => cases h
  · rintro ⟨rfl, rfl, rfl⟩
    rw [dif_pos ⟨i.second_lt, i.nanosecond_lt⟩]

theorem exists_ofDay {date : Date} {second nanosecond : Nat} (hsecond : second < secondsPerDay)
    (hnanosecond : nanosecond < 2000000000) : ∃ i, ofDay? date second nanosecond = some i :=
  ⟨_, dif_pos ⟨hsecond, hnanosecond⟩⟩

/-! ### Earlier and later -/

theorem earlier?_zero (i : Instant) : i.earlier? 0 = some i := by
  have hsecond := i.second_lt
  unfold earlier?
  rw [Int.sub_zero, if_neg (by omega), if_neg (by omega), Int.toNat_natCast]
  exact ofDay?_eq_some.mpr ⟨rfl, rfl, rfl⟩

theorem moment_earlier {seconds : Int} (hless : seconds.natAbs < secondsPerDay) (h : i.earlier? seconds = some j) :
    j.moment = i.moment - seconds ∧ j.nanosecond = i.nanosecond := by
  unfold earlier? at h
  dsimp only at h
  split at h
  next hbefore =>
    obtain ⟨date, hdate, hj⟩ := Option.bind_eq_some_iff.mp h
    obtain ⟨hjdate, hjsecond, hjpart⟩ := ofDay?_eq_some.mp hj
    have hnumber := Date.number_previous hdate
    refine ⟨?_, hjpart⟩
    unfold moment
    rw [hjdate, hnumber, hjsecond]
    unfold secondsPerDay at hless ⊢
    omega
  next hbefore =>
    split at h
    next hafter =>
      obtain ⟨date, hdate, hj⟩ := Option.bind_eq_some_iff.mp h
      obtain ⟨hjdate, hjsecond, hjpart⟩ := ofDay?_eq_some.mp hj
      have hnumber := Date.number_next hdate
      refine ⟨?_, hjpart⟩
      unfold moment
      rw [hjdate, hnumber, hjsecond]
      unfold secondsPerDay at hafter ⊢
      omega
    next hafter =>
      obtain ⟨hjdate, hjsecond, hjpart⟩ := ofDay?_eq_some.mp h
      refine ⟨?_, hjpart⟩
      unfold moment
      rw [hjdate, hjsecond]
      omega

theorem exists_earlier {seconds : Int} (hless : seconds.natAbs < secondsPerDay) (hleast : leastYear < i.date.year)
    (hgreatest : i.date.year < greatestYear) : ∃ j, i.earlier? seconds = some j := by
  have hsecond := i.second_lt
  unfold earlier?
  dsimp only
  split
  next =>
    obtain ⟨date, hdate⟩ := Date.exists_previous hleast
    rw [hdate]
    exact exists_ofDay (by omega) i.nanosecond_lt
  next =>
    split
    next =>
      obtain ⟨date, hdate⟩ := Date.exists_next hgreatest
      rw [hdate]
      exact exists_ofDay (by omega) i.nanosecond_lt
    next => exact exists_ofDay (by omega) i.nanosecond_lt

/-! ### Times of day -/

theorem ofClock?_eq {hour minute second nanosecond : Nat} (date : Date) (hhour : hour < 24) (hminute : minute < 60)
    (hsecond : second < 60) (hnanosecond : nanosecond < 1000000000) :
    ofClock? date hour minute second nanosecond = ofDay? date (hour * 3600 + minute * 60 + second) nanosecond := by
  rw [ofClock?, if_pos ⟨hhour, hminute, hnanosecond⟩]
  exact if_pos hsecond

/-- Only the last second of a minute can be a leap second. -/
def Proper (i : Instant) : Prop := 1000000000 ≤ i.nanosecond → i.second % 60 = 59

theorem proper_ofClock {date : Date} {hour minute second nanosecond : Nat}
    (h : ofClock? date hour minute second nanosecond = some i) : i.Proper := by
  unfold ofClock? at h
  split at h
  next hclock =>
    dsimp only at h
    split at h
    next =>
      obtain ⟨-, -, hpart⟩ := ofDay?_eq_some.mp h
      intro hleap
      omega
    next =>
      split at h
      next =>
        obtain ⟨-, hsecond, -⟩ := ofDay?_eq_some.mp h
        intro hleap
        omega
      next => cases h
  next => cases h

theorem Proper.earlier {seconds : Int} (hi : i.Proper) (hless : seconds.natAbs < secondsPerDay)
    (hminutes : seconds % 60 = 0) (h : i.earlier? seconds = some j) : j.Proper := by
  obtain ⟨hmoment, hpart⟩ := moment_earlier hless h
  intro hleap
  rw [hpart] at hleap
  have hlast := hi hleap
  unfold moment secondsPerDay at hmoment
  omega

end RowAccess.Calendar.Instant
