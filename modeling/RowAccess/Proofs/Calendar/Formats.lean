import Mathlib.Data.List.Basic
import Mathlib.Tactic.Common
import RowAccess.Proofs.Calendar.Reader
import RowAccess.Proofs.Value

/-!
# The forms of an instant agree

A day and a time of day are one instant in each of the forms that they can be written in, as long as the calendar has
the day; an offset behind them moves the instant the other way. A day that the calendar does not have is refused in
every form.
-/

namespace RowAccess.Calendar

open RowAccess.Number (padded)

/-! ### Offsets -/

/-- An offset of less than a day. -/
structure Offset where
  negative : Bool
  hours : Nat
  minutes : Nat
  hours_lt : hours < 24
  minutes_lt : minutes < 60

namespace Offset

/-- The offset in digits, with its sign. -/
def text (o : Offset) : List Char :=
  (if o.negative then '-' else '+') :: (padded 2 o.hours ++ ':' :: padded 2 o.minutes)

def seconds (o : Offset) : Int :=
  let distance : Int := o.hours * 3600 + o.minutes * 60
  if o.negative then -distance else distance

theorem seconds_lt (o : Offset) : o.seconds.natAbs < secondsPerDay := by
  have hhours := o.hours_lt
  have hminutes := o.minutes_lt
  unfold seconds secondsPerDay
  cases o.negative <;> grind

theorem offset_text (o : Offset) : offset (mark ':') o.text = some (o.seconds, []) := by
  have hhours : o.hours < 100 := Nat.lt_trans o.hours_lt (by decide)
  have hminutes : number 2 2 (padded 2 o.minutes) = some (o.minutes, []) := by
    have hread := number_two (Nat.lt_trans o.minutes_lt (by decide)) []
    rwa [List.append_nil] at hread
  unfold text seconds
  cases o.negative <;> simp [offset, offsetSign, number_two hhours, hminutes, o.minutes_lt]

end Offset

/-! ### Stamps of the calendar -/

namespace Stamp

variable {t : Stamp}

/-- The calendar has the day. -/
def IsDay (t : Stamp) : Prop := 1 ≤ t.day ∧ t.day ≤ daysIn t.year t.month

/-- The time is one of a day without leap seconds. -/
def IsTime (t : Stamp) : Prop := t.hour < 24 ∧ t.minute < 60 ∧ t.second < 60

instance (t : Stamp) : Decidable t.IsDay := inferInstanceAs (Decidable (_ ∧ _))

instance (t : Stamp) : Decidable t.IsTime := inferInstanceAs (Decidable (_ ∧ _))

def date (t : Stamp) (h : t.IsDay) : Date where
  year := t.year
  month := t.month
  day := t.day
  leastYear_le := by unfold leastYear; omega
  le_greatestYear := by have := t.year_lt; unfold greatestYear; omega
  day_pos := h.1
  day_le := h.2

/-- The instant of the stamp in universal time. -/
def instant (t : Stamp) (hday : t.IsDay) (htime : t.IsTime) : Instant where
  date := t.date hday
  second := t.hour * 3600 + t.minute * 60 + t.second
  nanosecond := 0
  second_lt := by obtain ⟨hh, hm, hs⟩ := htime; unfold secondsPerDay; omega
  nanosecond_lt := (Instant.midnight (t.date hday)).nanosecond_lt

theorem ofFields?_date (h : t.IsDay) : Date.ofFields? t.year t.month t.day = some (t.date h) :=
  Date.ofFields?_eq_some.mpr ⟨rfl, rfl, rfl⟩

theorem ofFields?_none (h : ¬ t.IsDay) : Date.ofFields? t.year t.month t.day = none :=
  dif_neg fun hday => h ⟨hday.2.2.1, hday.2.2.2⟩

theorem assembled_eq (hday : t.IsDay) (htime : t.IsTime) {seconds : Int} (hless : seconds.natAbs < secondsPerDay) :
    t.assembled 0 seconds = (t.instant hday htime).earlier? seconds := by
  have hclock : Instant.ofClock? (t.date hday) t.hour t.minute t.second 0 = some (t.instant hday htime) := by
    rw [Instant.ofClock?_eq _ htime.1 htime.2.1 htime.2.2 (by decide)]
    exact Instant.ofDay?_eq_some.mpr ⟨rfl, rfl, rfl⟩
  unfold assembled assemble
  simp only [ofFields?_date hday, hclock, if_pos hless, bind, Option.bind_some]

theorem assembled_none (h : ¬ t.IsDay) (nanosecond : Nat) (seconds : Int) : t.assembled nanosecond seconds = none := by
  unfold assembled assemble
  simp only [ofFields?_none h, bind, Option.bind_none]

theorem assembled_zero (hday : t.IsDay) (htime : t.IsTime) : t.assembled 0 0 = some (t.instant hday htime) := by
  rw [assembled_eq hday htime (by decide), Instant.earlier?_zero]

/-- Different stamps are different instants. -/
theorem eq_of_instant {t' : Stamp} {hday : t.IsDay} {htime : t.IsTime} {hday' : t'.IsDay} {htime' : t'.IsTime}
    (h : t.instant hday htime = t'.instant hday' htime') : t = t' := by
  have hdate : t.date hday = t'.date hday' := congrArg Instant.date h
  have hsecond : t.hour * 3600 + t.minute * 60 + t.second = t'.hour * 3600 + t'.minute * 60 + t'.second :=
    congrArg Instant.second h
  have hyear : (t.year : Int) = t'.year := congrArg Date.year hdate
  have hmonth : t.month = t'.month := congrArg Date.month hdate
  have hnumber : t.day = t'.day := congrArg Date.day hdate
  obtain ⟨hhour, hminute, hsec⟩ := htime
  obtain ⟨hhour', hminute', hsec'⟩ := htime'
  exact Stamp.ext (by omega) hmonth hnumber (by omega) (by omega) (by omega)

/-! ### Forms -/

/-- The forms of day and time in universal time. -/
def universalForms (t : Stamp) : List (List Char) :=
  [t.dayText ++ ' ' :: t.timeText, t.dayText ++ 'T' :: t.timeText, t.dayText ++ 'T' :: (t.timeText ++ ['Z']),
    t.dayText ++ 'T' :: (t.timeText ++ "+00:00".toList)]

/-- The form of day and time with an offset. -/
def offsetForm (t : Stamp) (o : Offset) : List Char := t.dayText ++ 'T' :: (t.timeText ++ o.text)

/-- The stamp of the first second of the day. -/
def atMidnight (t : Stamp) : Stamp :=
  { t with hour := 0, minute := 0, second := 0, hour_lt := by decide, minute_lt := by decide, second_lt := by decide }

theorem isTime_atMidnight (t : Stamp) : t.atMidnight.IsTime := by simp [IsTime, atMidnight]

theorem timeText_atMidnight (t : Stamp) : t.atMidnight.timeText = "00:00:00".toList := by
  have hzero : padded 2 0 = ['0', '0'] := by decide
  simp [timeText, atMidnight, hzero]

/-- A form of day and time, or of the day alone. -/
inductive Form (t : Stamp) : List Char → Prop
  | day : Form t t.dayText
  | universal {form : List Char} (h : form ∈ t.universalForms) : Form t form
  | offset (o : Offset) : Form t (t.offsetForm o)

theorem read?_universal {form : List Char} (h : form ∈ t.universalForms) : Instant.read? form = t.assembled 0 0 := by
  simp only [universalForms, List.mem_cons, List.not_mem_nil, or_false] at h
  rcases h with rfl | rfl | rfl | rfl
  · exact t.read?_blank
  · have hread := t.read?_letter []
    rwa [List.append_nil] at hread
  · exact t.read?_offset (List.cons_ne_nil _ _) rfl rfl
  · exact t.read?_offset (List.cons_ne_nil _ _) rfl rfl

theorem read?_offsetForm (t : Stamp) (o : Offset) : Instant.read? (t.offsetForm o) = t.assembled 0 o.seconds := by
  refine t.read?_offset (List.cons_ne_nil _ _) ?_ o.offset_text
  unfold Offset.text
  cases o.negative <;> rfl

/-- A day alone is read like its first second. -/
theorem read?_midnight (t : Stamp) (hday : t.IsDay) :
    Instant.read? (t.dayText ++ " 00:00:00".toList) = Instant.read? t.dayText := by
  have hform : t.dayText ++ " 00:00:00".toList = t.atMidnight.dayText ++ ' ' :: t.atMidnight.timeText := by
    rw [timeText_atMidnight]
    rfl
  have hinstant : t.atMidnight.instant hday t.isTime_atMidnight = .midnight (t.date hday) := by
    simp [instant, atMidnight, date, Instant.midnight]
  rw [hform, read?_blank, assembled_zero (t := t.atMidnight) hday t.isTime_atMidnight, hinstant, read?_day,
    ofFields?_date hday, Option.map_some]

/-- Day and time with an offset are read as the instant that is earlier by the offset: the calendar goes on before the
first of the years with four digits, and after the last. -/
theorem exists_offsetForm (hday : t.IsDay) (htime : t.IsTime) (o : Offset) :
    ∃ i, Instant.read? (t.offsetForm o) = some i ∧
      ∀ j : Instant, j = i ↔ j.moment = (t.instant hday htime).moment - o.seconds ∧ j.nanosecond = 0 := by
  have hyear := t.year_lt
  obtain ⟨i, hi⟩ := Instant.exists_earlier (i := t.instant hday htime) o.seconds_lt
    (by simp only [instant, date, leastYear]; omega) (by simp only [instant, date, greatestYear]; omega)
  obtain ⟨hmoment, hpart⟩ := Instant.moment_earlier o.seconds_lt hi
  refine ⟨i, ?_, fun j => ?_⟩
  · rw [read?_offsetForm, assembled_eq hday htime o.seconds_lt, hi]
  · rw [Instant.eq_iff_moment, hmoment, hpart]
    rfl

/-- No form of a day that the calendar does not have is read. -/
theorem read?_none {form : List Char} (hform : t.Form form) (h : ¬ t.IsDay) : Instant.read? form = none := by
  cases hform with
  | day => rw [read?_day, ofFields?_none h, Option.map_none]
  | universal hmem => rw [read?_universal hmem, assembled_none h]
  | offset o => rw [read?_offsetForm, assembled_none h]

end Stamp

/-- A form is coerced to the instant that is read from it. -/
theorem coerce_form {field : String} {form : List Char} {i : Instant} (h : Instant.read? form = some i) :
    Kind.dateTime.coerce field (String.ofList form) = .ok (.dateTime i) :=
  Kind.coerce_instant (by rwa [String.toList_ofList])

/-- Day and time in universal time are the same instant in all forms, and a day alone is its first moment. With an
offset, they are the one instant that is earlier by the offset. Other days or times in universal time are other
instants. A day that the calendar does not have is refused in every form. -/
theorem forms_agree (field : String) :
    (∀ (t : Stamp) (hday : t.IsDay) (htime : t.IsTime),
      (∀ form ∈ t.universalForms,
        Kind.dateTime.coerce field (String.ofList form) = .ok (.dateTime (t.instant hday htime))) ∧
      Kind.dateTime.coerce field (String.ofList t.dayText) =
        Kind.dateTime.coerce field (String.ofList (t.dayText ++ " 00:00:00".toList)) ∧
      ∀ o : Offset, ∃ i, Kind.dateTime.coerce field (String.ofList (t.offsetForm o)) = .ok (.dateTime i) ∧
        ∀ j : Instant, j = i ↔ j.moment = (t.instant hday htime).moment - o.seconds ∧ j.nanosecond = 0) ∧
    (∀ t t' : Stamp, t.IsDay → t.IsTime → t'.IsDay → t'.IsTime →
      ∀ form ∈ t.universalForms, ∀ form' ∈ t'.universalForms, ∀ v v' : Value,
        Kind.dateTime.coerce field (String.ofList form) = .ok v →
        Kind.dateTime.coerce field (String.ofList form') = .ok v' → v.equals v' = true → t = t') ∧
    ∀ t : Stamp, ¬ t.IsDay → ∀ form, t.Form form →
      Kind.dateTime.coerce field (String.ofList form) =
        .error (.valueCoercion field "date_time" (String.ofList form) "unrecognized date-time format") := by
  have huniversal : ∀ (t : Stamp) (hday : t.IsDay) (htime : t.IsTime), ∀ form ∈ t.universalForms,
      Kind.dateTime.coerce field (String.ofList form) = .ok (.dateTime (t.instant hday htime)) := by
    intro t hday htime form hform
    exact coerce_form (by rw [Stamp.read?_universal hform, Stamp.assembled_zero hday htime])
  refine ⟨fun t hday htime => ⟨huniversal t hday htime, ?_, fun o => ?_⟩, ?_, ?_⟩
  · have hread : Instant.read? t.dayText = some (.midnight (t.date hday)) := by
      rw [Stamp.read?_day, Stamp.ofFields?_date hday, Option.map_some]
    rw [coerce_form hread, coerce_form ((t.read?_midnight hday).trans hread)]
  · obtain ⟨i, hread, hone⟩ := Stamp.exists_offsetForm hday htime o
    exact ⟨i, coerce_form hread, hone⟩
  · intro t t' hday htime hday' htime' form hform form' hform' v v' hv hv' hequal
    obtain rfl := Except.ok.inj ((huniversal t hday htime form hform).symm.trans hv)
    obtain rfl := Except.ok.inj ((huniversal t' hday' htime' form' hform').symm.trans hv')
    exact Stamp.eq_of_instant (of_decide_eq_true hequal)
  · intro t hday form hform
    exact Kind.coerce_no_instant (by rw [String.toList_ofList, Stamp.read?_none hform hday])

/-- Half an hour before the end of a leap day. -/
def leapEvening : Stamp where
  year := 2024
  month := 2
  day := 29
  hour := 23
  minute := 30
  second := 0
  year_lt := by decide
  month_lt := by decide
  day_lt := by decide
  hour_lt := by decide
  minute_lt := by decide
  second_lt := by decide

/-- The same day in the year before, which does not have it. -/
def missingEvening : Stamp := { leapEvening with year := 2023, year_lt := by decide }

/-- One hour to the west. -/
def westward : Offset := ⟨true, 1, 0, by decide, by decide⟩

theorem forms_agree_leapEvening :
    ∃ (hday : leapEvening.IsDay) (htime : leapEvening.IsTime),
      Kind.dateTime.coerce "placed" "2024-02-29 23:30:00" = .ok (.dateTime (leapEvening.instant hday htime)) ∧
      Kind.dateTime.coerce "placed" "2024-02-29T23:30:00Z" = .ok (.dateTime (leapEvening.instant hday htime)) ∧
      (∃ i, Kind.dateTime.coerce "placed" "2024-02-29T23:30:00-01:00" = .ok (.dateTime i) ∧
        i.moment = (leapEvening.instant hday htime).moment + 3600 ∧ i.nanosecond = 0) ∧
      Kind.dateTime.coerce "placed" "2023-02-29" =
        .error (.valueCoercion "placed" "date_time" "2023-02-29" "unrecognized date-time format") := by
  have hday : leapEvening.IsDay := by decide
  have htime : leapEvening.IsTime := by decide
  have hmissing : ¬ missingEvening.IsDay := by decide
  obtain ⟨hagree, -, hrefused⟩ := forms_agree "placed"
  obtain ⟨huniversal, -, hoffset⟩ := hagree leapEvening hday htime
  have hblank := huniversal _ (.head _)
  have hletter := huniversal _ (.tail _ (.tail _ (.head _)))
  obtain ⟨i, hwest, hone⟩ := hoffset westward
  exact ⟨hday, htime, hblank, hletter, ⟨i, hwest, (hone i).mp rfl⟩, hrefused missingEvening hmissing _ .day⟩

end RowAccess.Calendar
