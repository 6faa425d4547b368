import Mathlib.Tactic.IntervalCases
import OpenApi.DateTime.Basic

/-!
# Days and dates

The day that is counted from a date is the day of that date. Years are taken from March on, so that
every year has its days in the same places and a leap day comes last.
-/

namespace OpenApi.DateTime

namespace Date

/-- The year of the date, if years start in March. -/
def marchYear (d : Date) : Int :=
  if d.month ≤ 2 then d.year - 1 else d.year

/-- The days before the date in its year, if years start in March. -/
def marchDay (d : Date) : Int :=
  (153 * (((d.month : Int) + 9) % 12) + 2) / 5 + d.day - 1

/-- The days before a year of an era of four hundred years. -/
def daysBefore (yearOfEra : Int) : Int :=
  yearOfEra * 365 + yearOfEra / 4 - yearOfEra / 100

theorem toDays_eq (d : Date) :
    d.toDays = d.marchYear / 400 * 146097 + (daysBefore (d.marchYear % 400) + d.marchDay)
      - 719468 := by
  have hera : d.marchYear - d.marchYear / 400 * 400 = d.marchYear % 400 := by omega
  rw [toDays, Int.fdiv_eq_ediv_of_nonneg _ (by decide), ← marchYear, hera]
  rfl

/-! ## The year of a day -/

/-- A day of an era lies in the year that it is counted from: centuries, fours of years and single
years are the digits of the year, and only a leap year has a day 365. -/
theorem yearOfEra_eq (century four single : Int) {day dayOfEra : Int} (hcentury : 0 ≤ century)
    (hcentury' : century < 4) (hfour : 0 ≤ four) (hfour' : four < 25) (hsingle : 0 ≤ single)
    (hsingle' : single < 4) (hday : 0 ≤ day)
    (hday' : day ≤ 364 ∨ day = 365 ∧ single = 3 ∧ (four < 24 ∨ century = 3))
    (h : dayOfEra = 36524 * century + 1461 * four + 365 * single + day) :
    (dayOfEra - dayOfEra / 1460 + dayOfEra / 36524 - dayOfEra / 146096) / 365 =
      100 * century + 4 * four + single := by
  have hlast : dayOfEra / 146096 = if dayOfEra = 146096 then 1 else 0 := by
    split <;> omega
  have hcenturies : dayOfEra / 36524 = century + if dayOfEra = 146096 then 1 else 0 := by
    split <;> omega
  have hfours : dayOfEra / 1460 =
      25 * century + four + if 24 * century + four + 365 * single + day < 1460 then 0 else 1 := by
    split <;> omega
  rw [hlast, hcenturies, hfours]
  split <;> split <;> omega

/-- Whether the year ends with a leap day, if years start in March. -/
def EndsLeap (yearOfEra : Int) : Prop :=
  yearOfEra % 4 = 3 ∧ (yearOfEra % 100 < 96 ∨ 300 ≤ yearOfEra)

theorem yearOfEra_of_day {yearOfEra day : Int} (hyear : 0 ≤ yearOfEra) (hyear' : yearOfEra < 400)
    (hday : 0 ≤ day) (hday' : day ≤ 364 ∨ day = 365 ∧ EndsLeap yearOfEra) {dayOfEra : Int}
    (h : dayOfEra = daysBefore yearOfEra + day) :
    (dayOfEra - dayOfEra / 1460 + dayOfEra / 36524 - dayOfEra / 146096) / 365 = yearOfEra := by
  have hsum : dayOfEra = 36524 * (yearOfEra / 100) + 1461 * (yearOfEra % 100 / 4) +
      365 * (yearOfEra % 4) + day := by
    rw [h, daysBefore]
    omega
  have heq := yearOfEra_eq (yearOfEra / 100) (yearOfEra % 100 / 4) (yearOfEra % 4) (by omega)
    (by omega) (by omega) (by omega) (by omega) (by omega) hday (by unfold EndsLeap at hday'; omega)
    hsum
  rw [heq]
  omega

/-! ## The month of a day -/

theorem eq_iff {a b : Date} : a = b ↔ a.year = b.year ∧ a.month = b.month ∧ a.day = b.day := by
  cases a
  cases b
  exact Date.mk.injEq ..|>.to_iff

theorem isValid_iff {d : Date} :
    d.isValid = true ↔ isKnownYear d.year = true ∧ 1 ≤ d.month ∧ d.month ≤ 12 ∧ 1 ≤ d.day ∧
      d.day ≤ daysInMonth d.year d.month := by
  simp [isValid, and_assoc]

theorem daysInMonth_le (year : Int) (month : Nat) : daysInMonth year month ≤ 31 := by
  unfold daysInMonth
  split
  · split <;> decide
  all_goals decide

theorem daysInFebruary_cases (year : Int) :
    daysInMonth year 2 = 28 ∨
      daysInMonth year 2 = 29 ∧ year % 4 = 0 ∧ (year % 100 ≠ 0 ∨ year % 400 = 0) := by
  by_cases h : isLeapYear year = true
  · right
    have hleap := h
    simp only [isLeapYear, Bool.and_eq_true, Bool.or_eq_true, beq_iff_eq, bne_iff_ne] at hleap
    exact ⟨by simp [daysInMonth, h], hleap⟩
  · left
    simp [daysInMonth, h]

theorem marchDay_bounds {d : Date} (h : d.isValid = true) :
    0 ≤ d.marchDay ∧
      (d.marchDay ≤ 364 ∨ d.marchDay = 365 ∧ EndsLeap (d.marchYear % 400)) := by
  obtain ⟨year, month, day⟩ := d
  obtain ⟨_, hmonth, hmonth', hday, hday'⟩ := isValid_iff.1 h
  have hfebruary := daysInFebruary_cases year
  simp only [marchDay, marchYear, EndsLeap]
  dsimp only at hmonth hmonth' hday hday'
  interval_cases month <;> simp only [daysInMonth] at hday' hfebruary <;> omega

theorem month_of_marchDay {d : Date} (h : d.isValid = true) :
    (5 * d.marchDay + 2) / 153 = ((d.month : Int) + 9) % 12 := by
  obtain ⟨year, month, day⟩ := d
  obtain ⟨_, hmonth, hmonth', hday, hday'⟩ := isValid_iff.1 h
  have hfebruary := daysInFebruary_cases year
  simp only [marchDay]
  dsimp only at hmonth hmonth' hday hday'
  interval_cases month <;> simp only [daysInMonth] at hday' hfebruary <;> omega

/-- The day that a date is counted as is the day of that date. -/
theorem ofDays_toDays {d : Date} (h : d.isValid = true) : ofDays d.toDays = d := by
  obtain ⟨hday, hday'⟩ := marchDay_bounds h
  have hbefore : 0 ≤ daysBefore (d.marchYear % 400) ∧
      daysBefore (d.marchYear % 400) + d.marchDay < 146097 := by
    simp only [daysBefore, EndsLeap] at hday' ⊢
    omega
  have hera : (d.toDays + 719468).fdiv 146097 = d.marchYear / 400 := by
    rw [Int.fdiv_eq_ediv_of_nonneg _ (by decide), toDays_eq]
    omega
  have hdayOfEra : d.toDays + 719468 - d.marchYear / 400 * 146097 =
      daysBefore (d.marchYear % 400) + d.marchDay := by
    rw [toDays_eq]
    omega
  have hyear := yearOfEra_of_day (by omega) (by omega) hday hday' rfl
  have hdayOfYear : daysBefore (d.marchYear % 400) + d.marchDay -
      (365 * (d.marchYear % 400) + d.marchYear % 400 / 4 - d.marchYear % 400 / 100) =
        d.marchDay := by
    rw [daysBefore]
    omega
  obtain ⟨_, hmonth, hmonth', _⟩ := isValid_iff.1 h
  unfold ofDays
  simp only [hera, hdayOfEra, hyear, hdayOfYear, month_of_marchDay h]
  rw [Date.eq_iff]
  refine ⟨?_, ?_, ?_⟩
  · simp only [marchYear]
    split <;> split <;> omega
  · dsimp only
    split <;> omega
  · simp only [marchDay]
    omega

end Date

/-! ## The local date and time -/

theorem Time.eq_iff {a b : Time} :
    a = b ↔ a.hour = b.hour ∧ a.minute = b.minute ∧ a.second = b.second ∧ a.nanos = b.nanos := by
  cases a
  cases b
  exact Time.mk.injEq ..|>.to_iff

theorem Time.isValid_iff {t : Time} :
    t.isValid = true ↔ t.hour < 24 ∧ t.minute < 60 ∧ t.second ≤ 60 := by
  simp [isValid, and_assoc]

/-- The seconds of the day before the time. A leap second shares the last one of its minute. -/
def Time.toSeconds (t : Time) : Nat :=
  t.hour * 3600 + t.minute * 60 + if t.second = 60 then 59 else t.second

theorem seconds_ofLocal (date : Date) (time : Time) (offset : Int) :
    (ofLocal date time offset).seconds = date.toDays * 86400 + time.toSeconds - offset := by
  simp [ofLocal, Time.toSeconds]

theorem nanos_ofLocal (date : Date) (time : Time) (offset : Int) :
    (ofLocal date time offset).nanos =
      if time.second = 60 then time.nanos + 1000000000 else time.nanos := by
  simp [ofLocal]

theorem Time.toSeconds_lt {t : Time} (h : t.isValid = true) : t.toSeconds < 86400 := by
  obtain ⟨hhour, hminute, hsecond⟩ := isValid_iff.1 h
  unfold toSeconds
  split <;> omega

theorem localDate_ofLocal {date : Date} {time : Time} (hdate : date.isValid = true)
    (htime : time.isValid = true) (offset : Int) : (ofLocal date time offset).localDate = date := by
  have hlt := Time.toSeconds_lt htime
  have hoffset : (ofLocal date time offset).offset = offset := rfl
  have hdays : (date.toDays * 86400 + time.toSeconds - offset + offset).fdiv 86400 =
      date.toDays := by
    rw [Int.fdiv_eq_ediv_of_nonneg _ (by decide)]
    omega
  rw [localDate, seconds_ofLocal, hoffset, hdays, Date.ofDays_toDays hdate]

theorem localTime_ofLocal {date : Date} {time : Time} (htime : time.isValid = true)
    (hnanos : time.nanos < 1000000000) (offset : Int) :
    (ofLocal date time offset).localTime = time := by
  have hlt := Time.toSeconds_lt htime
  have hoffset : (ofLocal date time offset).offset = offset := rfl
  have hseconds : ((date.toDays * 86400 + time.toSeconds - offset + offset).fmod 86400).toNat =
      time.toSeconds := by
    rw [Int.fmod_eq_emod_of_nonneg _ (by decide)]
    omega
  obtain ⟨hhour, hminute, hsecond⟩ := Time.isValid_iff.1 htime
  simp only [localTime, seconds_ofLocal, nanos_ofLocal, hoffset, hseconds, Time.eq_iff]
  unfold Time.toSeconds
  by_cases hleap : time.second = 60
  · simp only [if_pos hleap]
    rw [if_pos (by omega), if_pos (by omega)]
    omega
  · simp only [if_neg hleap]
    rw [if_neg (by omega), if_neg (by omega)]
    omega

end OpenApi.DateTime
