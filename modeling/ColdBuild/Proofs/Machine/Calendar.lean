import ColdBuild.Machine.Calendar
import Mathlib.Order.Monotone.Basic
import Mathlib.Tactic.IntervalCases
import Mathlib.Tactic.SplitIfs

/-!
# The days of the calendar

The date of a day is found by division, in spans of four hundred years that begin in March. The
calendar itself is a rule for what day comes next: a month has its length, and February one day
more in a leap year.

The two agree: the first day is the first of January 1970 (`ofDay_zero`), and the date of the next
day is the next date (`ofDay_succ`). So a date and the number of its day determine each other, and
so do a time and its number of seconds (`toSeconds_ofSeconds`, `ofSeconds_toSeconds`). A time that
has been written as a date and a time of day reads back (`ofText?_format`).
-/

namespace ColdBuild.CalendarTime

/-! ## The rule -/

/-- Every fourth year is a leap year, save the hundredth ones that are not four hundredth ones. -/
def IsLeap (year : Nat) : Prop := 4 ∣ year ∧ (100 ∣ year → 400 ∣ year)

instance (year : Nat) : Decidable (IsLeap year) :=
  inferInstanceAs (Decidable (_ ∧ (_ → _)))

def monthLength (year month : Nat) : Nat :=
  if month = 2 then if IsLeap year then 29 else 28
  else if month = 4 ∨ month = 6 ∨ month = 9 ∨ month = 11 then 30
  else 31

/-- The date is one of the calendar, and not before 1970. -/
structure IsDate (time : CalendarTime) : Prop where
  year : 1970 ≤ time.year
  month : 1 ≤ time.month ∧ time.month ≤ 12
  day : 1 ≤ time.day ∧ time.day ≤ monthLength time.year time.month

structure IsClock (time : CalendarTime) : Prop where
  hour : time.hour < 24
  minute : time.minute < 60
  second : time.second < 60

def date (time : CalendarTime) : CalendarTime :=
  { year := time.year, month := time.month, day := time.day }

def next (time : CalendarTime) : CalendarTime :=
  if time.day < monthLength time.year time.month then { time.date with day := time.day + 1 }
  else if time.month < 12 then { time.date with month := time.month + 1, day := 1 }
  else { year := time.year + 1, month := 1, day := 1 }

/-! ## Years that begin in March -/

/-- The days of a span of four hundred years before one of its years. -/
def daysBeforeYear (year : Nat) : Nat := 365 * year + year / 4 - year / 100

/-- A day in a span of four hundred years is a day of one of its years. A year that ends in a
leap day has one day more than the others. -/
structure InSpan (dayOfSpan year day : Nat) : Prop where
  year_lt : year < 400
  day_lt : day < 365 ∨ day = 365 ∧ IsLeap (year + 1)
  eq_add : dayOfSpan = daysBeforeYear year + day

section

variable {century four rest : Nat}

theorem daysBeforeYear_split (hfour : four < 25) (hrest : rest < 4) :
    daysBeforeYear (100 * century + 4 * four + rest) =
      36524 * century + (1461 * four + 365 * rest) := by
  have hquarter : (100 * century + 4 * four + rest) / 4 = 25 * century + four := by omega
  have hhundredth : (100 * century + 4 * four + rest) / 100 = century := by omega
  rw [daysBeforeYear, hquarter, hhundredth]
  omega

theorem exists_split {year : Nat} (hyear : year < 400) : ∃ century four rest, century < 4 ∧
    four < 25 ∧ rest < 4 ∧ year = 100 * century + 4 * four + rest :=
  ⟨year / 100, year % 100 / 4, year % 4, by omega, by omega, by omega, by omega⟩

theorem isLeap_split (hcentury : century < 4) (hfour : four < 25) (hrest : rest < 4) :
    IsLeap (100 * century + 4 * four + rest + 1) ↔ rest = 3 ∧ (four = 24 → century = 3) := by
  unfold IsLeap
  constructor
  · rintro ⟨hquarter, hhundredth⟩
    have hlast : rest = 3 := by omega
    subst hlast
    refine ⟨rfl, ?_⟩
    rintro rfl
    have := hhundredth (by omega)
    omega
  · rintro ⟨rfl, hlast⟩
    refine ⟨by omega, ?_⟩
    intro hhundredth
    have := hlast (by omega)
    omega

end

theorem exists_inSpan {dayOfSpan : Nat} (h : dayOfSpan < 146097) :
    ∃ year day, InSpan dayOfSpan year day := by
  -- Of the centuries and of the years in a span of four, the last one is longer.
  obtain ⟨century, rest, hcentury, hrest, rfl⟩ : ∃ century rest, century < 4 ∧
      (rest < 36524 ∨ rest = 36524 ∧ century = 3) ∧ dayOfSpan = 36524 * century + rest := by
    by_cases hlast : dayOfSpan < 109572
    · exact ⟨dayOfSpan / 36524, dayOfSpan % 36524, by omega, by omega, by omega⟩
    · exact ⟨3, dayOfSpan - 109572, by omega, by omega, by omega⟩
  obtain ⟨four, rest, hfour, hrest, rfl⟩ : ∃ four rest', four < 25 ∧
      (rest' < 1461 ∧ (four = 24 → century < 3 → rest' < 1460)) ∧ rest = 1461 * four + rest' :=
    ⟨rest / 1461, rest % 1461, by omega, by omega, by omega⟩
  obtain ⟨year, day, hyear, hday, rfl⟩ : ∃ year day, year < 4 ∧
      (day < 365 ∨ day = 365 ∧ year = 3) ∧ rest = 365 * year + day := by
    by_cases hlast : rest < 1095
    · exact ⟨rest / 365, rest % 365, by omega, by omega, by omega⟩
    · exact ⟨3, rest - 1095, by omega, by omega, by omega⟩
  refine ⟨100 * century + 4 * four + year, day, by omega, ?_, ?_⟩
  · rw [isLeap_split hcentury hfour hyear]
    omega
  · rw [daysBeforeYear_split hfour hyear]
    omega

theorem InSpan.lt {dayOfSpan year day : Nat} (h : InSpan dayOfSpan year day) :
    dayOfSpan < 146097 := by
  obtain ⟨hyear, hday, rfl⟩ := h
  unfold daysBeforeYear
  omega

/-- The division that finds the year of a day. What is taken away from the days first makes up
for the leap days before it. -/
theorem InSpan.year_eq {dayOfSpan year day : Nat} (h : InSpan dayOfSpan year day) :
    (dayOfSpan - dayOfSpan / 1460 + dayOfSpan / 36524 - dayOfSpan / 146096) / 365 = year := by
  obtain ⟨hyear, hday, rfl⟩ := h
  obtain ⟨century, four, rest, hcentury, hfour, hrest, rfl⟩ := exists_split hyear
  rw [isLeap_split hcentury hfour hrest] at hday
  rw [daysBeforeYear_split hfour hrest, Nat.add_assoc, Nat.add_assoc]
  generalize hleft : 24 * century + four + (365 * rest + day) = left
  have hleaps : left / 1460 ≤ day ∧ day < 365 + left / 1460 := by
    rcases hday with hday | ⟨rfl, rfl, -⟩ <;> omega
  have hfours : (36524 * century + (1461 * four + (365 * rest + day))) / 1460 =
      25 * century + four + left / 1460 := by
    have : 36524 * century + (1461 * four + (365 * rest + day)) =
        left + 1460 * (25 * century + four) := by omega
    rw [this, Nat.add_mul_div_left _ _ (by decide), Nat.add_comm]
  have hcenturies : (36524 * century + (1461 * four + (365 * rest + day))) / 36524 =
      century + (36524 * century + (1461 * four + (365 * rest + day))) / 146096 := by
    have : 1461 * four + (365 * rest + day) < 36524 ∨
        1461 * four + (365 * rest + day) = 36524 ∧ century = 3 := by omega
    generalize 1461 * four + (365 * rest + day) = behind at this
    omega
  generalize left / 1460 = leaps at hleaps hfours
  have hyears : 36524 * century + (1461 * four + (365 * rest + day)) -
      (25 * century + four + leaps) + century =
        365 * (100 * century + 4 * four + rest) + (day - leaps) := by
    clear hfours hcenturies hleft
    omega
  rw [hfours, hcenturies, ← Nat.add_assoc, Nat.add_sub_cancel, hyears,
    Nat.mul_add_div (by decide), Nat.div_eq_of_lt (by omega), Nat.add_zero]

/-! ## Months from March on -/

/-- The days from the first of March of the year zero to the first of March of a year. -/
def daysToMarch (year : Nat) : Nat := 365 * year + year / 4 - year / 100 + year / 400

/-- The day is one of the year that begins in March. -/
def InYear (year day : Nat) : Prop := day < 365 ∨ day = 365 ∧ IsLeap (year + 1)

theorem InYear.day_lt {year day : Nat} (h : InYear year day) : day < 366 := by
  unfold InYear at h
  omega

/-- The date of a day of a year that begins in March. -/
def ofMarch (year day : Nat) : CalendarTime :=
  let shifted := (5 * day + 2) / 153
  let month := if shifted < 10 then shifted + 3 else shifted - 9
  { year := year + (if month ≤ 2 then 1 else 0)
    month, day := day - (153 * shifted + 2) / 5 + 1 }

theorem isLeap_add (era year : Nat) : IsLeap (400 * era + year) ↔ IsLeap year := by
  unfold IsLeap
  omega

theorem daysToMarch_add {era year : Nat} (hyear : year < 400) :
    daysToMarch (400 * era + year) = 146097 * era + daysBeforeYear year := by
  have hquarter : (400 * era + year) / 4 = 100 * era + year / 4 := by omega
  have hhundredth : (400 * era + year) / 100 = 4 * era + year / 100 := by omega
  have hera : (400 * era + year) / 400 = era := by omega
  rw [daysToMarch, daysBeforeYear, hquarter, hhundredth, hera]
  omega

theorem daysToMarch_succ (year : Nat) :
    daysToMarch (year + 1) = daysToMarch year + 365 + if IsLeap (year + 1) then 1 else 0 := by
  have hle : year / 100 ≤ year / 4 := by omega
  have hfour : 100 ∣ year + 1 → 4 ∣ year + 1 := Nat.dvd_trans (by decide)
  have hhundred : 400 ∣ year + 1 → 100 ∣ year + 1 := Nat.dvd_trans (by decide)
  unfold daysToMarch IsLeap
  simp only [Nat.succ_div]
  generalize year / 4 = fours, year / 100 = hundreds, year / 400 = eras at hle ⊢
  split_ifs <;> simp_all <;> omega

theorem daysToMarch_mono : Monotone daysToMarch := by
  apply monotone_nat_of_le_succ
  intro year
  rw [daysToMarch_succ]
  omega

theorem ofDay_eq_ofMarch {days year day : Nat} (h : InYear year day)
    (hdays : days + daysBefore1970 = daysToMarch year + day) : ofDay days = ofMarch year day := by
  obtain ⟨era, year, hyear, rfl⟩ : ∃ era rest, rest < 400 ∧ year = 400 * era + rest :=
    ⟨year / 400, year % 400, by omega, by omega⟩
  rw [InYear, Nat.add_assoc, isLeap_add] at h
  rw [daysToMarch_add hyear, Nat.add_assoc] at hdays
  have hin : InSpan (daysBeforeYear year + day) year day := ⟨hyear, h, rfl⟩
  have hera : (days + daysBefore1970) / 146097 = era := by
    have := hin.lt
    omega
  have hrest : (days + daysBefore1970) % 146097 = daysBeforeYear year + day := by
    have := hin.lt
    omega
  have hday : daysBeforeYear year + day - (365 * year + year / 4 - year / 100) = day :=
    Nat.add_sub_cancel_left ..
  simp only [ofDay, ofMarch, hera, hrest, hin.year_eq, hday]
  rw [Nat.add_comm year, Nat.mul_comm era]

theorem exists_inYear (days : Nat) : ∃ year day,
    InYear year day ∧ days + daysBefore1970 = daysToMarch year + day := by
  obtain ⟨year, day, hyear, hday, hadd⟩ :=
    exists_inSpan (Nat.mod_lt (days + daysBefore1970) (by decide))
  refine ⟨400 * ((days + daysBefore1970) / 146097) + year, day, ?_, ?_⟩
  · rwa [InYear, Nat.add_assoc, isLeap_add]
  · rw [daysToMarch_add hyear]
    omega

/-- The number of a day by its year that begins in March. -/
theorem dayNumber_ofMarch {year day : Nat} (hday : day < 366) :
    (ofMarch year day).dayNumber = daysToMarch year + day - daysBefore1970 := by
  have hshifted : (5 * day + 2) / 153 < 12 := by omega
  have hsplit := @daysToMarch_add (year / 400) _ (Nat.mod_lt year (by decide : 400 > 0))
  rw [Nat.div_add_mod, daysBeforeYear] at hsplit
  have hle : year % 400 / 100 ≤ 365 * (year % 400) + year % 400 / 4 := by omega
  rw [hsplit]
  unfold ofMarch dayNumber
  generalize hs : (5 * day + 2) / 153 = shifted at hshifted
  interval_cases shifted <;> simp <;> omega

theorem ofMarch_eq {year shifted day : Nat} (hday : 1 ≤ day)
    (hshifted : (5 * ((153 * shifted + 2) / 5 + day - 1) + 2) / 153 = shifted) :
    ofMarch year ((153 * shifted + 2) / 5 + day - 1) =
      let month := if shifted < 10 then shifted + 3 else shifted - 9
      { year := year + (if month ≤ 2 then 1 else 0), month, day } := by
  simp only [ofMarch, hshifted, mk.injEq, and_true, true_and]
  omega

/-- A date of the calendar is a day of a year that begins in March. -/
theorem IsDate.exists_ofMarch {time : CalendarTime} (h : time.IsDate) :
    ∃ year day, InYear year day ∧ ofMarch year day = time.date := by
  obtain ⟨year, month, day, hour, minute, second⟩ := time
  obtain ⟨hyear, ⟨hmonth, hmonth'⟩, hday, hday'⟩ := h
  dsimp only at hyear hmonth hmonth' hday hday'
  by_cases hfirst : month ≤ 2
  · obtain ⟨year, rfl⟩ : ∃ before, year = before + 1 := ⟨year - 1, by omega⟩
    have hlength : day ≤ 28 ∨ month = 1 ∧ day ≤ 31 ∨ month = 2 ∧ day = 29 ∧ IsLeap (year + 1) := by
      by_cases hleap : IsLeap (year + 1) <;> interval_cases month <;>
        simp [monthLength, hleap] at hday' ⊢ <;> omega
    refine ⟨year, (153 * (month + 9) + 2) / 5 + day - 1, ?_, ?_⟩
    · obtain hshort | hjanuary | ⟨rfl, rfl, hleap⟩ := hlength
      · exact .inl (by omega)
      · exact .inl (by omega)
      · exact .inr ⟨by omega, hleap⟩
    · rw [ofMarch_eq hday (by omega)]
      interval_cases month <;> simp [date]
  · have hlength : day ≤ 30 ∨ day = 31 ∧ month ≠ 4 ∧ month ≠ 6 ∧ month ≠ 9 ∧ month ≠ 11 := by
      interval_cases month <;> simp [monthLength] at hday' ⊢ <;> omega
    refine ⟨year, (153 * (month - 3) + 2) / 5 + day - 1, .inl (by omega), ?_⟩
    rw [ofMarch_eq hday (by interval_cases month <;> omega)]
    interval_cases month <;> simp [date]

/-! ## Days and dates -/

theorem next_ofMarch {year day : Nat} (h : InYear year (day + 1)) :
    (ofMarch year day).next = ofMarch year (day + 1) := by
  have hlt : day < 363 ∨ day = 363 ∨ day = 364 ∧ IsLeap (year + 1) := by
    rcases h with h | ⟨h, hleap⟩
    · omega
    · exact .inr (.inr ⟨by omega, hleap⟩)
  obtain hday | rfl | ⟨rfl, hleap⟩ := hlt
  · have hshifted : (5 * day + 2) / 153 < 12 := by omega
    have hsame : (5 * (day + 1) + 2) / 153 = (5 * day + 2) / 153 ∨
        (5 * (day + 1) + 2) / 153 = (5 * day + 2) / 153 + 1 := by omega
    unfold ofMarch next
    generalize hs : (5 * day + 2) / 153 = shifted at hshifted hsame ⊢
    -- The next day is in the same month, or it is the first one of the next month.
    rcases hsame with hsame | hsame <;> rw [hsame] <;>
      interval_cases shifted <;> simp [monthLength, date] <;>
      first | omega | (split_ifs <;> simp <;> omega)
  · by_cases hleap : IsLeap (year + 1) <;> simp [ofMarch, next, monthLength, date, hleap]
  · simp [ofMarch, next, monthLength, date, hleap]

theorem next_ofMarch_last {year day : Nat} (h : InYear year day) (hlast : ¬ InYear year (day + 1)) :
    (ofMarch year day).next = ofMarch (year + 1) 0 := by
  unfold InYear at h hlast
  rcases h with h | ⟨rfl, hleap⟩
  · have hday : day = 364 := by omega
    subst hday
    have hleap : ¬ IsLeap (year + 1) := by simpa using hlast
    simp [ofMarch, next, monthLength, date, hleap]
  · simp [ofMarch, next, monthLength, date, hleap]

theorem ofDay_zero : ofDay 0 = { year := 1970, month := 1, day := 1 } := by decide

/-- The date of the next day is the next date. -/
theorem ofDay_succ (days : Nat) : ofDay (days + 1) = (ofDay days).next := by
  obtain ⟨year, day, h, hdays⟩ := exists_inYear days
  rw [ofDay_eq_ofMarch h hdays]
  by_cases hlast : InYear year (day + 1)
  · rw [next_ofMarch hlast]
    exact ofDay_eq_ofMarch hlast (by omega)
  · rw [next_ofMarch_last h hlast]
    refine ofDay_eq_ofMarch (.inl (by decide)) ?_
    rw [daysToMarch_succ]
    unfold InYear at h hlast
    split <;> simp_all <;> omega

theorem le_monthLength (year month : Nat) : 28 ≤ monthLength year month := by
  unfold monthLength
  split_ifs <;> decide

theorem monthLength_le (year month : Nat) : monthLength year month ≤ 31 := by
  unfold monthLength
  split_ifs <;> decide

theorem IsDate.next {time : CalendarTime} (h : time.IsDate) : time.next.IsDate := by
  obtain ⟨hyear, hmonth, hday⟩ := h
  have hfirst (year month : Nat) : 1 ≤ 1 ∧ 1 ≤ monthLength year month :=
    ⟨Nat.le_refl 1, Nat.le_trans (by decide) (le_monthLength year month)⟩
  unfold CalendarTime.next
  split
  · exact ⟨hyear, hmonth, Nat.le_add_left 1 _, ‹_›⟩
  · split
    · exact ⟨hyear, ⟨Nat.le_add_left 1 _, ‹_›⟩, hfirst _ _⟩
    · exact ⟨Nat.le_succ_of_le hyear, ⟨Nat.le_refl 1, Nat.le_add_left 1 11⟩, hfirst _ _⟩

theorem isDate_ofDay (days : Nat) : (ofDay days).IsDate := by
  induction days with
  | zero => exact ⟨by decide, by decide, by decide⟩
  | succ days ih =>
    rw [ofDay_succ]
    exact ih.next

@[simp]
theorem dayNumber_ofDay (days : Nat) : (ofDay days).dayNumber = days := by
  obtain ⟨year, day, h, hdays⟩ := exists_inYear days
  rw [ofDay_eq_ofMarch h hdays, dayNumber_ofMarch h.day_lt, ← hdays, Nat.add_sub_cancel]

theorem ofDay_dayNumber {time : CalendarTime} (h : time.IsDate) :
    ofDay time.dayNumber = time.date := by
  obtain ⟨year, day, hin, hmarch⟩ := h.exists_ofMarch
  have hnumber : time.dayNumber = (ofMarch year day).dayNumber := by
    rw [hmarch]
    rfl
  have hafter : daysBefore1970 ≤ daysToMarch year + day := by
    have hyear : 1970 ≤ (ofMarch year day).year := by
      rw [hmarch]
      exact h.year
    by_cases hlast : year = 1969
    · have hday : 306 ≤ day := by
        by_contra hday
        have : (5 * day + 2) / 153 < 10 := by omega
        simp [ofMarch, this, hlast] at hyear
      subst hlast
      exact Nat.add_le_add (by decide : 719162 ≤ daysToMarch 1969) hday
    · have : daysToMarch 1970 ≤ daysToMarch year := by
        apply daysToMarch_mono
        unfold ofMarch at hyear
        dsimp only at hyear
        split_ifs at hyear <;> omega
      exact Nat.le_trans (by decide) (Nat.le_trans this (Nat.le_add_right _ _))
  rw [← hmarch, hnumber, dayNumber_ofMarch hin.day_lt]
  exact ofDay_eq_ofMarch hin (Nat.sub_add_cancel hafter)

theorem IsDate.dayNumber_next {time : CalendarTime} (h : time.IsDate) :
    time.next.dayNumber = time.dayNumber + 1 := by
  have hnext : (ofDay time.dayNumber).next = time.next := by
    rw [ofDay_dayNumber h]
    rfl
  rw [← hnext, ← ofDay_succ, dayNumber_ofDay]

theorem IsDate.weekday_next {time : CalendarTime} (h : time.IsDate) :
    time.next.weekday = (time.weekday + 1) % 7 := by
  rw [weekday, weekday, h.dayNumber_next]
  omega

/-! ## Seconds and times -/

theorem isClock_ofSeconds (seconds : Nat) : (ofSeconds seconds).IsClock := by
  constructor <;> simp only [ofSeconds] <;> omega

theorem isDate_ofSeconds (seconds : Nat) : (ofSeconds seconds).IsDate :=
  have h := isDate_ofDay (seconds / 86400)
  ⟨h.year, h.month, h.day⟩

theorem toSeconds_ofSeconds (seconds : Nat) : (ofSeconds seconds).toSeconds = seconds := by
  have hday : (ofSeconds seconds).dayNumber = seconds / 86400 := dayNumber_ofDay (seconds / 86400)
  rw [toSeconds, hday]
  simp only [ofSeconds]
  omega

theorem ofSeconds_toSeconds {time : CalendarTime} (h : time.IsDate) (hclock : time.IsClock) :
    ofSeconds time.toSeconds = time := by
  obtain ⟨hhour, hminute, hsecond⟩ := hclock
  have hday : time.toSeconds / 86400 = time.dayNumber := by
    unfold toSeconds
    omega
  have hrest : time.toSeconds % 86400 = time.hour * 3600 + time.minute * 60 + time.second := by
    unfold toSeconds
    omega
  rw [ofSeconds, hday, hrest, ofDay_dayNumber h]
  cases time
  simp only [date, mk.injEq, true_and] at *
  omega

/-! ## Written times -/

/-- Digits that spell a number. -/
structure Spells (digits : List Char) (n : Nat) : Prop where
  ne_nil : digits ≠ []
  isDigit : ∀ c ∈ digits, c.isDigit = true
  value : Nat.ofDigitChars 10 digits 0 = n

theorem spells_toDigits (n : Nat) : Spells (Nat.toDigits 10 n) n :=
  ⟨by simp, fun c mem => Nat.isDigit_of_mem_toDigits (by decide) (by decide) mem, by simp⟩

theorem spells_field (width n : Nat) : Spells (field '0' width n).toList n := by
  obtain ⟨ne_nil, isDigit, value⟩ := spells_toDigits n
  rw [field, String.toList_ofList]
  refine ⟨by simp, ?_, ?_⟩
  · intro c mem
    rw [List.mem_append] at mem
    obtain mem | mem := mem
    · rw [List.eq_of_mem_replicate mem]
      rfl
    · exact isDigit c mem
  · rw [Nat.ofDigitChars_append]
    simp [value]

theorem Spells.notMem {digits : List Char} {n : Nat} (h : Spells digits n) {mark : Char}
    (hmark : mark.isDigit = false) : mark ∉ digits := by
  intro mem
  rw [h.isDigit mark mem] at hmark
  cases hmark

theorem splitOn_three {a b c : List Char} {mark : Char} (ha : mark ∉ a) (hb : mark ∉ b)
    (hc : mark ∉ c) : (a ++ mark :: (b ++ mark :: c)).splitOn mark = [a, b, c] := by
  rw [List.splitOn_append_cons_self_of_not_mem ha, List.splitOn_append_cons_self_of_not_mem hb,
    List.splitOn_eq_singleton hc]

theorem Spells.number {digits : List Char} {n : Nat} (h : Spells digits n) :
    (if digits.isEmpty || !digits.all Char.isDigit then none
      else some (Nat.ofDigitChars 10 digits 0)) = some n := by
  have hall : digits.all Char.isDigit = true := List.all_eq_true.mpr h.isDigit
  rw [h.value, hall]
  simp [h.ne_nil]

theorem ofText?_of_spells {time : CalendarTime} (h : time.IsDate)
    {year month day hour minute second : List Char} (hyear : Spells year time.year)
    (hmonth : Spells month time.month) (hday : Spells day time.day)
    (hhour : Spells hour time.hour) (hminute : Spells minute time.minute)
    (hsecond : Spells second time.second) :
    ofText? (String.ofList ((year ++ '-' :: (month ++ '-' :: day)) ++
      ' ' :: (hour ++ ':' :: (minute ++ ':' :: second)))) = some time := by
  have hplain : ∀ c ∈ year ++ '-' :: (month ++ '-' :: day), (c ≠ ' ' && c ≠ 'T') = true := by
    intro c mem
    have hc : c.isDigit = true ∨ c = '-' := by
      simp only [List.mem_append, List.mem_cons] at mem
      obtain mem | rfl | mem | rfl | mem := mem
      · exact .inl (hyear.isDigit c mem)
      · exact .inr rfl
      · exact .inl (hmonth.isDigit c mem)
      · exact .inr rfl
      · exact .inl (hday.isDigit c mem)
    obtain hdigit | rfl := hc
    · rw [Bool.and_eq_true, decide_eq_true_eq, decide_eq_true_eq]
      constructor <;> rintro rfl <;> cases hdigit
    · decide
  have hdate : (year ++ '-' :: (month ++ '-' :: day)).splitOn '-' = [year, month, day] :=
    splitOn_three (hyear.notMem rfl) (hmonth.notMem rfl) (hday.notMem rfl)
  have hclock : (hour ++ ':' :: (minute ++ ':' :: second)).splitOn ':' = [hour, minute, second] :=
    splitOn_three (hhour.notMem rfl) (hminute.notMem rfl) (hsecond.notMem rfl)
  generalize hdateText : year ++ '-' :: (month ++ '-' :: day) = date at hplain hdate ⊢
  generalize hclockText : hour ++ ':' :: (minute ++ ':' :: second) = clock at hclock ⊢
  have hnonempty : clock.isEmpty = false := by
    rw [← hclockText]
    cases hour <;> rfl
  have hfront : (date ++ ' ' :: clock).takeWhile (fun c => c ≠ ' ' && c ≠ 'T') = date := by
    rw [List.takeWhile_append_of_pos hplain]
    simp
  have hbehind : (date ++ ' ' :: clock).drop (date.length + 1) = clock := by
    simp
  obtain ⟨hyear', ⟨hmonth', hmonth''⟩, hday', hday''⟩ := h
  have := monthLength_le time.year time.month
  unfold ofText?
  simp only [String.toList_ofList, hfront, hbehind, hdate, hclock, hnonempty, List.mapM_cons,
    hyear.number, hmonth.number, hday.number, hhour.number, hminute.number, hsecond.number]
  simp
  omega

theorem ofText?_format {time : CalendarTime} (h : time.IsDate) (nanoseconds : Nat) :
    ofText? (time.format nanoseconds "%F %T".toList) = some time := by
  have htext : time.format nanoseconds "%F %T".toList =
      String.ofList ((Nat.toDigits 10 time.year ++
        '-' :: ((field '0' 2 time.month).toList ++ '-' :: (field '0' 2 time.day).toList)) ++
      ' ' :: ((field '0' 2 time.hour).toList ++
        ':' :: ((field '0' 2 time.minute).toList ++ ':' :: (field '0' 2 time.second).toList))) := by
    apply String.toList_inj.mp
    simp [format, part, toString]
  rw [htext]
  exact ofText?_of_spells h (spells_toDigits _) (spells_field 2 _) (spells_field 2 _)
    (spells_field 2 _) (spells_field 2 _) (spells_field 2 _)
end ColdBuild.CalendarTime
