import Mathlib.Algebra.GroupWithZero.Nat
import Mathlib.Algebra.Order.BigOperators.Group.List
import Mathlib.Algebra.Order.Group.Nat
import Mathlib.Logic.Function.Iterate
import SqlScript.Value.Calendar

/-!
# The days of the calendar

A date is found from the number of a day by taking off whole periods.  Here the calendar is
what it is for people: each date has a next one, and all dates are counted from one of them.

* `Date.IsReal` — the month and the day exist;
* `Date.tomorrow` — the date of the next day, by the lengths of months and the leap years;
* `Date.IsAfter d n e` — `d` is `n` days after `e`, or before it if `n` is negative;
* `dayNumber_ofDays`, `dayNumber_injective` — the number of a day and its date determine each
  other;
* `isAfter_iff` — counting days is subtracting their numbers;
* `ofEpochDays?_eq` — the date of a number of days is the one that many days after the first
  day of 1970.
-/

namespace SqlScript

namespace Date

/-- The number of days of a month, the first being 1. -/
def monthLength (year : Int) (month : Nat) : Nat :=
  (monthLengths (isLeapYear year)).getD (month - 1) 0

/-- A date of the calendar: its month and its day exist. -/
structure IsReal (d : Date) : Prop where
  month_pos : 1 ≤ d.month
  month_le : d.month ≤ 12
  day_pos : 1 ≤ d.day
  day_le : d.day ≤ monthLength d.year d.month

theorem isReal_iff {d : Date} :
    d.IsReal ↔ 1 ≤ d.month ∧ d.month ≤ 12 ∧ 1 ≤ d.day ∧ d.day ≤ monthLength d.year d.month :=
  ⟨fun h => ⟨h.month_pos, h.month_le, h.day_pos, h.day_le⟩, fun ⟨h₁, h₂, h₃, h₄⟩ =>
    ⟨h₁, h₂, h₃, h₄⟩⟩

instance (d : Date) : Decidable d.IsReal :=
  decidable_of_iff _ isReal_iff.symm

/-- The date of the next day. -/
def tomorrow (d : Date) : Date :=
  if d.day < monthLength d.year d.month then { d with day := d.day + 1 }
  else if d.month < 12 then { d with month := d.month + 1, day := 1 }
  else { year := d.year + 1, month := 1, day := 1 }

/-- A date is so many days after another one; before it if the number is negative. -/
def IsAfter (d : Date) (n : Int) (e : Date) : Prop :=
  tomorrow^[n.toNat] e = tomorrow^[(-n).toNat] d

instance (d e : Date) (n : Int) : Decidable (d.IsAfter n e) :=
  inferInstanceAs (Decidable (_ = _))

/-- The day from which days are counted. -/
def epochDate : Date :=
  { year := 1970, month := 1, day := 1 }

/-! ### Years -/

/-- The number of days from the first day of the year 1 to the first day of a year. -/
def yearStart (year : Int) : Int :=
  365 * (year - 1) + (year - 1) / 4 - (year - 1) / 100 + (year - 1) / 400

/-- The number of days of a year. -/
def yearLength (year : Int) : Nat :=
  if isLeapYear year then 366 else 365

theorem isLeapYear_iff {year : Int} :
    isLeapYear year = true ↔ year % 4 = 0 ∧ (year % 100 ≠ 0 ∨ year % 400 = 0) := by
  simp [isLeapYear]

theorem yearStart_succ (year : Int) : yearStart (year + 1) = yearStart year + yearLength year := by
  unfold yearStart yearLength
  split
  next h =>
    rw [isLeapYear_iff] at h
    omega
  next h =>
    rw [isLeapYear_iff] at h
    omega

theorem yearStart_mono {y z : Int} (h : y ≤ z) : yearStart y ≤ yearStart z := by
  unfold yearStart
  omega

/-! ### Months -/

/-- The number of days of a year before a month. -/
def daysBefore (year : Int) (month : Nat) : Nat :=
  ((monthLengths (isLeapYear year)).take (month - 1)).sum

theorem length_monthLengths (leap : Bool) : (monthLengths leap).length = 12 := rfl

theorem sum_monthLengths (year : Int) :
    (monthLengths (isLeapYear year)).sum = yearLength year := by
  unfold yearLength
  cases isLeapYear year <;> rfl

theorem daysBefore_succ (year : Int) {month : Nat} (hpos : 1 ≤ month) (hle : month ≤ 12) :
    daysBefore year (month + 1) = daysBefore year month + monthLength year month := by
  obtain ⟨k, rfl⟩ := Nat.exists_eq_add_of_le' hpos
  have hk : k < (monthLengths (isLeapYear year)).length := by
    rw [length_monthLengths]
    omega
  simp only [daysBefore, monthLength, Nat.add_sub_cancel]
  rw [List.sum_take_succ _ _ hk, List.getD_eq_getElem?_getD, List.getElem?_eq_getElem hk,
    Option.getD_some]

theorem daysBefore_mono (year : Int) {m k : Nat} (h : m ≤ k) :
    daysBefore year m ≤ daysBefore year k :=
  (List.take_sublist_take_left (Nat.sub_le_sub_right h 1)).sum_le_sum fun _ _ => Nat.zero_le _

theorem daysBefore_end (year : Int) : daysBefore year 13 = yearLength year := by
  rw [← sum_monthLengths]
  exact congrArg List.sum (List.take_of_length_le (Nat.le_of_eq (length_monthLengths _)))

/-- Days counted off month by month end in the month in which they lie. -/
theorem monthDay_eq (first : Nat) (lengths : List Nat) (n : Nat) (h : n < lengths.sum) :
    ∃ k < lengths.length,
      monthDay first lengths n = (first + k, n - (lengths.take k).sum + 1) ∧
        (lengths.take k).sum ≤ n ∧ n < (lengths.take k).sum + lengths.getD k 0 := by
  induction lengths generalizing first n with
  | nil => simp at h
  | cons length rest ih =>
    by_cases hn : n < length
    · exact ⟨0, by simp, by simp [monthDay, hn], by simp, by simpa using hn⟩
    · rw [List.sum_cons] at h
      obtain ⟨k, hk, heq, hle, hlt⟩ := ih (first + 1) (n - length) (by omega)
      refine ⟨k + 1, by simpa using hk, ?_, ?_, ?_⟩
      · rw [monthDay, if_neg hn, heq, List.take_succ_cons, List.sum_cons]
        congr 1 <;> omega
      · rw [List.take_succ_cons, List.sum_cons]
        omega
      · rw [List.take_succ_cons, List.sum_cons, List.getD_cons_succ]
        omega

/-! ### The number of a day -/

theorem dayNumber_eq (d : Date) :
    d.dayNumber = yearStart d.year + daysBefore d.year d.month + (d.day - 1) := by
  have hsum : ∀ lengths : List Nat, lengths.foldl Nat.add 0 = lengths.sum := fun lengths =>
    List.sum_eq_foldl.symm
  simp only [dayNumber, hsum]
  rfl

/-- A day lies within its year and its month. -/
theorem dayNumber_bounds {d : Date} (h : d.IsReal) :
    yearStart d.year + daysBefore d.year d.month ≤ d.dayNumber ∧
      d.dayNumber < yearStart d.year + daysBefore d.year (d.month + 1) ∧
      d.dayNumber < yearStart (d.year + 1) := by
  have hmonth := daysBefore_succ d.year h.month_pos h.month_le
  have hyear := daysBefore_mono d.year (show d.month + 1 ≤ 13 from Nat.succ_le_succ h.month_le)
  rw [daysBefore_end] at hyear
  have hday := h.day_le
  have hpos := h.day_pos
  rw [dayNumber_eq, yearStart_succ]
  omega

/-- Two dates with the same number are the same. -/
theorem dayNumber_injective {d e : Date} (hd : d.IsReal) (he : e.IsReal)
    (h : d.dayNumber = e.dayNumber) : d = e := by
  obtain ⟨hdm, hdn, hdy⟩ := dayNumber_bounds hd
  obtain ⟨hem, hen, hey⟩ := dayNumber_bounds he
  have hyear : d.year = e.year := by
    rcases Int.lt_trichotomy d.year e.year with hlt | heq | hgt
    · have := yearStart_mono (show d.year + 1 ≤ e.year from hlt)
      omega
    · exact heq
    · have := yearStart_mono (show e.year + 1 ≤ d.year from hgt)
      omega
  have hmonth : d.month = e.month := by
    rw [hyear] at hdm hdn
    rcases Nat.lt_trichotomy d.month e.month with hlt | heq | hgt
    · have := daysBefore_mono e.year (show d.month + 1 ≤ e.month from hlt)
      omega
    · exact heq
    · have := daysBefore_mono e.year (show e.month + 1 ≤ d.month from hgt)
      omega
  have hday : d.day = e.day := by
    rw [dayNumber_eq, dayNumber_eq, hyear, hmonth] at h
    omega
  cases d
  cases e
  simp_all

/-- A year by its place in the periods of 400, 100 and 4 years. -/
theorem yearStart_periods (eras : Int) {centuries cycles years : Nat} (hcenturies : centuries ≤ 3)
    (hcycles : cycles ≤ 24) (hyears : years ≤ 3) :
    yearStart (eras * 400 + centuries * 100 + cycles * 4 + years + 1) =
      146097 * eras + 36524 * centuries + 1461 * cycles + 365 * years := by
  have hfour : (eras * 400 + centuries * 100 + cycles * 4 + years + 1 - 1) / 4 =
      eras * 100 + centuries * 25 + cycles := by omega
  have hhundred : (eras * 400 + centuries * 100 + cycles * 4 + years + 1 - 1) / 100 =
      eras * 4 + centuries := by omega
  have hera : (eras * 400 + centuries * 100 + cycles * 4 + years + 1 - 1) / 400 = eras := by omega
  rw [yearStart, hfour, hhundred, hera]
  omega

/-- Only the last year of a period of four can be a leap year. -/
theorem isLeapYear_periods (eras : Int) {centuries cycles years : Nat} (hcenturies : centuries ≤ 3)
    (hcycles : cycles ≤ 24) (hyears : years ≤ 3) :
    isLeapYear (eras * 400 + centuries * 100 + cycles * 4 + years + 1) = true ↔
      years = 3 ∧ (cycles < 24 ∨ centuries = 3) := by
  rw [isLeapYear_iff]
  omega

/-- The whole periods that are taken off a number of days make a year, and what is left lies
within it. -/
theorem exists_year (n : Int) : ∃ (year : Int) (day : Nat),
    ofDays n = { year, month := (monthDay 1 (monthLengths (isLeapYear year)) day).1,
                 day := (monthDay 1 (monthLengths (isLeapYear year)) day).2 } ∧
      n = yearStart year + day ∧ day < yearLength year := by
  refine ⟨_, _, rfl, ?_⟩
  generalize hinEra : (n % 146097).toNat = inEra
  generalize hcenturies : min 3 (inEra / 36524) = centuries
  generalize hinCentury : inEra - centuries * 36524 = inCentury
  generalize hcycles : inCentury / 1461 = cycles
  generalize hinCycle : inCentury - cycles * 1461 = inCycle
  generalize hyears : min 3 (inCycle / 365) = years
  have hcenturiesLe : centuries ≤ 3 := by omega
  have hcyclesLe : cycles ≤ 24 := by omega
  have hyearsLe : years ≤ 3 := by omega
  constructor
  · rw [yearStart_periods _ hcenturiesLe hcyclesLe hyearsLe]
    omega
  · unfold yearLength
    split
    next h =>
      rw [isLeapYear_periods _ hcenturiesLe hcyclesLe hyearsLe] at h
      omega
    next h =>
      rw [isLeapYear_periods _ hcenturiesLe hcyclesLe hyearsLe] at h
      omega

theorem ofDays_spec (n : Int) : (ofDays n).IsReal ∧ (ofDays n).dayNumber = n := by
  obtain ⟨year, day, heq, hn, hday⟩ := exists_year n
  rw [← sum_monthLengths] at hday
  obtain ⟨k, hk, hmonth, hle, hlt⟩ := monthDay_eq 1 _ day hday
  rw [hmonth] at heq
  rw [length_monthLengths] at hk
  have hlength : monthLength year (1 + k) = (monthLengths (isLeapYear year)).getD k 0 := by
    rw [monthLength, Nat.add_sub_cancel_left]
  have hbefore : daysBefore year (1 + k) = ((monthLengths (isLeapYear year)).take k).sum := by
    rw [daysBefore, Nat.add_sub_cancel_left]
  rw [heq]
  refine ⟨⟨?_, ?_, ?_, ?_⟩, ?_⟩
  · exact Nat.le_add_right 1 k
  · show 1 + k ≤ 12
    omega
  · exact Nat.le_add_left 1 _
  · show day - ((monthLengths (isLeapYear year)).take k).sum + 1 ≤ monthLength year (1 + k)
    omega
  · rw [dayNumber_eq]
    show yearStart year + daysBefore year (1 + k) +
      ((day - ((monthLengths (isLeapYear year)).take k).sum + 1 : Nat) - 1) = n
    omega

theorem isReal_ofDays (n : Int) : (ofDays n).IsReal :=
  (ofDays_spec n).1

theorem dayNumber_ofDays (n : Int) : (ofDays n).dayNumber = n :=
  (ofDays_spec n).2

theorem ofDays_dayNumber {d : Date} (h : d.IsReal) : ofDays d.dayNumber = d :=
  dayNumber_injective (isReal_ofDays _) h (dayNumber_ofDays _)

/-! ### From day to day -/

theorem monthLength_pos {year : Int} {month : Nat} (hpos : 1 ≤ month) (hle : month ≤ 12) :
    1 ≤ monthLength year month := by
  have hall : ∀ leap, ∀ k < 12, 1 ≤ (monthLengths leap).getD k 0 := by decide
  exact hall _ (month - 1) (by omega)

/-- The next day is a day of the calendar, and its number is the next one. -/
theorem tomorrow_spec {d : Date} (h : d.IsReal) :
    d.tomorrow.IsReal ∧ d.tomorrow.dayNumber = d.dayNumber + 1 := by
  have hpos := h.month_pos
  have hle := h.month_le
  have hday := h.day_le
  have hsucc := daysBefore_succ d.year hpos hle
  unfold tomorrow
  split
  next hlt =>
    refine ⟨⟨hpos, hle, Nat.le_add_left 1 _, hlt⟩, ?_⟩
    simp only [dayNumber_eq]
    omega
  next hlast =>
    split
    next hmonth =>
      refine ⟨⟨Nat.le_add_left 1 _, hmonth, Nat.le_refl 1, ?_⟩, ?_⟩
      · exact monthLength_pos (Nat.le_add_left 1 _) hmonth
      · simp only [dayNumber_eq]
        omega
    next hmonth =>
      have htwelve : d.month = 12 := by omega
      have hjanuary : 1 ≤ 12 := by decide
      refine ⟨⟨Nat.le_refl 1, hjanuary, Nat.le_refl 1, ?_⟩, ?_⟩
      · exact monthLength_pos (Nat.le_refl 1) hjanuary
      · have hend : daysBefore d.year (12 + 1) = yearLength d.year := daysBefore_end d.year
        have hfirst : daysBefore (d.year + 1) 1 = 0 := rfl
        rw [htwelve] at hsucc hlast hday
        simp only [dayNumber_eq, yearStart_succ, htwelve, hfirst]
        omega

theorem ofDays_succ (n : Int) : (ofDays n).tomorrow = ofDays (n + 1) := by
  obtain ⟨hreal, hnumber⟩ := tomorrow_spec (isReal_ofDays n)
  refine dayNumber_injective hreal (isReal_ofDays _) ?_
  rw [hnumber, dayNumber_ofDays, dayNumber_ofDays]

theorem iterate_tomorrow (k : Nat) (n : Int) : tomorrow^[k] (ofDays n) = ofDays (n + k) := by
  induction k with
  | zero => simp
  | succ k ih =>
    rw [Function.iterate_succ_apply', ih, ofDays_succ, Int.natCast_succ, Int.add_assoc]

/-- Days are counted by their numbers. -/
theorem isAfter_iff {d e : Date} (hd : d.IsReal) (he : e.IsReal) (n : Int) :
    d.IsAfter n e ↔ d.dayNumber = e.dayNumber + n := by
  have hfrom : tomorrow^[n.toNat] e = ofDays (e.dayNumber + n.toNat) := by
    rw [← iterate_tomorrow, ofDays_dayNumber he]
  have hto : tomorrow^[(-n).toNat] d = ofDays (d.dayNumber + (-n).toNat) := by
    rw [← iterate_tomorrow, ofDays_dayNumber hd]
  rw [IsAfter, hfrom, hto]
  constructor
  · intro h
    have hnumber := congrArg dayNumber h
    rw [dayNumber_ofDays, dayNumber_ofDays] at hnumber
    omega
  · intro h
    congr 1
    omega

/-! ### Days from the first day of 1970 -/

theorem isReal_epochDate : epochDate.IsReal := by decide

theorem dayNumber_epochDate : epochDate.dayNumber = epoch := by decide

/-- The date that is so many days after the first day of 1970, and there is no other. -/
theorem isAfter_epochDate_iff {d : Date} {n : Int} :
    (d.IsReal ∧ d.IsAfter n epochDate) ↔ d = ofDays (epoch + n) := by
  constructor
  · rintro ⟨hreal, hafter⟩
    rw [isAfter_iff hreal isReal_epochDate, dayNumber_epochDate] at hafter
    rw [← hafter, ofDays_dayNumber hreal]
  · rintro rfl
    refine ⟨isReal_ofDays _, ?_⟩
    rw [isAfter_iff (isReal_ofDays _) isReal_epochDate, dayNumber_ofDays, dayNumber_epochDate]

/-- The years that have dates. -/
def HasDates (year : Int) : Prop :=
  firstYear ≤ year ∧ year ≤ lastYear

instance (year : Int) : Decidable (HasDates year) :=
  inferInstanceAs (Decidable (_ ∧ _))

theorem ofEpochDays?_eq {d : Date} {n : Int} (hd : d.IsReal) (h : d.IsAfter n epochDate) :
    ofEpochDays? n = if HasDates d.year then some d else none := by
  rw [isAfter_epochDate_iff.mp ⟨hd, h⟩]
  exact if_congr (by simp [HasDates]) rfl rfl

/-- The days that have dates. -/
theorem hasDates_iff {d : Date} {n : Int} (hd : d.IsReal) (h : d.IsAfter n epochDate) :
    HasDates d.year ↔ -96465292 ≤ n ∧ n < 95026237 := by
  obtain ⟨hlow, -, hhigh⟩ := dayNumber_bounds hd
  rw [isAfter_iff hd isReal_epochDate, dayNumber_epochDate, epoch] at h
  have hfirst : yearStart firstYear = -95746130 := by decide
  have hlast : yearStart (lastYear + 1) = 95745399 := by decide
  constructor
  · rintro ⟨hyear, hyear'⟩
    have hstart := yearStart_mono hyear
    have hend := yearStart_mono (Int.add_le_add_right hyear' 1)
    omega
  · rintro ⟨hn, hn'⟩
    constructor
    · by_contra hyear
      have hstart := yearStart_mono (show d.year + 1 ≤ firstYear by omega)
      omega
    · by_contra hyear
      have hend := yearStart_mono (show lastYear + 1 ≤ d.year by omega)
      omega

end Date

end SqlScript
