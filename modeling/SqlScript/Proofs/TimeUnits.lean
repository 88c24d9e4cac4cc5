import SqlScript.Proofs.DateTexts

/-!
# Instants and times of day in four units

A number of seconds, milliseconds, microseconds or nanoseconds is first made one of
microseconds, by cutting off a fraction and by limiting it to 64 bits, and then shown to the
second.

* `toMicros_eq` — the number of microseconds by the unit;
* `toMicros_ediv` — its second is the one that contains the instant, but for the last
  microsecond of a second before 1970 that a number of nanoseconds has not reached in full;
* `instants_to_the_second` — which second is shown, for every unit;
* `times_of_day_shown` — when a time is shown as a clock time.
-/

namespace SqlScript

namespace TimeUnit

open Value (tdiv_eq)

/-! ### Units -/

def perSecond : TimeUnit → Int
  | second => 1
  | millisecond => 1000
  | microsecond => 1000000
  | nanosecond => 1000000000

theorem perSecond_pos (unit : TimeUnit) : 0 < unit.perSecond := by
  cases unit <;> decide

/-- The second that contains an instant. -/
def secondOf (unit : TimeUnit) (n : Int64) : Int :=
  n.toInt / unit.perSecond

/-- A number as one of microseconds, without the fraction and within 64 bits. -/
def microsOf (unit : TimeUnit) (n : Int64) : Int :=
  saturate ((n.toInt * 1000000).tdiv unit.perSecond)

theorem saturate_of_mem {n : Int} (hlow : -2 ^ 63 ≤ n) (hhigh : n < 2 ^ 63) : saturate n = n := by
  have hmin : Int64.minValue.toInt = -2 ^ 63 := by decide
  have hmax : Int64.maxValue.toInt = 2 ^ 63 - 1 := by decide
  rw [saturate, hmin, hmax]
  omega

theorem toMicros_eq (unit : TimeUnit) (n : Int64) : unit.toMicros n = unit.microsOf n := by
  have hlow := n.le_toInt
  have hhigh := n.toInt_lt
  cases unit with
  | second => simp [toMicros, microsOf, perSecond]
  | millisecond =>
    have hthousand : n.toInt * 1000000 = n.toInt * 1000 * 1000 := by omega
    rw [microsOf, perSecond, hthousand, Int.mul_tdiv_cancel _ (by decide)]
    rfl
  | microsecond =>
    rw [microsOf, perSecond, Int.mul_tdiv_cancel _ (by decide), saturate_of_mem hlow hhigh]
    rfl
  | nanosecond =>
    have hbillion : (n.toInt * 1000000).tdiv 1000000000 = n.toInt.tdiv 1000 :=
      Int.mul_tdiv_mul_of_pos_left n.toInt 1000 (by decide)
    rw [microsOf, perSecond, hbillion, toMicros, saturate_of_mem]
    · rw [tdiv_eq]
      split <;> omega
    · rw [tdiv_eq]
      split <;> omega

/-- A number of nanoseconds before 1970 that is less than a microsecond away from the end of
its second. -/
def EndsSecond (unit : TimeUnit) (n : Int64) : Prop :=
  unit = nanosecond ∧ n.toInt < 0 ∧ 999999000 < n.toInt % 1000000000

instance (unit : TimeUnit) (n : Int64) : Decidable (EndsSecond unit n) :=
  inferInstanceAs (Decidable (_ ∧ _ ∧ _))

theorem secondOf_bounds {unit : TimeUnit} {n : Int64} (h : EndsSecond unit n) :
    -9223372037 ≤ unit.secondOf n ∧ unit.secondOf n < 0 := by
  obtain ⟨rfl, hnegative, -⟩ := h
  have hlow := n.le_toInt
  simp only [secondOf, perSecond]
  omega

/-- Numbers of seconds that fit into 64 bits as microseconds are not limited. -/
theorem microsOf_of_secondOf {unit : TimeUnit} {n : Int64}
    (hlow : -9223372036854 ≤ unit.secondOf n) (hhigh : unit.secondOf n < 9223372036854) :
    unit.microsOf n = (n.toInt * 1000000).tdiv unit.perSecond := by
  rw [microsOf, tdiv_eq]
  cases unit <;> simp only [secondOf, perSecond] at * <;> split <;>
    exact saturate_of_mem (by omega) (by omega)

/-- The fraction that is cut off leads to the next second only from its very end. -/
theorem toMicros_ediv {unit : TimeUnit} {n : Int64}
    (h : -96465292 ≤ unit.secondOf n / 86400 ∧ unit.secondOf n / 86400 < 95026237) :
    unit.toMicros n / 1000000 =
      if EndsSecond unit n then unit.secondOf n + 1 else unit.secondOf n := by
  rw [toMicros_eq, microsOf_of_secondOf (by omega) (by omega), tdiv_eq]
  cases unit with
  | nanosecond =>
    simp only [secondOf, perSecond, EndsSecond, true_and]
    split <;> split <;> omega
  | second | millisecond | microsecond =>
    simp only [secondOf, perSecond, EndsSecond, reduceCtorEq, false_and, if_false]
    split <;> omega

end TimeUnit

namespace Value

open Date TimeUnit

/-! ### Instants -/

/-- Instants of one second that has a date are shown alike. -/
theorem timestampText_congr {m n : Int} (h : m / 1000000 = n / 1000000)
    (hlow : -96465292 ≤ n / 1000000 / 86400) (hhigh : n / 1000000 / 86400 < 95026237) :
    timestampText m = timestampText n := by
  obtain ⟨hd, hafter⟩ := isAfter_epochDate_iff.mpr (rfl : ofDays (epoch + n / 1000000 / 86400) = _)
  have hyear := (hasDates_iff hd hafter).mpr ⟨hlow, hhigh⟩
  rw [timestampText_eq _ hd hafter, timestampText_eq _ hd (h ▸ hafter), if_pos hyear, if_pos hyear, h]

/-- No instant is shown with the clock time of another second of the day. -/
theorem timestampText_ne {second n : Int} (d : Date)
    (hne : n / 1000000 % 86400 ≠ second % 86400) :
    timestampText n ≠ d.text ++ ' ' :: clockText (second % 86400).toNat := by
  intro heq
  obtain ⟨he, hafter⟩ :=
    isAfter_epochDate_iff.mpr (rfl : ofDays (epoch + n / 1000000 / 86400) = _)
  rw [timestampText_eq _ he hafter] at heq
  have hlength : ∀ k : Int, (clockText (k % 86400).toNat).length = 8 := fun k =>
    length_clockText (by omega)
  split at heq
  · obtain ⟨-, htime⟩ := List.append_inj' heq (by simp [hlength])
    have hsame := clockText_injective (by omega) (by omega) (List.cons.inj htime).2
    omega
  · refine colon_not_mem_integerText n (heq ▸ ?_)
    simp [colon_mem_clockText]

/-- **Every instant is shown by the second that contains it, but for the ends of seconds before
1970.**  The instant is a number of some unit since the first instant of 1970, and `d` is the
date of its day.  It is shown by this date and the clock time of the second that contains it,
unless it is a number of nanoseconds before 1970 less than a microsecond away from the next
second; then it is shown as that second is.  So instants of any units within one second are
shown alike if they are no such ends. -/
theorem instants_to_the_second (unit : TimeUnit) (n : Int64) {d : Date} (hd : d.IsReal)
    (hafter : d.IsAfter (unit.secondOf n / 86400) epochDate) (hyear : HasDates d.year) :
    ((timestamp unit n).display =
        String.ofList (d.text ++ ' ' :: clockText (unit.secondOf n % 86400).toNat) ↔
      ¬ EndsSecond unit n) ∧
    (EndsSecond unit n → (timestamp unit n).display =
      (timestamp .second (Int64.ofInt (unit.secondOf n + 1))).display) ∧
    ∀ (other : TimeUnit) (m : Int64), other.secondOf m = unit.secondOf n →
      ¬ EndsSecond unit n → ¬ EndsSecond other m →
      (timestamp other m).display = (timestamp unit n).display := by
  have hrange := (hasDates_iff hd hafter).mp hyear
  -- What an instant of this second is shown as, whatever its unit.
  have hshown : ∀ (other : TimeUnit) (m : Int64), other.secondOf m = unit.secondOf n →
      ¬ EndsSecond other m → timestampText (other.toMicros m) =
        d.text ++ ' ' :: clockText (unit.secondOf n % 86400).toNat := by
    intro other m hsecond hends
    have hmicros : other.toMicros m / 1000000 = unit.secondOf n := by
      rw [toMicros_ediv (by rwa [hsecond]), if_neg hends, hsecond]
    rw [timestampText_eq _ hd (by rwa [hmicros]), if_pos hyear, hmicros]
  have hends : EndsSecond unit n → unit.toMicros n / 1000000 = unit.secondOf n + 1 := fun h => by
    rw [toMicros_ediv hrange, if_pos h]
  refine ⟨⟨?_, ?_⟩, ?_, ?_⟩
  · intro hdisplay h
    have hsecond := hends h
    exact timestampText_ne d (by omega) (String.ofList_inj.mp hdisplay)
  · intro h
    exact congrArg String.ofList (hshown unit n rfl h)
  · intro h
    have hbounds := secondOf_bounds h
    have hnext : (Int64.ofInt (unit.secondOf n + 1)).toInt = unit.secondOf n + 1 :=
      Int64.toInt_ofInt_of_le (by omega) (by omega)
    have hmicros : TimeUnit.second.toMicros (Int64.ofInt (unit.secondOf n + 1)) / 1000000 =
        unit.secondOf n + 1 := by
      rw [toMicros, hnext, saturate_of_mem (by omega) (by omega)]
      omega
    refine congrArg String.ofList (timestampText_congr ?_ ?_ ?_)
    · rw [hends h, hmicros]
    · rw [hmicros]
      omega
    · rw [hmicros]
      omega
  · intro other m hsecond h hother
    show String.ofList _ = String.ofList _
    rw [hshown other m hsecond hother, hshown unit n rfl h]

/-- The last nanosecond before 1970 is shown as the first second of 1970, the last microsecond
as the last second of 1969. -/
theorem instants_to_the_second_eve :
    (timestamp .nanosecond (-1)).display = (timestamp .second 0).display ∧
      (timestamp .microsecond (-1)).display =
        String.ofList ((⟨1969, 12, 31⟩ : Date).text ++ ' ' :: clockText 86399) := by
  have hd : (⟨1969, 12, 31⟩ : Date).IsReal := by decide
  have hafter : (⟨1969, 12, 31⟩ : Date).IsAfter (-1) epochDate := by decide
  obtain ⟨-, hnext, -⟩ := instants_to_the_second .nanosecond (-1) hd hafter (by decide)
  obtain ⟨hshown, -⟩ := instants_to_the_second .microsecond (-1) hd hafter (by decide)
  exact ⟨hnext (by decide), hshown.mpr (by decide)⟩

/-- The last nanosecond before 1970 is not shown by the second that contains it. -/
theorem eve_shown_as_next_second :
    TimeUnit.nanosecond.secondOf (-1) = -1 ∧
      (timestamp .nanosecond (-1)).display = "1970-01-01 00:00:00" ∧
      (timestamp .second (-1)).display = "1969-12-31 23:59:59" := by
  decide +kernel

/-! ### Times of day -/

/-- A time of day lies in the day. -/
def InDay (unit : TimeUnit) (n : Int64) : Prop :=
  0 ≤ n.toInt ∧ n.toInt < 86400 * unit.perSecond

instance (unit : TimeUnit) (n : Int64) : Decidable (InDay unit n) :=
  inferInstanceAs (Decidable (_ ∧ _))

theorem microsOf_of_inDay {unit : TimeUnit} {n : Int64} (h : InDay unit n) :
    0 ≤ unit.microsOf n ∧ unit.microsOf n < 86400000000 ∧
      unit.microsOf n / 1000000 = unit.secondOf n := by
  obtain ⟨hlow, hhigh⟩ := h
  have hpos := unit.perSecond_pos
  have hfirst : 0 ≤ unit.secondOf n := Int.ediv_nonneg hlow (Int.le_of_lt hpos)
  have hlast : unit.secondOf n < 86400 := Int.ediv_lt_of_lt_mul hpos hhigh
  have hsecond : unit.microsOf n / 1000000 = unit.secondOf n := by
    rw [microsOf_of_secondOf (by omega) (by omega), Int.tdiv_eq_ediv_of_nonneg (by omega),
      Int.ediv_ediv_of_nonneg (Int.le_of_lt hpos), Int.mul_ediv_mul_of_pos_left _ _ (by decide)]
    rfl
  omega

/-- **A time of day is shown as a clock time, and so is a number that the clock turns to one.**
A number of some unit since midnight that lies in the day is shown by the clock time of the
second that contains it.  Any other one is shown as its number of microseconds, cut off and
limited to 64 bits, exactly if that number lies in no day that begins after turns of the clock,
or is a negative fraction of a second; if it does lie in one, the clock time of that day is
shown. -/
theorem times_of_day_shown (unit : TimeUnit) (n : Int64) :
    (InDay unit n →
      (time unit n).display = String.ofList (clockText (unit.secondOf n).toNat)) ∧
    (¬ InDay unit n →
      ((time unit n).display = toString (unit.microsOf n) ↔
        ∀ turns, ¬ TurnsTo (unit.microsOf n) turns) ∧
      ∀ turns, TurnsTo (unit.microsOf n) turns → (time unit n).display =
        String.ofList (clockText ((unit.microsOf n - turns * turnMicros) / 1000000).toNat)) := by
  have hdisplay : (time unit n).display = String.ofList (timeText (unit.microsOf n)) := by
    rw [← toMicros_eq]
    rfl
  rw [hdisplay, ← ofList_integerText, String.ofList_inj, String.ofList_inj]
  constructor
  · intro hday
    obtain ⟨hlow, hhigh, hsecond⟩ := microsOf_of_inDay hday
    rw [timeText_of_clock hlow hhigh, hsecond]
  · intro _
    refine ⟨⟨?_, timeText_of_not_turnsTo⟩, fun turns h =>
      congrArg String.ofList (timeText_of_turnsTo h)⟩
    intro heq turns h
    rw [timeText_of_turnsTo h] at heq
    exact colon_not_mem_integerText _ (heq ▸ colon_mem_clockText _)

/-- A clock that has gone round once, a fraction of a second before midnight, and a number
that is limited. -/
theorem times_of_day_shown_turned :
    (time .millisecond 86399999).display = String.ofList (clockText 86399) ∧
      (time .second 4294970957).display = String.ofList (clockText 3661) ∧
      (time .second Int64.maxValue).display = toString (TimeUnit.second.microsOf Int64.maxValue) := by
  obtain ⟨hday, -⟩ := times_of_day_shown .millisecond 86399999
  obtain ⟨-, hturned⟩ := times_of_day_shown .second 4294970957
  obtain ⟨-, hlimited⟩ := times_of_day_shown .second Int64.maxValue
  refine ⟨hday (by decide), ?_, ?_⟩
  · exact (hturned (by decide)).2 1 (by decide)
  · refine (hlimited (by decide)).1.mpr fun turns h => ?_
    have hmicros : TimeUnit.second.microsOf Int64.maxValue = 9223372036854775807 := by decide
    rw [hmicros, TurnsTo, turnMicros] at h
    omega

/-- A number of seconds that is no time of day is shown as a clock time. -/
theorem clock_of_words_of_seconds :
    ¬ InDay .second 4294967296 ∧ (time .second 4294967296).display = "00:00:00" ∧
      toString (TimeUnit.second.microsOf 4294967296) = "4294967296000000" := by
  decide +kernel

end Value

end SqlScript
