import Mathlib.Data.Nat.Digits.Defs
import SqlScript.Proofs.CalendarDays
import SqlScript.Value

/-!
# Dates, times and instants as texts

A day is shown by its date, an instant by the date of its day and the clock time within it, and
what has no date by its number.  No two of these texts are confused.

* `Date.read?`, `read?_text` — a reader of dates, which takes every date back from its text;
* `clockText_injective` — a clock time is read back from its text;
* `integerText_eq` — a number is shown by its decimals, which are no date and no clock time;
* `dateText_eq`, `timestampText_eq` — the texts of days and instants by their dates;
* `timeText_eq` — the text of a time of day: seconds and nanoseconds are taken as words of 32
  bits, so that the clock starts again after as many seconds as there are words;
* `instants_shown` — an instant is shown by its day and its time, and the day can be read.
-/

namespace SqlScript

namespace Decimal

theorem ofDigitChars_padded (width n : Nat) : Nat.ofDigitChars 10 (padded width n) 0 = n := by
  rw [padded, digits, Nat.ofDigitChars_append, Nat.ofDigitChars_replicate_zero, Nat.mul_zero,
    Nat.ofDigitChars_ten_toDigits]

theorem padded_injective {width m n : Nat} (h : padded width m = padded width n) : m = n := by
  calc
    m = Nat.ofDigitChars 10 (padded width m) 0 := (ofDigitChars_padded width m).symm
    _ = Nat.ofDigitChars 10 (padded width n) 0 := by rw [h]
    _ = n := ofDigitChars_padded width n

theorem length_padded {width n : Nat} (hwidth : 0 < width) (h : n < 10 ^ width) :
    (padded width n).length = width := by
  have hdigits : (digits n).length ≤ width :=
    (Nat.length_toDigits_le_iff (by decide) hwidth).mpr h
  rw [padded, List.length_append, List.length_replicate]
  omega

theorem isDigit_of_mem_digits {n : Nat} {c : Char} (h : c ∈ digits n) : c.isDigit = true :=
  Nat.isDigit_of_mem_toDigits (by decide) (by decide) h

theorem isDigit_of_mem_padded {width n : Nat} {c : Char} (h : c ∈ padded width n) :
    c.isDigit = true := by
  rw [padded, List.mem_append, List.mem_replicate] at h
  rcases h with ⟨-, rfl⟩ | h
  · decide
  · exact isDigit_of_mem_digits h

theorem padded_ne_nil (width n : Nat) : padded width n ≠ [] := by
  simp [padded, digits, Nat.toDigits_ne_nil]

end Decimal

namespace Date

/-! ### Texts of dates -/

theorem yearText_cases (year : Int) :
    (year < 0 ∧ yearText year = '-' :: Decimal.padded 4 year.natAbs) ∨
      (9999 < year ∧ yearText year = '+' :: Decimal.padded 4 year.natAbs) ∨
      (0 ≤ year ∧ yearText year = Decimal.padded 4 year.natAbs) := by
  unfold yearText
  split
  next h => exact .inl ⟨h, rfl⟩
  next h =>
    split
    next hlarge => exact .inr (.inl ⟨hlarge, rfl⟩)
    next => exact .inr (.inr ⟨by omega, rfl⟩)

theorem padded_ne_sign {n : Nat} {sign : Char} {rest : List Char} (h : sign.isDigit = false) :
    Decimal.padded 4 n ≠ sign :: rest := by
  intro heq
  have hmem : sign ∈ Decimal.padded 4 n := heq ▸ List.mem_cons_self
  rw [Decimal.isDigit_of_mem_padded hmem] at h
  exact Bool.noConfusion h

/-! ### Reading dates -/

/-- The number that digits stand for. -/
def readNumber? (s : List Char) : Option Nat :=
  if s ≠ [] ∧ s.all Char.isDigit then some (Nat.ofDigitChars 10 s 0) else none

/-- Year, month and day, with hyphens between them; the year is before the year 0 if so told. -/
def readFields? (before : Bool) (text : List Char) : Option Date :=
  match (text.splitOn '-').map readNumber? with
  | [some year, some month, some day] =>
    some { year := if before then -year else year, month, day }
  | _ => none

/-- Reads a date.  The year may have a sign. -/
def read? : List Char → Option Date
  | '-' :: text => readFields? true text
  | '+' :: text => readFields? false text
  | text => readFields? false text

theorem readNumber?_padded (width n : Nat) : readNumber? (Decimal.padded width n) = some n := by
  have hdigits : (Decimal.padded width n).all Char.isDigit = true :=
    List.all_eq_true.mpr fun _ h => Decimal.isDigit_of_mem_padded h
  rw [readNumber?, if_pos ⟨Decimal.padded_ne_nil width n, hdigits⟩, Decimal.ofDigitChars_padded]

theorem readFields?_padded (before : Bool) (year month day : Nat) :
    readFields? before (Decimal.padded 4 year ++ '-' :: (Decimal.padded 2 month ++
      '-' :: Decimal.padded 2 day)) =
        some { year := if before then -year else year, month, day } := by
  have hfields : ∀ field ∈ [Decimal.padded 4 year, Decimal.padded 2 month, Decimal.padded 2 day],
      '-' ∉ field := by
    intro field hfield hmem
    have hdigit : ('-' : Char).isDigit = true := by
      simp only [List.mem_cons, List.not_mem_nil, or_false] at hfield
      rcases hfield with rfl | rfl | rfl <;> exact Decimal.isDigit_of_mem_padded hmem
    simp at hdigit
  have hsplit := List.splitOn_intercalate '-' hfields (List.cons_ne_nil _ _)
  simp only [List.intercalate, List.intersperse, List.flatten_cons, List.flatten_nil,
    List.append_nil, List.singleton_append] at hsplit
  simp only [readFields?, hsplit, List.map_cons, List.map_nil, readNumber?_padded]

/-- **A date is read back from its text.** -/
theorem read?_text (d : Date) : read? d.text = some d := by
  obtain ⟨year, month, day⟩ := d
  rcases yearText_cases year with ⟨hyear, htext⟩ | ⟨hyear, htext⟩ | ⟨hyear, htext⟩
  · have habs : -(year.natAbs : Int) = year := by omega
    rw [text, htext, List.cons_append, read?, readFields?_padded, if_pos rfl, habs]
  · have habs : (year.natAbs : Int) = year := by omega
    rw [text, htext, List.cons_append, read?, readFields?_padded, if_neg Bool.false_ne_true, habs]
  · have habs : (year.natAbs : Int) = year := by omega
    obtain ⟨digit, digits, hdigits⟩ :=
      List.exists_cons_of_ne_nil (Decimal.padded_ne_nil 4 year.natAbs)
    have hsign : digit ≠ '-' ∧ digit ≠ '+' := by
      constructor <;> rintro rfl <;> exact padded_ne_sign rfl hdigits
    have hread : read? (text ⟨year, month, day⟩) = readFields? false (text ⟨year, month, day⟩) := by
      rw [text, htext, hdigits, List.cons_append, read?]
      · exact fun _ h => hsign.1 (List.cons.inj h).1
      · exact fun _ h => hsign.2 (List.cons.inj h).1
    rw [hread, text, htext, readFields?_padded, if_neg Bool.false_ne_true, habs]

theorem text_injective {d e : Date} (h : d.text = e.text) : d = e :=
  Option.some.inj ((read?_text d).symm.trans (h ▸ read?_text e))

theorem yearText_ne_nil (year : Int) : yearText year ≠ [] := by
  unfold yearText
  split
  · exact List.cons_ne_nil _ _
  · split
    · exact List.cons_ne_nil _ _
    · exact Decimal.padded_ne_nil _ _

/-- In the text of a date a hyphen follows the year. -/
theorem hyphen_mem_text (d : Date) : '-' ∈ d.text.tail := by
  obtain ⟨c, rest, h⟩ := List.exists_cons_of_ne_nil (yearText_ne_nil d.year)
  simp [text, h]

end Date

/-! ### Texts of clock times -/

theorem length_clockText {s : Nat} (h : s < 86400) : (clockText s).length = 8 := by
  have hhours : (Decimal.padded 2 (s / 3600)).length = 2 :=
    Decimal.length_padded (by decide) (by omega)
  have hminutes : (Decimal.padded 2 (s / 60 % 60)).length = 2 :=
    Decimal.length_padded (by decide) (by omega)
  have hseconds : (Decimal.padded 2 (s % 60)).length = 2 :=
    Decimal.length_padded (by decide) (by omega)
  simp [clockText, hhours, hminutes, hseconds]

/-- A second of the day is read back from its clock time. -/
theorem clockText_injective {s t : Nat} (hs : s < 86400) (ht : t < 86400)
    (h : clockText s = clockText t) : s = t := by
  have hlength : ∀ {m n : Nat}, m < 100 → n < 100 →
      (Decimal.padded 2 m).length = (Decimal.padded 2 n).length := by
    intro m n hm hn
    rw [Decimal.length_padded (by decide) hm, Decimal.length_padded (by decide) hn]
  obtain ⟨hhours, hrest⟩ := List.append_inj h (hlength (by omega) (by omega))
  obtain ⟨hminutes, hlast⟩ :=
    List.append_inj (List.cons.inj hrest).2 (hlength (by omega) (by omega))
  have hhour := Decimal.padded_injective hhours
  have hminute := Decimal.padded_injective hminutes
  have hsecond := Decimal.padded_injective (List.cons.inj hlast).2
  omega

theorem colon_mem_clockText (s : Nat) : ':' ∈ clockText s := by
  simp [clockText]

namespace Value

open Date

/-! ### Decimals -/

theorem integerText_eq (n : Int) :
    integerText n = if n < 0 then '-' :: Decimal.digits n.natAbs else Decimal.digits n.natAbs := by
  simp [integerText, Decimal.signedPositional, Decimal.positional]

/-- The text of a number is the number in decimals. -/
theorem ofList_integerText (n : Int) : String.ofList (integerText n) = toString n := by
  rw [integerText_eq]
  cases n with
  | ofNat m => rfl
  | negSucc m =>
    rw [if_pos (Int.negSucc_lt_zero m)]
    exact (String.ofList_append : String.ofList (['-'] ++ Decimal.digits (m + 1)) = _)

/-- Behind its first character a number has only digits. -/
theorem isDigit_of_mem_tail_integerText {n : Int} {c : Char} (h : c ∈ (integerText n).tail) :
    c.isDigit = true := by
  rw [integerText_eq] at h
  split at h
  · exact Decimal.isDigit_of_mem_digits h
  · exact Decimal.isDigit_of_mem_digits (List.mem_of_mem_tail h)

theorem text_ne_integerText (d : Date) (n : Int) : d.text ≠ integerText n := by
  intro h
  have hdigit := isDigit_of_mem_tail_integerText (h ▸ hyphen_mem_text d)
  simp at hdigit

theorem colon_not_mem_integerText (n : Int) : ':' ∉ integerText n := by
  intro h
  rw [integerText_eq] at h
  split at h
  · rcases List.mem_cons.mp h with h | h
    · simp at h
    · have hdigit := Decimal.isDigit_of_mem_digits h
      simp at hdigit
  · have hdigit := Decimal.isDigit_of_mem_digits h
    simp at hdigit

/-! ### Days and instants -/

theorem dateText_eq {d : Date} {n : Int} (hd : d.IsReal) (h : d.IsAfter n epochDate) :
    dateText n = if HasDates d.year then d.text else integerText n := by
  rw [dateText, ofEpochDays?_eq hd h]
  by_cases hyear : HasDates d.year
  · simp only [if_pos hyear]
  · simp only [if_neg hyear]

/-- A day that is shown by its date is the only one that is shown so. -/
theorem dateText_injective {d : Date} {m n : Int} (hd : d.IsReal) (h : d.IsAfter m epochDate)
    (hyear : HasDates d.year) (heq : dateText n = dateText m) : n = m := by
  obtain ⟨he, hafter⟩ := isAfter_epochDate_iff.mpr (rfl : ofDays (epoch + n) = _)
  rw [dateText_eq hd h, if_pos hyear, dateText_eq he hafter] at heq
  split at heq
  · have hsame := text_injective heq
    rw [isAfter_iff hd isReal_epochDate] at h
    rw [isAfter_iff he isReal_epochDate, hsame] at hafter
    omega
  · exact absurd heq.symm (text_ne_integerText _ _)

theorem timestampText_eq (micros : Int) {d : Date} (hd : d.IsReal)
    (h : d.IsAfter (micros / 1000000 / 86400) epochDate) :
    timestampText micros =
      if HasDates d.year then d.text ++ ' ' :: clockText (micros / 1000000 % 86400).toNat
      else integerText micros := by
  rw [timestampText, ofEpochDays?_eq hd h]
  by_cases hyear : HasDates d.year
  · simp only [if_pos hyear]
  · simp only [if_neg hyear]

/-! ### Times of day -/

theorem isTimeOfDay_iff {seconds nanos : Nat} (h : nanos < 1000000000 ∨ 2000000000 ≤ nanos) :
    isTimeOfDay seconds nanos = true ↔ seconds < 86400 ∧ nanos < 1000000000 := by
  simp only [isTimeOfDay, Bool.and_eq_true, Bool.or_eq_true, decide_eq_true_eq]
  omega

theorem tdiv_eq (n k : Int) : n.tdiv k = if 0 ≤ n then n / k else -(-n / k) := by
  split
  next h => exact Int.tdiv_eq_ediv_of_nonneg h
  next h =>
    rw [← Int.tdiv_eq_ediv_of_nonneg (show 0 ≤ -n by omega), Int.neg_tdiv, Int.neg_neg]

/-- The nanoseconds of a fraction of a second as a word of 32 bits. -/
theorem nanos_eq {rest : Int} (hlow : -1000000 < rest) (hhigh : rest < 1000000) :
    rest * 1000 % wordCount = if 0 ≤ rest then rest * 1000 else rest * 1000 + 4294967296 := by
  rw [wordCount]
  split
  · exact Int.emod_eq_of_lt (by omega) (by omega)
  · rw [← Int.add_emod_right]
    exact Int.emod_eq_of_lt (by omega) (by omega)

/-- What a number of microseconds is shown as.  A negative fraction of a second is too large a
word to be one of a time of day. -/
theorem timeText_eq (micros : Int) :
    timeText micros =
      if micros.tdiv 1000000 % 4294967296 < 86400 ∧ 0 ≤ micros.tmod 1000000 then
        clockText (micros.tdiv 1000000 % 4294967296).toNat
      else integerText micros := by
  have hrest := Int.tmod_def micros 1000000
  rw [tdiv_eq] at hrest
  have hbounds : -1000000 < micros.tmod 1000000 ∧ micros.tmod 1000000 < 1000000 := by
    split at hrest <;> omega
  have hword := nanos_eq hbounds.1 hbounds.2
  have hnanos : (micros.tmod 1000000 * 1000 % wordCount).toNat < 1000000000 ∨
      2000000000 ≤ (micros.tmod 1000000 * 1000 % wordCount).toNat := by
    split at hword <;> omega
  refine if_congr ((isTimeOfDay_iff hnanos).trans ?_) rfl rfl
  rw [hword, wordCount]
  split <;> omega

/-- How long a clock runs whose seconds are counted by words of 32 bits, in microseconds. -/
def turnMicros : Int := 4294967296000000

/-- A number of microseconds that is no negative fraction of a second lies in the day that
begins after so many turns of the clock. -/
def TurnsTo (micros turns : Int) : Prop :=
  turns * turnMicros ≤ micros ∧ micros < turns * turnMicros + 86400000000 ∧
    (0 ≤ micros ∨ 1000000 ∣ micros)

instance (micros turns : Int) : Decidable (TurnsTo micros turns) :=
  inferInstanceAs (Decidable (_ ∧ _ ∧ _))

theorem timeText_of_turnsTo {micros turns : Int} (h : TurnsTo micros turns) :
    timeText micros = clockText ((micros - turns * turnMicros) / 1000000).toNat := by
  obtain ⟨hlow, hhigh, hwhole⟩ := h
  rw [turnMicros] at *
  have hrest := Int.tmod_def micros 1000000
  rw [timeText_eq, if_pos]
  · rw [tdiv_eq]
    congr 2
    split <;> omega
  · rw [hrest, tdiv_eq]
    split <;> omega

theorem timeText_of_not_turnsTo {micros : Int} (h : ∀ turns, ¬ TurnsTo micros turns) :
    timeText micros = integerText micros := by
  have hrest := Int.tmod_def micros 1000000
  rw [timeText_eq, if_neg]
  rintro ⟨hday, hwhole⟩
  rw [tdiv_eq] at hday hrest
  refine h (micros.tdiv 1000000 / 4294967296) ?_
  rw [TurnsTo, turnMicros, tdiv_eq]
  split at hday
  next hpos =>
    rw [if_pos hpos] at hrest ⊢
    omega
  next hneg =>
    rw [if_neg hneg] at hrest ⊢
    omega

/-- Microseconds within a day are shown as the clock time of their second. -/
theorem timeText_of_clock {micros : Int} (hlow : 0 ≤ micros) (hhigh : micros < 86400000000) :
    timeText micros = clockText (micros / 1000000).toNat := by
  have hday : TurnsTo micros 0 := ⟨by omega, by omega, .inl hlow⟩
  rw [timeText_of_turnsTo hday, Int.zero_mul, Int.sub_zero]

/-! ### Days and instants together -/

/-- **An instant is shown by its day and the time of that day.**  The instant is a number of
microseconds since the first instant of 1970, its day the one of the calendar that is so many
days after the first of 1970.  If the year of that day has dates, the day is shown by its date,
which is read back from it and which no other day shows, and the instant by the day and by what is left of the instant as a
time of day.  Otherwise both are shown by their numbers. -/
theorem instants_shown (m : Int64) :
    ∃ (day : Int32) (rest : Int64) (d : Date), day.toInt = m.toInt / 86400000000 ∧
      rest.toInt = m.toInt - 86400000000 * day.toInt ∧
      d.IsReal ∧ d.IsAfter day.toInt epochDate ∧
        if HasDates d.year then
          (date day).display = String.ofList d.text ∧
            read? (date day).display.toList = some d ∧
            (timestamp .microsecond m).display =
              (date day).display ++ " " ++ (time .microsecond rest).display ∧
            ∀ e : Int32, (date e).display = (date day).display → e = day
        else
          (date day).display = toString day.toInt ∧
            (timestamp .microsecond m).display = toString m.toInt := by
  have hlow := m.le_toInt
  have hhigh := m.toInt_lt
  obtain ⟨day, hday⟩ : ∃ day : Int32, day.toInt = m.toInt / 86400000000 :=
    ⟨_, Int32.toInt_ofInt_of_le (by omega) (by omega)⟩
  obtain ⟨rest, hrest⟩ : ∃ rest : Int64, rest.toInt = m.toInt % 86400000000 :=
    ⟨_, Int64.toInt_ofInt_of_le (by omega) (by omega)⟩
  obtain ⟨hd, hafter⟩ := isAfter_epochDate_iff.mpr (rfl : ofDays (epoch + day.toInt) = _)
  have hdate := dateText_eq hd hafter
  have hseconds : day.toInt = m.toInt / 1000000 / 86400 := by omega
  have hinstant := timestampText_eq m.toInt hd (hseconds ▸ hafter)
  refine ⟨day, rest, _, hday, by omega, hd, hafter, ?_⟩
  split
  next hyear =>
    rw [if_pos hyear] at hdate hinstant
    have htime : timeText rest.toInt = clockText (m.toInt / 1000000 % 86400).toNat := by
      rw [timeText_of_clock (by omega) (by omega)]
      congr 2
      omega
    have hdisplay : (date day).display = String.ofList (ofDays (epoch + day.toInt)).text :=
      congrArg String.ofList hdate
    refine ⟨hdisplay, ?_, ?_, ?_⟩
    · rw [hdisplay, String.toList_ofList, read?_text]
    · show String.ofList (timestampText m.toInt) =
        String.ofList (dateText day.toInt) ++ String.ofList [' '] ++
          String.ofList (timeText rest.toInt)
      rw [hinstant, hdate, htime, ← String.ofList_append, ← String.ofList_append,
        List.append_assoc, List.singleton_append]
    · intro e he
      have hsame := dateText_injective hd hafter hyear (String.ofList_inj.mp he)
      exact Int32.toInt_inj.mp hsame
  next hyear =>
    rw [if_neg hyear] at hdate hinstant
    exact ⟨(congrArg String.ofList hdate).trans (ofList_integerText _),
      (congrArg String.ofList hinstant).trans (ofList_integerText _)⟩

/-- The last microsecond before 1970, and the day that alone is shown as its date. -/
theorem instants_shown_eve :
    (timestamp .microsecond (-1)).display =
        (date (-1)).display ++ " " ++ (time .microsecond 86399999999).display ∧
      ∀ e : Int32, (date e).display = (date (-1)).display → e = -1 := by
  obtain ⟨day, rest, d, hday, hrest, hd, hafter, hshown⟩ := instants_shown (-1)
  obtain rfl : day = -1 := Int32.toInt_inj.mp (hday.trans (by decide))
  obtain rfl : rest = 86399999999 := Int64.toInt_inj.mp (hrest.trans (by decide))
  have hdate : d = ofDays (epoch + (-1)) := isAfter_epochDate_iff.mp ⟨hd, hafter⟩
  have hyear : HasDates d.year := by
    rw [hdate]
    decide
  rw [if_pos hyear] at hshown
  exact ⟨hshown.2.2.1, hshown.2.2.2⟩

end Value

end SqlScript
