import SqlScript.Text.CodeRange

/-!
# White space and trimming

A character is blank when it has the property White_Space.  Trimming works on
lists of characters.  Of a text in two parts the blank one is trimmed away
(`trimStart_append_blank`, `trimEnd_append_blank`), and what is no blank keeps
the part behind it or before it (`trimStart_append_text`, `trimEnd_append_text`).
-/

namespace SqlScript.Blank

/-- Code points with the property White_Space. -/
def ranges : List CodeRange :=
  [(0x9, 0xd), (0x20, 0x20), (0x85, 0x85), (0xa0, 0xa0), (0x1680, 0x1680), (0x2000, 0x200a),
   (0x2028, 0x2029), (0x202f, 0x202f), (0x205f, 0x205f), (0x3000, 0x3000)]

def isBlank (c : Char) : Bool :=
  CodeRange.contains ranges c.toNat

/-- Whether a text holds nothing but blanks. -/
def allBlank (s : List Char) : Bool :=
  s.all isBlank

def trimStart (s : List Char) : List Char :=
  s.dropWhile isBlank

def trimEnd (s : List Char) : List Char :=
  (s.reverse.dropWhile isBlank).reverse

def trim (s : List Char) : List Char :=
  trimEnd (trimStart s)

theorem trimStart_eq_nil_iff (s : List Char) : trimStart s = [] ↔ allBlank s = true := by
  induction s with
  | nil => exact ⟨fun _ => rfl, fun _ => rfl⟩
  | cons c s ih =>
    rw [trimStart, allBlank, List.all_cons]
    by_cases h : isBlank c = true
    · rw [List.dropWhile_cons_of_pos h, h, Bool.true_and]
      exact ih
    · rw [List.dropWhile_cons_of_neg h, Bool.and_eq_true]
      exact ⟨fun hnil => absurd hnil (List.cons_ne_nil c s), fun hall => absurd hall.1 h⟩

/-- What is left begins with a character that is not blank. -/
theorem trimStart_eq_cons {s : List Char} {c : Char} {t : List Char} (h : trimStart s = c :: t) :
    isBlank c = false := by
  induction s with
  | nil => simp [trimStart] at h
  | cons d s ih =>
    by_cases hd : isBlank d = true
    · exact ih (by simpa [trimStart, hd] using h)
    · simp [trimStart, hd] at h
      simpa [← h.1] using hd

theorem trimStart_cons_of_not_blank {c : Char} (h : isBlank c = false) (s : List Char) :
    trimStart (c :: s) = c :: s := by
  simp [trimStart, h]

theorem trimStart_trimStart (s : List Char) : trimStart (trimStart s) = trimStart s := by
  cases h : trimStart s with
  | nil => rfl
  | cons c t => exact trimStart_cons_of_not_blank (trimStart_eq_cons h) t

theorem allBlank_append (s t : List Char) : allBlank (s ++ t) = (allBlank s && allBlank t) := by
  simp [allBlank]

theorem trimStart_append_blank {s : List Char} (h : allBlank s = true) (t : List Char) :
    trimStart (s ++ t) = trimStart t := by
  rw [trimStart, trimStart, List.dropWhile_append_of_pos fun c hc => List.all_eq_true.mp h c hc]

theorem trimStart_append_text {s : List Char} (h : ¬allBlank s = true) (t : List Char) :
    trimStart (s ++ t) = trimStart s ++ t := by
  rw [trimStart, List.dropWhile_append, if_neg]
  · rfl
  · rw [List.isEmpty_iff]
    exact fun hs => h ((trimStart_eq_nil_iff s).mp hs)

theorem trimEnd_append_blank (s : List Char) {t : List Char} (h : allBlank t = true) :
    trimEnd (s ++ t) = trimEnd s := by
  have hreverse : allBlank t.reverse = true := by rwa [allBlank, List.all_reverse]
  rw [trimEnd, List.reverse_append]
  exact congrArg List.reverse (trimStart_append_blank hreverse s.reverse)

theorem trimEnd_append_text (s : List Char) {t : List Char} (h : ¬allBlank t = true) :
    trimEnd (s ++ t) = s ++ trimEnd t := by
  have hreverse : ¬allBlank t.reverse = true := by rwa [allBlank, List.all_reverse]
  have htrim := congrArg List.reverse (trimStart_append_text hreverse s.reverse)
  rw [List.reverse_append, List.reverse_reverse] at htrim
  rw [trimEnd, List.reverse_append]
  exact htrim

theorem trimEnd_of_blank {s : List Char} (h : allBlank s = true) : trimEnd s = [] :=
  trimEnd_append_blank [] h

/-- Up to a character that is not blank nothing is trimmed at the end. -/
theorem trimEnd_append_last {c : Char} (hc : isBlank c = false) (init s : List Char) :
    trimEnd (init ++ [c] ++ s) = init ++ [c] ++ trimEnd s := by
  have hlast : ¬allBlank [c] = true := by
    rw [allBlank, List.all_cons, hc]
    simp
  by_cases hs : allBlank s = true
  · have hkeep : trimEnd [c] = [c] := by
      rw [trimEnd, List.reverse_singleton, List.dropWhile_cons_of_neg (by rw [hc]; simp)]
      rfl
    rw [trimEnd_append_blank _ hs, trimEnd_append_text _ hlast, hkeep, trimEnd_of_blank hs,
      List.append_nil]
  · exact trimEnd_append_text _ hs

/-- Trimming at the end and at the beginning commute. -/
theorem trimStart_trimEnd (s : List Char) : trimStart (trimEnd s) = trim s := by
  induction s with
  | nil => rfl
  | cons c s ih =>
    cases hc : isBlank c with
    | true =>
      have htrim : trim (c :: s) = trim s := by
        rw [trim, trimStart, List.dropWhile_cons_of_pos hc]
        rfl
      by_cases hs : allBlank s = true
      · have hall : allBlank (c :: s) = true := by rwa [allBlank, List.all_cons, hc]
        rw [htrim, ← ih, trimEnd_of_blank hs, trimEnd_of_blank hall]
      · have hkeep := trimEnd_append_text [c] hs
        rw [List.singleton_append] at hkeep
        rw [htrim, ← ih, hkeep, List.singleton_append, trimStart, List.dropWhile_cons_of_pos hc]
        rfl
    | false =>
      have hkeep := trimEnd_append_last hc [] s
      rw [List.nil_append, List.singleton_append] at hkeep
      rw [trim, trimStart_cons_of_not_blank hc, hkeep, List.singleton_append,
        trimStart_cons_of_not_blank hc]

example : isBlank ' ' = true ∧ isBlank '\u00a0' = true ∧ isBlank '\u200b' = false := by decide

end SqlScript.Blank
