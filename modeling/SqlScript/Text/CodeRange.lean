/-!
# Sets of code points as lists of ranges

A character class of the Unicode standard is a long list of closed ranges in
ascending order.  `CodeRange.contains` looks a code point up in such a list and
stops at the first range that begins above it, so that small code points are
decided after a few comparisons.  `contains_eq_any` says that for an ascending
list the early stop loses nothing.
-/

namespace SqlScript

/-- A closed range of code points, first and last. -/
abbrev CodeRange := Nat × Nat

namespace CodeRange

/-- Whether a code point lies in one of the ranges of an ascending list. -/
def contains : List CodeRange → Nat → Bool
  | [], _ => false
  | (first, last) :: rest, n =>
    if n < first then false else if n ≤ last then true else contains rest n

/-- Each range of the list ends before the next begins. -/
def Ascending : List CodeRange → Prop
  | [] => True
  | range :: rest => range.1 ≤ range.2 ∧ (∀ r ∈ rest, range.2 < r.1) ∧ Ascending rest

theorem contains_eq_any {ranges : List CodeRange} (h : Ascending ranges) (n : Nat) :
    contains ranges n = ranges.any fun r => r.1 ≤ n && n ≤ r.2 := by
  induction ranges with
  | nil => rfl
  | cons range rest ih =>
    obtain ⟨first, last⟩ := range
    obtain ⟨hle, hlt, hrest⟩ := h
    simp only at hle hlt
    by_cases hn : n < first
    · have hnone : ∀ r ∈ rest, ¬ r.1 ≤ n := fun r hr => by
        have := hlt r hr
        omega
      have : (rest.any fun r => r.1 ≤ n && n ≤ r.2) = false := by
        simpa using fun a b hab h' => absurd h' (hnone (a, b) hab)
      simp [contains, hn, this, Nat.not_le.mpr hn]
    · by_cases hl : n ≤ last
      · simp [contains, hn, hl, Nat.not_lt.mp hn]
      · simp [contains, hn, hl, ih hrest]

end CodeRange

end SqlScript
