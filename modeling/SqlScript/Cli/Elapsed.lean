import SqlScript.Decimal.Positional
import SqlScript.Report.JsonText

/-!
# Measured times

A time that has passed is shown in the largest of the units s, ms, µs and ns in which
it is at least one, with three places, a half going to the even neighbour.  In JSON
it is a number of seconds.
-/

namespace SqlScript.Cli

/-- A measured time in its two forms. -/
structure Elapsed where
  /-- For people, with its unit. -/
  display : List Char
  /-- As a number of seconds. -/
  seconds : List Char
  deriving DecidableEq, Repr, Inhabited

namespace Elapsed

/-- The unit in which so many nanoseconds are shown: its length and name. -/
def unitFor (nanoseconds : Nat) : Nat × String :=
  if 1000000000 ≤ nanoseconds then (1000000000, "s")
  else if 1000000 ≤ nanoseconds then (1000000, "ms")
  else if 1000 ≤ nanoseconds then (1000, "µs")
  else (1, "ns")

/-- A quotient rounded to the nearest number, a half to the even one. -/
def roundDiv (n d : Nat) : Nat :=
  let q := n / d
  let r := n % d
  if d < 2 * r || (d = 2 * r && q % 2 = 1) then q + 1 else q

theorem roundDiv_near (n : Nat) {d : Nat} (h : 0 < d) :
    2 * n ≤ (2 * roundDiv n d + 1) * d ∧ 2 * (roundDiv n d * d) ≤ 2 * n + d := by
  have hn := Nat.div_add_mod n d
  have hr := Nat.mod_lt n h
  rw [Nat.mul_comm] at hn
  unfold roundDiv
  simp only [Bool.or_eq_true, decide_eq_true_eq, Bool.and_eq_true]
  split
  · next hup =>
    have hd : d ≤ 2 * (n % d) := by omega
    simp only [Nat.add_mul, Nat.mul_add, Nat.mul_assoc]
    omega
  · next hdown =>
    have hd : 2 * (n % d) ≤ d := by omega
    simp only [Nat.add_mul, Nat.mul_assoc]
    omega

def ofNanoseconds (n : Nat) : Elapsed :=
  let (length, unit) := unitFor n
  { display := Decimal.positional (roundDiv (n * 1000) length) 3 ++ unit.toList
    seconds := JsonText.float (.ofFloat (Float.ofScientific n true 9)) }

end Elapsed

end SqlScript.Cli
