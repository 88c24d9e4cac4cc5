/-!
# The shortest decimal of a binary floating-point number

A finite float stands for every real number that rounds to it.  Among the decimals
in that interval `shortest` finds one with the fewest digits, and of those the one
nearest to the float; a `Tie` says which of two that are equally near.  The interval
includes its ends when the significand is even, and it is narrower below a power of
two.

The search looks at grids of ever smaller powers of ten and takes the first that
has a point in the interval.  The grid on which the float itself lies ends it.
-/

namespace SqlScript.Decimal

/-- A float taken apart. -/
inductive Binary where
  | nan
  | infinite (negative : Bool)
  /-- The number `significand · 2^exponent`; `lowest` when the next smaller float is
  only half as far away as the next larger one. -/
  | finite (negative : Bool) (significand : Nat) (exponent : Int) (lowest : Bool)
  deriving DecidableEq, Repr

namespace Binary

/-- The float with the given bits, in a format of so many fraction and exponent
bits. -/
def ofBits (fractionBits exponentBits bits : Nat) : Binary :=
  let fractions := Nat.pow 2 fractionBits
  let fields := Nat.pow 2 exponentBits
  let fraction := bits % fractions
  let field := bits / fractions % fields
  let negative := bits / (fractions * fields) % 2 == 1
  let bias : Int := fields / 2 - 1
  if field = fields - 1 then
    if fraction = 0 then infinite negative else nan
  else if field = 0 then finite negative fraction (1 - bias - fractionBits) false
  else finite negative (fraction + fractions) (field - bias - fractionBits)
    (fraction == 0 && field != 1)

def ofFloat (f : Float) : Binary :=
  ofBits 52 11 f.toBits.toNat

def ofFloat32 (f : Float32) : Binary :=
  ofBits 23 8 f.toBits.toNat

end Binary

/-- Which of two neighbours on a grid is taken when both are equally near. -/
inductive Tie where
  | larger
  | even
  deriving DecidableEq, Repr

/-- Whether the smaller of two neighbours that are equally near is taken. -/
def Tie.keepsSmaller : Tie → Nat → Bool
  | larger, _ => false
  | even, smaller => smaller % 2 == 0

/-- The real numbers that round to `significand · 2^exponent`, in quarters of its
last place. -/
structure Rounding where
  /-- Four times the significand. -/
  centre : Nat
  lower : Nat
  upper : Nat
  /-- The ends belong to the interval. -/
  closed : Bool
  /-- Exponent of a quarter of the last place. -/
  exponent : Int

namespace Rounding

def of (significand : Nat) (exponent : Int) (lowest : Bool) : Rounding where
  centre := 4 * significand
  lower := 4 * significand - if lowest then 1 else 2
  upper := 4 * significand + 2
  closed := significand % 2 == 0
  exponent := exponent - 2

/-- The ratio of a quarter of the last place to `10^k`, as a fraction. -/
def ratio (r : Rounding) (k : Int) : Nat × Nat :=
  (Nat.pow 2 r.exponent.toNat * Nat.pow 10 (-k).toNat,
    Nat.pow 2 (-r.exponent).toNat * Nat.pow 10 k.toNat)

/-- Whether `x · 10^k` rounds to the float. -/
def holds (r : Rounding) (k : Int) (x : Nat) : Bool :=
  let (p, q) := r.ratio k
  if r.closed then r.lower * p ≤ x * q && x * q ≤ r.upper * p
  else r.lower * p < x * q && x * q < r.upper * p

/-- The point of the grid `10^k` that rounds to the float and is nearest to it. -/
def nearest? (r : Rounding) (tie : Tie) (k : Int) : Option Nat :=
  let (p, q) := r.ratio k
  let below := r.centre * p / q
  let gap := 2 * (r.centre * p - below * q)
  let nearer := gap < q || (gap == q && tie.keepsSmaller below)
  match r.holds k below, r.holds k (below + 1) with
  | true, true => some (if nearer then below else below + 1)
  | true, false => some below
  | false, true => some (below + 1)
  | false, false => none

/-- The first grid from `10^k` on down, for so many steps, that has a point. -/
def search (r : Rounding) (tie : Tie) : Nat → Int → Option (Nat × Int)
  | 0, _ => none
  | steps + 1, k =>
    match r.nearest? tie k with
    | some x => some (x, k)
    | none => search r tie steps (k - 1)

end Rounding

/-- The shortest decimal `x · 10^k` that rounds to `significand · 2^exponent`. -/
def shortest (tie : Tie) (significand : Nat) (exponent : Int) (lowest : Bool) : Nat × Int :=
  let raised := significand * Nat.pow 2 exponent.toNat
  let whole := raised / Nat.pow 2 (-exponent).toNat
  let start := (Nat.toDigits 10 whole).length
  let exact := (raised * Nat.pow 5 (-exponent).toNat, min exponent 0)
  ((Rounding.of significand exponent lowest).search tie
      (start + (-exponent).toNat + 1) start).getD exact

end SqlScript.Decimal
