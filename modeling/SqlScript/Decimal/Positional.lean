/-!
# Decimal numbers in positional notation

`Decimal.positional n places` writes the number `n · 10^(-places)` with at least one
digit before the point and exactly `places` after it, or without a point when
`places` is zero.  `padded` writes a number with leading zeros.
-/

namespace SqlScript.Decimal

/-- The decimal digits of a number. -/
def digits (n : Nat) : List Char :=
  Nat.toDigits 10 n

/-- The digits of a number, filled up with zeros on the left to a width. -/
def padded (width n : Nat) : List Char :=
  let ds := digits n
  List.replicate (width - ds.length) '0' ++ ds

/-- The number `n · 10^(-places)`. -/
def positional (n places : Nat) : List Char :=
  if places = 0 then digits n
  else
    let ds := padded (places + 1) n
    ds.take (ds.length - places) ++ '.' :: ds.drop (ds.length - places)

/-- The number `n · 10^(-places)` for an integer `n`. -/
def signedPositional (n : Int) (places : Nat) : List Char :=
  if n < 0 then '-' :: positional n.natAbs places else positional n.natAbs places

end SqlScript.Decimal
