import SqlScript.Decimal.Positional
import SqlScript.Decimal.Shortest

/-!
# JSON texts

Texts of JSON values without blanks, built from the texts of their parts.  Strings
escape the quote, the backslash and the characters below the blank, some of them by
a letter and the others by their number in lower case; everything else stands for
itself.
-/

namespace SqlScript.JsonText

def hexDigit (n : Nat) : Char :=
  Char.ofNat (if n < 10 then '0'.toNat + n else 'a'.toNat + (n - 10))

/-- A character inside a string. -/
def escape (c : Char) : List Char :=
  if c = '"' then ['\\', '"']
  else if c = '\\' then ['\\', '\\']
  else if c = '\x08' then ['\\', 'b']
  else if c = '\x0c' then ['\\', 'f']
  else if c = '\n' then ['\\', 'n']
  else if c = '\r' then ['\\', 'r']
  else if c = '\t' then ['\\', 't']
  else if c.toNat < 0x20 then
    ['\\', 'u', '0', '0', hexDigit (c.toNat / 16), hexDigit (c.toNat % 16)]
  else [c]

def string (s : List Char) : List Char :=
  '"' :: (s.flatMap escape ++ ['"'])

def text (s : String) : List Char :=
  string s.toList

def number (n : Nat) : List Char :=
  Decimal.digits n

def boolean (b : Bool) : List Char :=
  (if b then "true" else "false").toList

/-- Texts separated by commas. -/
def commas : List (List Char) → List Char
  | [] => []
  | [s] => s
  | s :: rest => s ++ ',' :: commas rest

def array (items : List (List Char)) : List Char :=
  '[' :: (commas items ++ [']'])

def field (f : String × List Char) : List Char :=
  text f.1 ++ ':' :: f.2

/-- An object with its fields in the given order. -/
def object (fields : List (String × List Char)) : List Char :=
  '\x7b' :: (commas (fields.map field) ++ ['\x7d'])

/-- The number `x · 10^k`, in positional notation when the point falls among the
digits, up to five zeros behind the point before them or sixteen digits before it,
and with an exponent and its sign otherwise. -/
def scientific (x : Nat) (k : Int) : List Char :=
  let ds := Decimal.digits x
  let point : Int := ds.length + k
  let exponent := (if point < 1 then '-' else '+') :: Decimal.digits (point - 1).natAbs
  if 0 ≤ k && point ≤ 16 then ds ++ List.replicate k.toNat '0' ++ ['.', '0']
  else if -5 < point && point ≤ 16 then Decimal.positional x k.natAbs
  else match ds with
    | [d] => d :: 'e' :: exponent
    | d :: rest => d :: '.' :: (rest ++ 'e' :: exponent)
    | [] => []

/-- A float with the fewest digits that read back, the last of them even if there are
two that are as near; `null` if it is not a number. -/
def float : Decimal.Binary → List Char
  | .nan | .infinite _ => "null".toList
  | .finite negative significand exponent lowest =>
    let body :=
      if significand = 0 then "0.0".toList
      else
        let (x, k) := Decimal.shortest .even significand exponent lowest
        scientific x k
    if negative then '-' :: body else body

/-! ### What never occurs in a string -/

/-- A line feed never occurs in the text of a string. -/
theorem newline_not_mem_string (s : List Char) : '\n' ∉ string s := by
  have hesc : ∀ c : Char, '\n' ∉ escape c := by
    intro c
    unfold escape
    split
    · decide
    split
    · decide
    split
    · decide
    split
    · decide
    split
    · decide
    split
    · decide
    split
    · decide
    split
    · have hx : ∀ n, n < 16 → '\n' ≠ hexDigit n := by decide
      have h₁ := hx (c.toNat / 16) (by omega)
      have h₂ := hx (c.toNat % 16) (by omega)
      simp [h₁, h₂]
    · next hn _ _ _ => simpa using fun e => hn e.symm
  simp [string, hesc]

end SqlScript.JsonText
