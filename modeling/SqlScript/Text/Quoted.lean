/-!
# Quoted text

Between two quotes every character stands for itself, and a quote inside is
written twice.  `encode` is used with `'` for values and with `"` for names.
-/

namespace SqlScript.Quoted

/-- Writes every quote of a text twice. -/
def double (quote : Char) (s : List Char) : List Char :=
  s.flatMap fun c => if c = quote then [quote, quote] else [c]

/-- A text between quotes. -/
def encode (quote : Char) (s : List Char) : List Char :=
  quote :: (double quote s ++ [quote])

theorem double_append (quote : Char) (s t : List Char) :
    double quote (s ++ t) = double quote s ++ double quote t := by
  simp [double]

theorem double_of_not_mem {quote : Char} {s : List Char} (h : quote ∉ s) :
    double quote s = s := by
  induction s with
  | nil => rfl
  | cons c s ih =>
    have hc : c ≠ quote := fun e => h (by simp [e])
    have hs : quote ∉ s := fun e => h (by simp [e])
    simpa [double, hc] using ih hs

/-- A string between quotes. -/
def encodeString (quote : Char) (s : String) : String :=
  String.ofList (encode quote s.toList)

end SqlScript.Quoted
