/-!
# Values of a data line

A data line holds values separated by tabs.  `\N` is NULL; in every other value a
backslash begins an escape: a letter for a control character, up to three octal
digits for a character by its number, or any other character for itself.
-/

namespace SqlScript

/-- A value of a data line. -/
inductive CopyValue where
  | null
  | text (s : List Char)
  deriving DecidableEq, Repr, Inhabited

namespace CopyValue

def isOctal (c : Char) : Bool :=
  '0' ≤ c && c ≤ '7'

/-- The number written by octal digits. -/
def octal (digits : List Char) : Nat :=
  digits.foldl (fun n c => 8 * n + (c.toNat - '0'.toNat)) 0

/-- What a letter after a backslash stands for. -/
def named : Char → Char
  | 'n' => '\n'
  | 'r' => '\r'
  | 't' => '\t'
  | 'b' => '\x08'
  | 'f' => '\x0c'
  | 'v' => '\x0b'
  | c => c

/-- The character for which the escape at the beginning of `s`, its backslash
already read, stands, and how many characters of `s` belong to it.  An octal number
is cut to eight bits, and a backslash at the end of a value stands for itself. -/
def escape : List Char → Char × Nat
  | [] => ('\\', 0)
  | c :: s =>
    if isOctal c then
      let digits := ((c :: s).takeWhile isOctal).take 3
      (Char.ofNat (octal digits % 256), digits.length)
    else (named c, 1)

/-- Decodes the escapes of a text whose first `skip` characters have been read. -/
def decodeFrom : Nat → List Char → List Char
  | _, [] => []
  | skip + 1, _ :: s => decodeFrom skip s
  | 0, c :: s =>
    if c = '\\' then (escape s).1 :: decodeFrom (escape s).2 s else c :: decodeFrom 0 s

def decode (s : List Char) : List Char :=
  decodeFrom 0 s

/-- The value written as `s`. -/
def parse (s : List Char) : CopyValue :=
  if s = ['\\', 'N'] then .null else .text (decode s)

/-- The values of a data line without its ending. -/
def parseLine (line : List Char) : List CopyValue :=
  (line.splitOn '\t').map parse

theorem decode_of_no_backslash {s : List Char} (h : '\\' ∉ s) : decode s = s := by
  unfold decode
  induction s with
  | nil => rfl
  | cons c s ih =>
    have hc : c ≠ '\\' := fun e => h (by simp [e])
    have hs : '\\' ∉ s := fun e => h (by simp [e])
    simp [decodeFrom, hc, ih hs]

end CopyValue

end SqlScript
