/-!
# Reading UTF-8 that may be broken

Bytes that are not UTF-8 are shown with one replacement character for each maximal
part that could still have become a character.  `sequenceTail` gives the ranges in
which the bytes after a leading byte must lie.
-/

namespace SqlScript.Utf8

/-- The ranges of the bytes that follow a leading byte, or none if the byte leads
nothing. -/
def sequenceTail (lead : UInt8) : Option (List (UInt8 × UInt8)) :=
  let rest : UInt8 × UInt8 := (0x80, 0xbf)
  if lead < 0x80 then some []
  else if 0xc2 ≤ lead && lead ≤ 0xdf then some [rest]
  else if lead = 0xe0 then some [(0xa0, 0xbf), rest]
  else if lead = 0xed then some [(0x80, 0x9f), rest]
  else if 0xe1 ≤ lead && lead ≤ 0xef then some [rest, rest]
  else if lead = 0xf0 then some [(0x90, 0xbf), rest, rest]
  else if 0xf1 ≤ lead && lead ≤ 0xf3 then some [rest, rest, rest]
  else if lead = 0xf4 then some [(0x80, 0x8f), rest, rest]
  else none

/-- How many bytes lie in the given ranges, one after the other. -/
def matching : List (UInt8 × UInt8) → List UInt8 → Nat
  | (low, high) :: ranges, b :: bytes =>
    if low ≤ b && b ≤ high then matching ranges bytes + 1 else 0
  | _, _ => 0

/-- The code point of a complete sequence. -/
def codePoint (lead : UInt8) (tail : List UInt8) : Nat :=
  let first := match tail.length with
    | 0 => lead.toNat
    | 1 => lead.toNat % 0x20
    | 2 => lead.toNat % 0x10
    | _ => lead.toNat % 0x08
  tail.foldl (fun n b => n * 0x40 + b.toNat % 0x40) first

/-- The character at the beginning of some bytes, and how many bytes after the first
belong to it. -/
def leading (lead : UInt8) (bytes : List UInt8) : Char × Nat :=
  match sequenceTail lead with
  | none => ('\ufffd', 0)
  | some ranges =>
    let n := matching ranges bytes
    if n = ranges.length then (Char.ofNat (codePoint lead (bytes.take n)), n) else ('\ufffd', n)

/-- Decodes bytes of which the first `skip` have been read. -/
def decodeFrom : Nat → List UInt8 → List Char
  | _, [] => []
  | skip + 1, _ :: bytes => decodeFrom skip bytes
  | 0, b :: bytes => (leading b bytes).1 :: decodeFrom (leading b bytes).2 bytes

/-- The text of some bytes, with `\ufffd` for what is not UTF-8. -/
def decodeLossy (bytes : List UInt8) : String :=
  String.ofList (decodeFrom 0 bytes)

example : decodeLossy [0x61, 0xc3, 0xa9, 0xf0, 0x9f, 0x62, 0xff] = "aé\ufffdb\ufffd" := by
  decide +kernel

end SqlScript.Utf8
