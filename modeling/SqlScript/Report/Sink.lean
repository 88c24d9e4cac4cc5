/-!
# Outputs with limited room

A `Sink` keeps the bytes written to an output.  An output may have room for so many
bytes only, for instance when its reader has gone; what fits is kept, and a write
that does not fit in full fails.
-/

namespace SqlScript

structure Sink where
  written : ByteArray := .empty
  /-- Bytes that still fit; none if there is no limit. -/
  room : Option Nat := none
  deriving Inhabited

namespace Sink

/-- The bytes of a text. -/
def encode (text : List Char) : ByteArray :=
  (String.ofList text).toByteArray

/-- Writes a text, and tells whether all of it fitted. -/
def write (s : Sink) (text : List Char) : Bool × Sink :=
  let bytes := encode text
  match s.room with
  | none => (true, { s with written := s.written ++ bytes })
  | some n =>
    (bytes.size ≤ n,
     { written := s.written ++ bytes.extract 0 n, room := some (n - bytes.size) })

theorem encode_append (a b : List Char) : encode (a ++ b) = encode a ++ encode b := by
  rw [encode, encode, encode, String.ofList_append, String.toByteArray_append]

theorem write_of_unlimited {s : Sink} (h : s.room = none) (text : List Char) :
    s.write text = (true, { s with written := s.written ++ encode text }) := by
  simp [write, h]

end Sink

end SqlScript
