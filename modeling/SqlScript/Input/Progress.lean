import SqlScript.Input.Stream

/-!
# Progress of reading

A `ProgressReader` hands the bytes of a stream out in pieces and tells, after each
piece, how many bytes it has handed out in all.  A piece never goes beyond a fault of
the stream; the fault is the result of the read that comes to it.
-/

namespace SqlScript

structure ProgressReader where
  stream : Stream
  bytesRead : Nat := 0
  deriving Inhabited

namespace ProgressReader

/-- At most `n` bytes before the next fault, and what follows them. -/
def takeBytes : Nat → Stream → List UInt8 × Stream
  | n + 1, .byte b :: rest =>
    let (bytes, rest) := takeBytes n rest
    (b :: bytes, rest)
  | _, stream => ([], stream)

/-- Reads at most `n` bytes; also tells the count of all bytes read. -/
def read (r : ProgressReader) (n : Nat) : Except IoError (List UInt8 × Nat) × ProgressReader :=
  match r.stream with
  | .fault cause :: rest => (.error cause, { r with stream := rest })
  | stream =>
    let (bytes, rest) := takeBytes n stream
    let total := r.bytesRead + bytes.length
    (.ok (bytes, total), { stream := rest, bytesRead := total })

end ProgressReader

end SqlScript
