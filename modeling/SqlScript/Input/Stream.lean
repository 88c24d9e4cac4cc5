/-!
# Input as a stream of bytes that may fail

A script comes from a stream that hands out bytes and may fail in between, after
which it can be read on.  `Stream.lines` gives what reading the stream line by
line returns, one result a call: a line with its ending, or an error.  The part
of a line that was read before a failure is lost, and so is a line that is not
UTF-8.  A failure hides bad bytes before it on its line.
-/

namespace SqlScript

/-- Why reading or writing failed. -/
inductive IoError where
  /-- A line is not UTF-8. -/
  | invalidUtf8
  /-- The stream broke off for a moment. -/
  | brokenStream
  /-- The receiver takes no more bytes. -/
  | brokenPipe
  | notFound
  /-- An entry that is no directory was to be gone through. -/
  | notDirectory
  | isDirectory
  /-- A name or a path has more bytes than the system allows. -/
  | nameTooLong
  /-- Any other failure that the system reports. -/
  | system (text : String)
  deriving DecidableEq, Repr

namespace IoError

def message : IoError → String
  | invalidUtf8 => "stream did not contain valid UTF-8"
  | brokenStream => "broken stream"
  | brokenPipe => "broken pipe"
  | notFound => "No such file or directory (os error 2)"
  | notDirectory => "Not a directory (os error 20)"
  | isDirectory => "Is a directory (os error 21)"
  | nameTooLong => "File name too long (os error 36)"
  | system text => text

end IoError

/-- What a stream hands out next. -/
inductive StreamEvent where
  | byte (b : UInt8)
  | fault (cause : IoError)
  deriving DecidableEq, Repr

abbrev Stream := List StreamEvent

/-- The result of reading one line. -/
abbrev LineRead := Except IoError String

namespace Stream

def ofBytes (bytes : List UInt8) : Stream :=
  bytes.map .byte

def ofString (s : String) : Stream :=
  ofBytes s.toByteArray.toList

/-- A stream that breaks once after `n` bytes, if it is that long. -/
def breakAt (n : Nat) (bytes : List UInt8) : Stream :=
  if n ≤ bytes.length then
    ofBytes (bytes.take n) ++ .fault .brokenStream :: ofBytes (bytes.drop n)
  else ofBytes bytes

/-- The text of a complete line. -/
def decodeLine (bytes : List UInt8) : LineRead :=
  match String.fromUTF8? bytes.toByteArray with
  | some line => .ok line
  | none => .error .invalidUtf8

/-- The results of reading line by line, after the bytes `current` of a line were
read, the last one first. -/
def linesAfter (current : List UInt8) : Stream → List LineRead
  | [] => if current.isEmpty then [] else [decodeLine current.reverse]
  | .fault cause :: rest => .error cause :: linesAfter [] rest
  | .byte b :: rest =>
    if b = 10 then decodeLine (b :: current).reverse :: linesAfter [] rest
    else linesAfter (b :: current) rest

/-- The results of reading a stream line by line. -/
def lines (stream : Stream) : List LineRead :=
  linesAfter [] stream

theorem decodeLine_utf8 (line : String) (bytes : List UInt8)
    (h : bytes.toByteArray = line.toByteArray) : decodeLine bytes = .ok line := by
  have hv : bytes.toByteArray.IsValidUTF8 := h ▸ line.isValidUTF8
  have hs : String.fromUTF8? bytes.toByteArray = some line := by
    simp only [String.fromUTF8?, dif_pos hv, Option.some.injEq]
    rw [← String.toByteArray_inj]
    simpa [String.fromUTF8] using h
  simp [decodeLine, hs]

end Stream

end SqlScript
