import SqlScript.Decimal.Shortest
import SqlScript.Text.Utf8
import SqlScript.Value.Calendar

/-!
# Values of a result set

`Value` is what a database returns in a cell, and `Value.text` how it is shown.
Instants and times of day are shown to the second; those outside the calendar or
the day are shown as a number of microseconds.
-/

namespace SqlScript

inductive TimeUnit where
  | second
  | millisecond
  | microsecond
  | nanosecond
  deriving DecidableEq, Repr, Inhabited

inductive Value where
  | null
  | boolean (b : Bool)
  /-- An integer of any width but the unsigned one of 128 bits. -/
  | integer (n : Int)
  | unsignedHuge (n : Nat)
  | float (f : Float32)
  | double (f : Float)
  /-- The number `n · 10^(-scale)`. -/
  | decimal (scale : Nat) (n : Int)
  | text (bytes : List UInt8)
  | blob (bytes : List UInt8)
  | geometry (bytes : List UInt8)
  /-- Days since the first day of 1970. -/
  | date (days : Int32)
  /-- Time since the first instant of 1970. -/
  | timestamp (unit : TimeUnit) (n : Int64)
  /-- Time since midnight. -/
  | time (unit : TimeUnit) (n : Int64)
  | interval (months days nanos : Int)

namespace TimeUnit

/-- Limits a number to 64 bits. -/
def saturate (n : Int) : Int :=
  max Int64.minValue.toInt (min Int64.maxValue.toInt n)

/-- A time in microseconds: a fraction is cut off, and too large a number becomes
the largest one of 64 bits. -/
def toMicros (unit : TimeUnit) (n : Int64) : Int :=
  match unit with
  | second => saturate (n.toInt * 1000000)
  | millisecond => saturate (n.toInt * 1000)
  | microsecond => n.toInt
  | nanosecond => n.toInt.tdiv 1000

end TimeUnit

namespace Value

def integerText (n : Int) : List Char :=
  Decimal.signedPositional n 0

/-- Positional notation without an exponent; whole numbers have no point. -/
def floatText : Decimal.Binary → List Char
  | .nan => "NaN".toList
  | .infinite negative => (if negative then "-inf" else "inf").toList
  | .finite negative 0 _ _ => (if negative then "-0" else "0").toList
  | .finite negative significand exponent lowest =>
    let (x, k) := Decimal.shortest .larger significand exponent lowest
    let body := if 0 ≤ k then Decimal.digits (x * Nat.pow 10 k.toNat) else Decimal.positional x k.natAbs
    if negative then '-' :: body else body

/-- The day of a number of days since the first day of 1970. -/
def dateText (days : Int) : List Char :=
  match Date.ofEpochDays? days with
  | some d => d.text
  | none => integerText days

/-- The day and time of a number of microseconds since the first instant of 1970. -/
def timestampText (micros : Int) : List Char :=
  let seconds := micros / 1000000
  match Date.ofEpochDays? (seconds / 86400) with
  | some d => d.text ++ ' ' :: clockText (seconds % 86400).toNat
  | none => integerText micros

/-- Whether a second of the day, and nanoseconds within it, make a time of day; a
leap second may have more than a thousand million of them. -/
def isTimeOfDay (seconds nanos : Nat) : Bool :=
  seconds < 86400 && nanos < 2000000000 && (nanos < 1000000000 || seconds % 60 == 59)

/-- How many words of 32 bits there are. -/
def wordCount : Nat := 4294967296

/-- The time of day of a number of microseconds since midnight.  Seconds and
nanoseconds are taken as words of 32 bits. -/
def timeText (micros : Int) : List Char :=
  let seconds := (micros.tdiv 1000000 % wordCount).toNat
  let nanos := (micros.tmod 1000000 * 1000 % wordCount).toNat
  if isTimeOfDay seconds nanos then clockText seconds else integerText micros

/-- The bytes of a value without a readable form. -/
def bytesText (bytes : List UInt8) : String :=
  "[" ++ ", ".intercalate (bytes.map fun b => toString b.toNat) ++ "]"

/-- How a value is shown. -/
def display : Value → String
  | null => "NULL"
  | boolean b => if b then "true" else "false"
  | integer n => String.ofList (integerText n)
  | unsignedHuge n => s!"UHugeInt({n})"
  | float f => String.ofList (floatText (Decimal.Binary.ofFloat32 f))
  | double f => String.ofList (floatText (Decimal.Binary.ofFloat f))
  | decimal scale n => String.ofList (Decimal.signedPositional n scale)
  | text bytes => Utf8.decodeLossy bytes
  | blob bytes => s!"<blob {bytes.length} bytes>"
  | geometry bytes => "Geometry(" ++ bytesText bytes ++ ")"
  | date days => String.ofList (dateText days.toInt)
  | timestamp unit n => String.ofList (timestampText (unit.toMicros n))
  | time unit n => String.ofList (timeText (unit.toMicros n))
  | interval months days nanos =>
    s!"Interval \x7b months: {months}, days: {days}, nanos: {nanos} \x7d"

end Value

end SqlScript
