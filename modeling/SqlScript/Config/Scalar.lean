import SqlScript.Decimal.Positional
import SqlScript.Decimal.Shortest
import SqlScript.Text.Shape
import SqlScript.Config.Yaml.Document

/-!
# What scalars mean

A plain scalar is null, a boolean, an integer in one of four notations, a float, or
else a text; any other scalar is always a text.  A number with leading zeros is a text
as well.  A tag overrides this, and the text may not be of the type that it names.
`Unexpected` names what was found where something else was needed.
-/

namespace SqlScript.Yaml

/-- What a scalar turned out to be, as told in an error. -/
inductive Unexpected where
  | unit
  | boolean (b : Bool)
  /-- An integer of at most 64 bits. -/
  | integer (n : Int)
  /-- An integer of more than 64 bits, and whether it has a sign. -/
  | wide (n : Int)
  | float (f : Decimal.Binary)
  | text (s : List Char)
  | sequence
  | mapping
  deriving DecidableEq, Repr

/-! ### Notations -/

def isNull (s : List Char) : Bool :=
  ["null", "Null", "NULL", "~"].contains (String.ofList s)

def boolean? (s : List Char) : Option Bool :=
  if ["true", "True", "TRUE"].contains (String.ofList s) then some true
  else if ["false", "False", "FALSE"].contains (String.ofList s) then some false
  else none

/-- The value of a digit in a radix of at most 16. -/
def digit? (radix : Nat) (c : Char) : Option Nat :=
  let value :=
    if '0' ≤ c ∧ c ≤ '9' then c.toNat - '0'.toNat
    else if 'a' ≤ c ∧ c ≤ 'f' then c.toNat - 'a'.toNat + 10
    else if 'A' ≤ c ∧ c ≤ 'F' then c.toNat - 'A'.toNat + 10
    else radix
  if value < radix then some value else none

/-- The number written by at least one digit. -/
def natural? (radix : Nat) (s : List Char) : Option Nat :=
  if s.isEmpty then none
  else s.foldlM (fun n c => (digit? radix c).map (radix * n + ·)) 0

/-- Zeros before other digits make a text of a number. -/
def hasLeadingZero (s : List Char) : Bool :=
  let s := match s with
    | '-' :: s => s
    | '+' :: s => s
    | s => s
  match s with
  | '0' :: c :: rest => (c :: rest).all Char.isDigit
  | _ => false

/-- The number after the mark of its notation. -/
def radixNatural? : List Char → Option Nat
  | '0' :: 'x' :: s => natural? 16 s
  | '0' :: 'o' :: s => natural? 8 s
  | '0' :: 'b' :: s => natural? 2 s
  | _ => none

/-- An unsigned integer of at most so many bits. -/
def unsigned? (bits : Nat) (s : List Char) : Option Nat :=
  let body := match s with
    | '+' :: s => s
    | s => s
  let value := match radixNatural? body with
    | some n => some n
    | none => if hasLeadingZero s then none else natural? 10 body
  value.filter (· < Nat.pow 2 bits)

/-- A negative integer of at most so many bits. -/
def negative? (bits : Nat) (s : List Char) : Option Int :=
  match s with
  | '-' :: body =>
    let value := match radixNatural? body with
      | some n => some n
      | none => if hasLeadingZero s then none else natural? 10 body
    (value.filter (· ≤ Nat.pow 2 (bits - 1))).map fun n => -(n : Int)
  | _ => none

/-- The exponent of a float, if the text is empty or `e` with an integer. -/
def exponent? : List Char → Option Int
  | [] => some 0
  | c :: s =>
    if c = 'e' ∨ c = 'E' then
      match s with
      | '-' :: s => (natural? 10 s).map fun n => -(n : Int)
      | '+' :: s => (natural? 10 s).map fun n => (n : Int)
      | s => (natural? 10 s).map fun n => (n : Int)
    else none

/-- The float nearest to `digits · 10^exponent`; infinite if it is too large. -/
def nearestFloat (digits : Nat) (exponent : Int) : Float :=
  if digits = 0 then 0
  else
    let size := (Nat.toDigits 10 digits).length + exponent
    if 310 < size then 1 / 0
    else if size < -330 then 0
    else if exponent < 0 then Float.ofScientific digits true exponent.natAbs
    else Float.ofScientific (digits * Nat.pow 10 exponent.toNat) false 0

/-- A decimal number without a sign. -/
def decimalFloat? (s : List Char) : Option Float :=
  let whole := s.takeWhile Char.isDigit
  let rest := s.dropWhile Char.isDigit
  let (fraction, rest) := match rest with
    | '.' :: rest => (rest.takeWhile Char.isDigit, rest.dropWhile Char.isDigit)
    | rest => ([], rest)
  match natural? 10 (whole ++ fraction), exponent? rest with
  | some digits, some exponent => some (nearestFloat digits (exponent - fraction.length))
  | _, _ => none

/-- A float in one of its notations. -/
def float? (s : List Char) : Option Float :=
  let name := String.ofList s
  if [".inf", ".Inf", ".INF", "+.inf", "+.Inf", "+.INF"].contains name then some (1 / 0)
  else if ["-.inf", "-.Inf", "-.INF"].contains name then some (-1 / 0)
  else if [".nan", ".NaN", ".NAN"].contains name then some (0 / 0)
  else
    let value := match s with
      | '+' :: s => decimalFloat? s
      | '-' :: s => (decimalFloat? s).map fun f => -f
      | s => decimalFloat? s
    value.filter Float.isFinite

/-- An integer in one of its notations. -/
def integer? (s : List Char) : Option Unexpected :=
  match unsigned? 64 s, negative? 64 s, unsigned? 128 s, negative? 128 s with
  | some n, _, _, _ => some (.integer n)
  | none, some n, _, _ => some (.integer n)
  | none, none, some n, _ => some (.wide n)
  | none, none, none, some n => some (.wide n)
  | none, none, none, none => none

/-- What a plain scalar means. -/
def resolve (s : List Char) : Unexpected :=
  if s.isEmpty || isNull s then .unit
  else match boolean? s, integer? s with
  | some b, _ => .boolean b
  | none, some n => n
  | none, none =>
    if hasLeadingZero s then .text s
    else match float? s with
    | some f => .float (.ofFloat f)
    | none => .text s

/-! ### Tags -/

/-- Types that a tag can name. -/
inductive TypeTag where
  | null
  | boolean
  | integer
  | float
  deriving DecidableEq, Repr

namespace TypeTag

def text : TypeTag → List Char
  | null => "tag:yaml.org,2002:null".toList
  | boolean => "tag:yaml.org,2002:bool".toList
  | integer => "tag:yaml.org,2002:int".toList
  | float => "tag:yaml.org,2002:float".toList

/-- The type as it is told in an error. -/
def name : TypeTag → String
  | null => "null"
  | boolean => "a boolean"
  | integer => "an integer"
  | float => "a float"

def of? (tag : List Char) : Option TypeTag :=
  [null, boolean, integer, float].find? fun type => type.text == tag

/-- What a text means as a value of the type. -/
def read? (type : TypeTag) (s : List Char) : Option Unexpected :=
  match type with
  | null => if isNull s then some .unit else none
  | boolean => (boolean? s).map .boolean
  | integer => integer? s
  | float => (float? s).map fun f => .float (.ofFloat f)

end TypeTag

/-- A text that is not of the type that its tag names. -/
structure Mismatch where
  text : List Char
  type : TypeTag
  deriving DecidableEq, Repr

namespace Scalar

/-- What a scalar means. -/
def meaning (s : Scalar) : Except Mismatch Unexpected :=
  let untagged := if s.style = .plain then resolve s.text else .text s.text
  match s.tag with
  | none => .ok untagged
  | some tag =>
    match TypeTag.of? tag with
    | some type =>
      match type.read? s.text with
      | some found => .ok found
      | none => .error { text := s.text, type }
    | none => .ok (if tag.head? = some '!' then untagged else .text s.text)

/-- Whether a scalar may be read as a value of a type, if its text is one. -/
def mayBe (s : Scalar) (type : TypeTag) : Bool :=
  s.style == .plain || (s.style == .literal && s.tag == some type.text)

/-- Whether a scalar stands for the absence of a value; a tag for nothing must not
stand before something. -/
def absence (s : Scalar) : Except Mismatch Bool :=
  if s.style ≠ .plain then .ok false
  else match s.tag with
  | none => .ok (s.text.isEmpty || isNull s.text)
  | some tag =>
    if tag ≠ TypeTag.null.text then .ok false
    else if isNull s.text then .ok true
    else .error { text := s.text, type := .null }

end Scalar

/-- What a node is, as told in an error. -/
def Node.unexpected : Node → Except Mismatch Unexpected
  | .scalar s => s.meaning
  | .sequence _ => .ok .sequence
  | .mapping .. => .ok .mapping
  | .reference node => node.unexpected

/-! ### Wording -/

/-- A float with a point. -/
def floatText (f : Decimal.Binary) : List Char :=
  match f with
  | .nan => "NaN".toList
  | .infinite negative => (if negative then "-inf" else "inf").toList
  | .finite negative significand exponent lowest =>
    let (x, k) :=
      if significand = 0 then (0, 0) else Decimal.shortest .larger significand exponent lowest
    let body :=
      if 0 ≤ k then Decimal.digits (x * Nat.pow 10 k.toNat) ++ ['.', '0']
        else Decimal.positional x k.natAbs
    if negative then '-' :: body else body

/-- A text as it is told in an error. -/
def textMessage (s : List Char) : String :=
  "string " ++ String.ofList (Shape.quoted s)

def Mismatch.message (m : Mismatch) : String :=
  s!"invalid value: {textMessage m.text}, expected {m.type.name}"

def Unexpected.message : Unexpected → String
  | unit => "unit value"
  | boolean b => s!"boolean `{b}`"
  | integer n => s!"integer `{n}`"
  | wide n => if n < 0 then s!"integer `{n}` as i128" else s!"integer `{n}` as u128"
  | float f =>
    let shown := String.ofList (floatText f)
    s!"floating point `{shown}`"
  | text s => textMessage s
  | sequence => "sequence"
  | mapping => "map"

end SqlScript.Yaml
