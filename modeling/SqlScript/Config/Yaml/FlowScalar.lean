import SqlScript.Config.Yaml.SyntaxError

/-!
# Plain and quoted scalars

These scalars may go on over several lines.  A `Gap` is what lies between two words of
a scalar, and folding turns it into text: blanks on one line stay, a single line end
becomes a blank, and of several line ends the first is dropped.  Blanks beside a line
end never count.

The functions read on from the character behind the beginning of a scalar and return
its text with what is left; a gap that has not been folded yet is passed along.
-/

namespace SqlScript.Yaml

/-! ### Gaps -/

/-- Blanks and line ends in a row, the last one first. -/
inductive Gap where
  | blanks (s : List Char)
  /-- A line end that counts for nothing, if it was escaped, or else what it is kept
  as; and the line ends after it. -/
  | lines (first : Option Char) (more : List Char)
  deriving DecidableEq, Repr

namespace Gap

def empty : Gap :=
  blanks []

def isEmpty (gap : Gap) : Bool :=
  gap == empty

def hasBreak : Gap → Bool
  | blanks _ => false
  | lines .. => true

/-- A gap with one more blank or line end. -/
def push (c : Char) : Gap → Gap
  | blanks s => if isBreak c then lines (some c) [] else blanks (c :: s)
  | lines first more => lines first (if isBreak c then c :: more else more)

/-- The text that a gap stands for. -/
def fold : Gap → List Char
  | blanks s => s.reverse
  | lines none more => more.reverse
  | lines (some '\n') [] => [' ']
  | lines (some '\n') more => more.reverse
  | lines (some c) more => c :: more.reverse

example : (((empty.push ' ').push '\n').push ' ').fold = [' '] := by decide

example : ((empty.push '\n').push '\n').fold = ['\n'] := by decide

end Gap

/-! ### Plain scalars -/

/-- Characters that have a meaning within brackets. -/
def isFlowIndicator (c : Char) : Bool :=
  c == ',' || c == '[' || c == ']' || c == '\x7b' || c == '\x7d'

/-- How a scalar lies in its document. -/
structure Surroundings where
  start : Mark
  /-- The scalar stands within brackets. -/
  inFlow : Bool
  /-- The column that further lines of the scalar must reach. -/
  indent : Nat

namespace Surroundings

/-- Whether a plain scalar ends at the first character of a text, which is neither
blank nor a line end. -/
def endsPlain (around : Surroundings) (gap : Gap) (t : Text) : Bool :=
  let c := t.first
  isEnd c || (c == ':' && isGap (t.ahead 1)) || (around.inFlow && isFlowIndicator c)
    || (!gap.isEmpty && (c == '#' || t.isAnyMarker
      || (!around.inFlow && t.mark.column < around.indent)))

/-- Whether a colon stands where a plain scalar within brackets cannot have one. -/
def hasBadColon (around : Surroundings) (t : Text) : Bool :=
  around.inFlow && t.first == ':' && (isFlowIndicator (t.ahead 1) || t.ahead 1 == '?')

/-- Whether a tab stands where a further line of the scalar needs blanks. -/
def hasBadTab (around : Surroundings) (gap : Gap) (t : Text) : Bool :=
  gap.hasBreak && t.first == '\t' && t.mark.column < around.indent

/-- Reads a plain scalar.  The last part of the result says whether line ends follow
the scalar, which are not left. -/
def plain (around : Surroundings) (gap : Gap) :
    Text → Except SyntaxError (List Char × Text × Bool)
  | [] => .ok ([], [], gap.hasBreak)
  | p :: t =>
    if isSpace p.2 || isBreak p.2 then
      if around.hasBadTab gap (p :: t) then
        .error (.here .tabInIndentation (p :: t) .plainScalar around.start)
      else plain around (gap.push p.2) t
    else if around.hasBadColon (p :: t) then
      .error (.here .unexpectedColon (p :: t) .plainScalar around.start)
    else if around.endsPlain gap (p :: t) then .ok ([], p :: t, gap.hasBreak)
    else
      (plain around .empty t).map fun (s, rest) => (gap.fold ++ p.2 :: s, rest)

end Surroundings

/-! ### Quoted scalars -/

/-- What a letter after a backslash stands for. -/
def namedEscape? (c : Char) : Option Char :=
  match c with
  | '0' => some '\x00'
  | 'a' => some '\x07'
  | 'b' => some '\x08'
  | 't' => some '\t'
  | '\t' => some '\t'
  | 'n' => some '\n'
  | 'v' => some '\x0b'
  | 'f' => some '\x0c'
  | 'r' => some '\r'
  | 'e' => some '\x1b'
  | ' ' => some ' '
  | '"' => some '"'
  | '/' => some '/'
  | '\\' => some '\\'
  | 'N' => some '\u0085'
  | '_' => some '\u00a0'
  | 'L' => some '\u2028'
  | 'P' => some '\u2029'
  | _ => none

/-- How many hexadecimal digits follow the letter of a numeric escape. -/
def escapeWidth? (c : Char) : Option Nat :=
  match c with
  | 'x' => some 2
  | 'u' => some 4
  | 'U' => some 8
  | _ => none

/-- The value of a hexadecimal digit. -/
def hexDigit? (c : Char) : Option Nat :=
  if c.isDigit then some (c.toNat - '0'.toNat)
  else if 'a' ≤ c && c ≤ 'f' then some (c.toNat - 'a'.toNat + 10)
  else if 'A' ≤ c && c ≤ 'F' then some (c.toNat - 'A'.toNat + 10)
  else none

/-- The character whose number stands in so many hexadecimal digits. -/
def numericEscape (start : Mark) (width : Nat) (t : Text) : Except SyntaxError Char :=
  let digits := (List.range width).map t.ahead
  match digits.foldlM (fun n c => (hexDigit? c).map (16 * n + ·)) 0 with
  | none => .error (.here .notHexadecimal t .escape start)
  | some n =>
    if n.isValidChar then .ok (Char.ofNat n)
    else .error (.here .invalidCodePoint t .escape start)

/-- What stops a quoted scalar before its closing quote. -/
def brokenQuotes? (start : Mark) (t : Text) : Option SyntaxError :=
  if t.isAnyMarker then some (.here .markerInQuotes t .quotedScalar start)
  else if isEnd t.first then some (.here .endInQuotes t .quotedScalar start)
  else none

/-- Reads a scalar in single quotes; a quote inside is written twice. -/
def singleQuoted (start : Mark) (gap : Gap) : Text → Except SyntaxError (List Char × Text)
  | [] => .error (.here .endInQuotes [] .quotedScalar start)
  | (_, '\'') :: (_, '\'') :: t =>
    (singleQuoted start .empty t).map fun (s, rest) => (gap.fold ++ '\'' :: s, rest)
  | (_, '\'') :: t => .ok (gap.fold, t)
  | p :: t =>
    if isSpace p.2 || isBreak p.2 then singleQuoted start (gap.push p.2) t
    else
      match brokenQuotes? start (p :: t) with
      | some e => .error e
      | none =>
        (singleQuoted start .empty t).map fun (s, rest) => (gap.fold ++ p.2 :: s, rest)

/-- Reads a scalar in double quotes, of which `digits` more characters belong to an
escape that was read. -/
def doubleQuoted (start : Mark) (gap : Gap) :
    Nat → Text → Except SyntaxError (List Char × Text)
  | _, [] => .error (.here .endInQuotes [] .quotedScalar start)
  | digits + 1, _ :: t => doubleQuoted start gap digits t
  | 0, (_, '"') :: t => .ok (gap.fold, t)
  | 0, (m, '\\') :: (n, c) :: t =>
    if isBreak c then
      (doubleQuoted start (.lines none []) 0 t).map fun (s, rest) => (gap.fold ++ s, rest)
    else
      match namedEscape? c, escapeWidth? c with
      | some d, _ =>
        (doubleQuoted start .empty 0 t).map fun (s, rest) => (gap.fold ++ d :: s, rest)
      | none, some width =>
        match numericEscape start width t with
        | .error e => .error e
        | .ok d =>
          (doubleQuoted start .empty width t).map fun (s, rest) => (gap.fold ++ d :: s, rest)
      | none, none => .error (.here .unknownEscape ((m, '\\') :: (n, c) :: t) .escape start)
  | 0, p :: t =>
    if isSpace p.2 || isBreak p.2 then doubleQuoted start (gap.push p.2) 0 t
    else
      match brokenQuotes? start (p :: t) with
      | some e => .error e
      | none =>
        (doubleQuoted start .empty 0 t).map fun (s, rest) => (gap.fold ++ p.2 :: s, rest)

end SqlScript.Yaml
