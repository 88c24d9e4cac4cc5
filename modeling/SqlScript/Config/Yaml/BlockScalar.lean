import SqlScript.Config.Yaml.SyntaxError

/-!
# Scalars in blocks

A scalar may be written as a block of lines below a bar or an angle bracket.  The
block is indented, and its indentation does not belong to the text.  After a bar every
line end counts; after an angle bracket the end of a line between two lines that begin
without a blank is folded into a blank.  A sign behind the bar or bracket says whether
the line ends after the last line with content belong to the text: none of them, one,
or all.
-/

namespace SqlScript.Yaml

/-- What becomes of the line ends after the last line with content. -/
inductive Chomping where
  | strip
  | clip
  | keep
  deriving DecidableEq, Repr

/-- What stands behind the bar or the angle bracket. -/
structure BlockHeader where
  chomping : Chomping := .clip
  /-- How much the block is indented; when absent its first line tells. -/
  indentation : Option Nat := none
  deriving DecidableEq, Repr

namespace BlockHeader

def chomping? (c : Char) : Option Chomping :=
  if c = '+' then some .keep else if c = '-' then some .strip else none

/-- Reads the digit for the indentation, if there is one. -/
def readDigit (start : Mark) (t : Text) : Except SyntaxError (Option Nat × Text) :=
  if t.first = '0' then .error (.here .zeroIndentation t .blockScalar start)
  else if t.first.isDigit then .ok (some (t.first.toNat - '0'.toNat), t.past 1)
  else .ok (none, t)

/-- Reads the sign and the digit in either order, up to the end of the line. -/
def read (start : Mark) (t : Text) : Except SyntaxError (BlockHeader × Text) := do
  let before := chomping? t.first
  let (indentation, t) ← readDigit start (if before.isSome then t.past 1 else t)
  let behind := if before.isNone && indentation.isSome then chomping? t.first else none
  let t : Text := if behind.isSome then t.past 1 else t
  let t := t.skipComment
  if isBreakOrEnd t.first then
    .ok ({ chomping := (before.or behind).getD .clip, indentation }, t.skipBreak)
  else .error (.here .missingCommentOrBreak t .blockScalar start)

end BlockHeader

/-- Lines without content and the indentation of the line after them. -/
structure EmptyLines where
  breaks : List Char
  indent : Nat
  rest : Text

/-- A block scalar in its document. -/
structure BlockScalar where
  start : Mark
  isLiteral : Bool
  /-- The column that the block must reach at least. -/
  least : Nat

namespace BlockScalar

/-- Whether a place lies before the indentation, if that is known. -/
def isLeftOf (known : Option Nat) (m : Mark) : Bool :=
  (known.map fun indent => decide (m.column < indent)).getD true

/-- Reads lines without content.  The indentation is found on the way if it is not
known: it is that of the first line with content, but no less than that of the lines
before it, of which `widest` is the widest. -/
def emptyLines (block : BlockScalar) (known : Option Nat) (widest : Nat) :
    Nat → Text → Except SyntaxError EmptyLines
  | 0, t => .ok { breaks := [], indent := known.getD widest, rest := t }
  | fuel + 1, t =>
    let t : Text := t.dropWhile fun p => p.2 == ' ' && isLeftOf known p.1
    let widest := max widest t.mark.column
    if t.first = '\t' && isLeftOf known t.mark then
      .error (.here .tabForIndentation t .blockScalar block.start)
    else if isBreak t.first then
      (emptyLines block known widest fuel (t.past 1)).map fun lines =>
        { lines with breaks := t.first :: lines.breaks }
    else
      .ok { breaks := [], indent := known.getD (max widest (max block.least 1)), rest := t }

/-- The text between two lines with content, of which the first ends in `last` and is
followed by the line ends `breaks`. -/
def between (block : BlockScalar) (last : Option Char) (breaks : List Char)
    (besideBlank : Bool) : List Char :=
  if !block.isLiteral && last = some '\n' && !besideBlank then
    if breaks.isEmpty then [' '] else breaks
  else last.toList ++ breaks

/-- What counts at the end of the block. -/
def chomp (last : Option Char) (breaks : List Char) : Chomping → List Char
  | .strip => []
  | .clip => last.toList
  | .keep => last.toList ++ breaks

/-- Reads the lines of the block from the first one with content on, of which `fuel` are
enough; `last` is the end of the line before, and `blank` whether that line begins with
a blank. -/
def lines (block : BlockScalar) (chomping : Chomping) (last : Option Char) (blank : Bool) :
    Nat → EmptyLines → Except SyntaxError (List Char × Text)
  | 0, before => .ok ([], before.rest)
  | fuel + 1, before =>
    let t := before.rest
    if t.mark.column = before.indent && !isEnd t.first then do
      let startsBlank := isSpace t.first
      let line := t.leading fun c => !isBreakOrEnd c
      let t := t.skip fun c => !isBreakOrEnd c
      let after ← block.emptyLines (some before.indent) 0 fuel t.skipBreak
      let last' := if isBreak t.first then some t.first else none
      let (s, rest) ← lines block chomping last' startsBlank fuel after
      .ok (block.between last before.breaks (blank || startsBlank) ++ (line ++ s), rest)
    else .ok (chomp last before.breaks chomping, t)

/-- Reads a block scalar, from behind its bar or angle bracket on. -/
def read (block : BlockScalar) (t : Text) : Except SyntaxError (List Char × Text) := do
  let (header, t) ← BlockHeader.read block.start t
  let known := header.indentation.map (block.least - 1 + ·)
  let before ← block.emptyLines known 0 t.length t
  block.lines header.chomping none false t.length before

end BlockScalar

end SqlScript.Yaml
