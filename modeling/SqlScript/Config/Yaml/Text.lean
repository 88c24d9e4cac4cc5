/-!
# The characters of a document and their places

A YAML document is read as a list of characters, each paired with its place.  Five
texts end a line: a line feed, a carriage return, both in this order, and U+0085 all
mean the same and are kept as a line feed; U+2028 and U+2029 are kept as they are.
A NUL at the end of the list stands for the end of the document, in which no other
NUL occurs: `forbidden?` finds the first character that a document must not have.  A
document is checked for such characters block by block, and no block is known that has
one.  `soundBlocks_eq` says that all of a document is known if it has none.
-/

namespace SqlScript.Yaml

/-- A place in a document, everything counted from 0. -/
structure Mark where
  line : Nat := 0
  column : Nat := 0
  /-- The number of bytes before the place. -/
  offset : Nat := 0
  deriving DecidableEq, Repr, Inhabited

namespace Mark

/-- The place to the right of a character. -/
def right (m : Mark) (c : Char) : Mark :=
  { m with column := m.column + 1, offset := m.offset + c.utf8Size }

/-- The beginning of the next line, after a line end of so many bytes. -/
def down (m : Mark) (width : Nat) : Mark where
  line := m.line + 1
  offset := m.offset + width

/-- The place where the document ends: a line of its own. -/
def freshLine (m : Mark) : Mark :=
  if m.column = 0 then m else { m with line := m.line + 1, column := 0 }

def isStart (m : Mark) : Bool :=
  m.line == 0 && m.column == 0

/-- The place as it is told to people, unless it is the beginning of the document. -/
def suffix (m : Mark) : String :=
  if m.isStart then "" else s!" at line {m.line + 1} column {m.column + 1}"

end Mark

/-- The characters of a document with their places, and a NUL for its end. -/
abbrev Text := List (Mark × Char)

/-! ### Kinds of characters -/

/-- The end of a line, as it is kept. -/
def isBreak (c : Char) : Bool :=
  c == '\n' || c == '\u2028' || c == '\u2029'

def isSpace (c : Char) : Bool :=
  c == ' ' || c == '\t'

def isEnd (c : Char) : Bool :=
  c == '\x00'

/-- The end of a line or of the document. -/
def isBreakOrEnd (c : Char) : Bool :=
  isBreak c || isEnd c

/-- What a word cannot contain. -/
def isGap (c : Char) : Bool :=
  isSpace c || isBreakOrEnd c

/-- Characters of the names of anchors, tags and directives. -/
def isNameChar (c : Char) : Bool :=
  c.isAlphanum || c == '_' || c == '-'

/-! ### Looking at a text -/

namespace Text

/-- The place of the first character. -/
def mark (t : Text) : Mark :=
  (t.head?.map Prod.fst).getD {}

/-- The character that so many others stand before. -/
def ahead (t : Text) (n : Nat) : Char :=
  (t[n]?.map Prod.snd).getD '\x00'

def first (t : Text) : Char :=
  t.ahead 0

/-- The text without so many characters. -/
def past (t : Text) (n : Nat) : Text :=
  t.drop n

/-- The characters before the first one that fails a test. -/
def leading (t : Text) (test : Char → Bool) : List Char :=
  (t.takeWhile fun p => test p.2).map Prod.snd

/-- The text from the first character on that fails a test. -/
def skip (t : Text) (test : Char → Bool) : Text :=
  t.dropWhile fun p => test p.2

/-- The rest of the text after the end of its first line, if it begins there. -/
def skipBreak (t : Text) : Text :=
  if isBreak t.first then t.past 1 else t

/-- The text after blanks and a comment. -/
def skipComment (t : Text) : Text :=
  let t := t.skip isSpace
  if t.first = '#' then t.skip fun c => !isBreakOrEnd c else t

/-- Whether a line that separates documents begins here: three times one character. -/
def isMarker (t : Text) (c : Char) : Bool :=
  t.mark.column == 0 && t.first == c && t.ahead 1 == c && t.ahead 2 == c && isGap (t.ahead 3)

/-- Whether any line that separates documents begins here. -/
def isAnyMarker (t : Text) : Bool :=
  t.isMarker '-' || t.isMarker '.'

end Text

/-! ### Making a text -/

/-- Pairs characters with their places, the first of which is given. -/
def place (m : Mark) : List Char → Text
  | [] => [(m, '\x00')]
  | '\r' :: '\n' :: s => (m, '\n') :: place (m.down 2) s
  | c :: s =>
    if c = '\n' || c = '\r' || c = '\u0085' then (m, '\n') :: place (m.down c.utf8Size) s
    else (m, c) :: place (if isBreak c then m.down c.utf8Size else m.right c) s

/-- Characters that a document may have. -/
def isAllowed (c : Char) : Bool :=
  let n := c.toNat
  n == 0x9 || n == 0xa || n == 0xd || (0x20 ≤ n && n ≤ 0x7e) || n == 0x85
    || (0xa0 ≤ n && n ≤ 0xd7ff) || (0xe000 ≤ n && n ≤ 0xfffd) || 0x10000 ≤ n

/-- The number of bytes in a block. -/
def blockSize : Nat := 16384

/-- The characters of the blocks before the first one with a character that a document
may not have; `block` is what was read of a block, backwards, and `room` the number of
bytes that are left in it.  No character lies in two blocks. -/
def soundBlocks (room : Nat) (block : List Char) : List Char → List Char
  | [] => block.reverse
  | c :: s =>
    if c.utf8Size ≤ room then
      if isAllowed c then soundBlocks (room - c.utf8Size) (c :: block) s else []
    else
      block.reverse ++ if isAllowed c then soundBlocks (blockSize - c.utf8Size) [c] s else []

theorem soundBlocks_eq {s : List Char} (h : s.all isAllowed) (room : Nat) (block : List Char) :
    soundBlocks room block s = block.reverse ++ s := by
  induction s generalizing room block with
  | nil => simp [soundBlocks]
  | cons c s ih =>
    simp only [List.all_cons, Bool.and_eq_true] at h
    simp [soundBlocks, h.1, ih h.2]

/-- What is known of a document. -/
def Text.of (document : String) : Text :=
  place {} (soundBlocks blockSize [] document.toList)

/-- How many bytes stand before the first character that a document may not have. -/
def forbidden? (document : String) : Option Nat :=
  let allowed := document.toList.takeWhile isAllowed
  if allowed.length < document.length then some (String.ofList allowed).utf8ByteSize else none

end SqlScript.Yaml
